/-!
The style sheet of a page.
-/

set_option autoImplicit false

namespace CellFlow.Page

/-- A rule of a style sheet: a selector and its declarations, on one line or spread over several. -/
inductive StyleRule where
  | brief (selector : String) (declarations : List String) : StyleRule
  | spread (selector : String) (declarations : List String) : StyleRule
  deriving DecidableEq, Repr

def StyleRule.lines : StyleRule → List String
  | .brief selector declarations =>
    [selector ++ " \x7b " ++ String.join (declarations.map fun d => d ++ "; ") ++ "\x7d"]
  | .spread selector declarations =>
    (selector ++ " \x7b") :: (declarations.map fun d => "    " ++ d ++ ";") ++ ["\x7d"]

def styles : List StyleRule :=
  [.brief "*" ["box-sizing: border-box", "margin: 0", "padding: 0"],
   .spread "body"
     ["font-family: -apple-system, BlinkMacSystemFont, 'Segoe UI', Arial, sans-serif",
     "background: #f5f5f5", "color: #333"],
   .brief ".header"
     ["background: white", "padding: 20px", "box-shadow: 0 2px 4px rgba(0,0,0,0.1)"],
   .brief "h1" ["margin-bottom: 10px"],
   .spread ".stats"
     ["background: white", "padding: 15px 20px", "margin-top: 2px", "display: grid",
     "grid-template-columns: repeat(auto-fit, minmax(180px, 1fr))", "gap: 20px"],
   .brief ".stat" ["display: flex", "flex-direction: column"],
   .brief ".stat-label" ["color: #666", "font-size: 14px", "margin-bottom: 5px"],
   .brief ".stat-value" ["font-size: 24px", "font-weight: bold"],
   .spread ".controls"
     ["background: white", "padding: 15px 20px", "margin-top: 2px", "display: flex", "gap: 15px",
     "align-items: center", "flex-wrap: wrap"],
   .brief ".control-group" ["display: flex", "align-items: center", "gap: 8px"],
   .brief "label" ["font-weight: 500", "color: #666"],
   .spread "select, input[type=\"text\"], button"
     ["padding: 8px 12px", "border: 1px solid #ddd", "border-radius: 4px", "font-size: 14px"],
   .brief "button" ["background: #3498DB", "color: white", "border: none", "cursor: pointer"],
   .brief "button:hover" ["background: #2980B9"],
   .spread "#mynetwork"
     ["width: 100%", "height: calc(100vh - 280px)", "border: 1px solid #ddd", "background: white",
     "margin-top: 2px"],
   .brief ".legend" ["background: white", "padding: 15px 20px", "margin-top: 2px"],
   .brief ".legend-items" ["display: flex", "gap: 20px", "flex-wrap: wrap"],
   .brief ".legend-item" ["display: flex", "align-items: center", "gap: 8px"],
   .brief ".legend-color"
     ["width: 20px", "height: 20px", "border-radius: 4px", "border: 2px solid #333"]]

def indent (n : Nat) (lines : List String) : List String :=
  lines.map fun l => if l.isEmpty then l else String.ofList (List.replicate n ' ') ++ l

def styleLines : List String := indent 8 (styles.flatMap StyleRule.lines)

end CellFlow.Page
