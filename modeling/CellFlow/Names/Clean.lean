/-!
Source text without what is not code: comments go, triple-quoted literals go, and the
bodies of one-line literals are blanked. The passes run one after the other over the
whole text, and a quote without a partner leaves the rest of the text as it is.
-/

set_option autoImplicit false

namespace CellFlow.Names

/-- The text without its comments: from a hash up to the end of the line. -/
def dropComments (inside : Bool) : List Char → List Char
  | [] => []
  | c :: s =>
    if c = '\n' then c :: dropComments false s
    else if inside ∨ c = '#' then dropComments true s
    else c :: dropComments false s

mutual

/-- The text without the literals between three quotes and the next three. -/
def dropTriples (q : Char) : List Char → List Char
  | [] => []
  | [a] => [a]
  | [a, b] => [a, b]
  | a :: b :: c :: s =>
    if a = q ∧ b = q ∧ c = q then (leaveTriple q s).getD (a :: b :: c :: s)
    else a :: dropTriples q (b :: c :: s)

def leaveTriple (q : Char) : List Char → Option (List Char)
  | [] => none
  | [_] => none
  | [_, _] => none
  | a :: b :: c :: s =>
    if a = q ∧ b = q ∧ c = q then some (dropTriples q s) else leaveTriple q (b :: c :: s)

end

mutual

def blankQuotes (q : Char) : List Char → List Char
  | [] => []
  | a :: s =>
    if a = q then
      match leaveQuote q s with
      | some t => q :: q :: t
      | none => a :: s
    else a :: blankQuotes q s

def leaveQuote (q : Char) : List Char → Option (List Char)
  | [] => none
  | a :: s => if a = q then some (blankQuotes q s) else leaveQuote q s

end

def clean (s : List Char) : List Char :=
  blankQuotes '"' (blankQuotes '\'' (dropTriples '"' (dropTriples '\'' (dropComments false s))))

end CellFlow.Names
