/-!
Text inside markup: the five characters that markup gives a meaning are written as
character references.
-/

set_option autoImplicit false

namespace CellFlow.Text

def markupChar : Char → List Char
  | '&' => "&amp;".toList
  | '<' => "&lt;".toList
  | '>' => "&gt;".toList
  | '"' => "&quot;".toList
  | '\'' => "&#x27;".toList
  | c => [c]

def markup (s : String) : String := String.ofList (s.toList.flatMap markupChar)

theorem markupChar_plain (c : Char) :
    '<' ∉ markupChar c ∧ '>' ∉ markupChar c ∧ '"' ∉ markupChar c ∧ '\'' ∉ markupChar c := by
  unfold markupChar
  split
  case h_6 h1 h2 h3 h4 h5 =>
    simp only [List.mem_singleton]
    exact ⟨fun h => h2 h.symm, fun h => h3 h.symm, fun h => h4 h.symm, fun h => h5 h.symm⟩
  all_goals decide

end CellFlow.Text
