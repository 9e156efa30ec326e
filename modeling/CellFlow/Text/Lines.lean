/-!
Line ends: a carriage return, alone or before a line feed, counts as a line feed.
-/

set_option autoImplicit false

namespace CellFlow.Text

def plainLines : List Char → List Char
  | [] => []
  | '\r' :: '\n' :: s => '\n' :: plainLines s
  | c :: s => (if c = '\r' then '\n' else c) :: plainLines s

theorem not_mem_plainLines (s : List Char) : '\r' ∉ plainLines s := by
  fun_induction plainLines s with
  | case1 => simp
  | case2 s ih => simp [ih]
  | case3 c s _ ih =>
    simp only [List.mem_cons, not_or]
    refine ⟨?_, ih⟩
    split
    · decide
    · rename_i h
      exact fun h' => h h'.symm

end CellFlow.Text
