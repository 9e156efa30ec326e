/-!
Finding a text inside another.
-/

set_option autoImplicit false

namespace CellFlow.Text

def isPart (part : List Char) : List Char → Bool
  | [] => part.isEmpty
  | c :: s => part.isPrefixOf (c :: s) || isPart part s

def splitFirst? (part : List Char) : List Char → Option (List Char × List Char)
  | [] => if part.isEmpty then some ([], []) else none
  | c :: s =>
    if part.isPrefixOf (c :: s) then some ([], (c :: s).drop part.length)
    else (splitFirst? part s).map fun (before, behind) => (c :: before, behind)

def splitLast? (part : List Char) : List Char → Option (List Char × List Char)
  | [] => if part.isEmpty then some ([], []) else none
  | c :: s =>
    match splitLast? part s with
    | some (before, behind) => some (c :: before, behind)
    | none =>
      if part.isPrefixOf (c :: s) then some ([], (c :: s).drop part.length) else none

/-- The pieces between the occurrences of a character; the current piece comes reversed. -/
def splitAt (sep : Char) : List Char → List Char → List (List Char)
  | piece, [] => [piece.reverse]
  | piece, c :: s => if c = sep then piece.reverse :: splitAt sep [] s else splitAt sep (c :: piece) s

def splitOn (sep : Char) (s : List Char) : List (List Char) := splitAt sep [] s

theorem append_of_splitFirst? {part s : List Char} {p : List Char × List Char}
    (h : splitFirst? part s = some p) : s = p.1 ++ part ++ p.2 := by
  induction s generalizing p with
  | nil =>
    simp only [splitFirst?] at h
    split at h
    · rename_i he
      injection h with h
      subst h
      simp_all
    · simp at h
  | cons c s ih =>
    simp only [splitFirst?] at h
    split at h
    · rename_i hp
      injection h with h
      subst h
      obtain ⟨t, ht⟩ := List.isPrefixOf_iff_prefix.1 hp
      simp [← ht]
    · simp only [Option.map_eq_some_iff] at h
      obtain ⟨q, hq, rfl⟩ := h
      simp [ih hq]

end CellFlow.Text
