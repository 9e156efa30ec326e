import CellFlow.Graph.Collapse
import Mathlib.Data.List.TakeWhile
import Std.Data.String.ToInt

/-!
The ids of cells, artifacts and groups do not collide: the id of a cell is made of digits and
a sign, that of an artifact goes on behind it, and that of a group starts with a letter.
-/

set_option autoImplicit false

namespace CellFlow

def isPositionChar (c : Char) : Bool := c.isDigit || c == '-'

theorem isPositionChar_of_mem_toString {p : Int} {c : Char} (h : c ∈ (toString p).toList) :
    isPositionChar c := by
  rw [Int.toString_eq_repr, Int.repr_eq_if] at h
  split at h
  · rw [Nat.toList_repr] at h
    simp [isPositionChar, Nat.isDigit_of_mem_toDigits (by omega) (by omega) h]
  · rw [String.toList_append, List.mem_append, Nat.toList_repr] at h
    rcases h with h | h
    · have hc : c = '-' := by simpa using h
      simp [isPositionChar, hc]
    · simp [isPositionChar, Nat.isDigit_of_mem_toDigits (by omega) (by omega) h]

theorem toString_int_injective {p q : Int} (h : toString p = toString q) : p = q :=
  Int.repr_injective h

theorem toString_int_ne_empty (p : Int) : toString p ≠ "" := by
  intro h
  have hl := congrArg String.toList h
  rw [Int.toString_eq_repr, Int.repr_eq_if] at hl
  split at hl
  · rw [Nat.toList_repr] at hl
    exact Nat.toDigits_ne_nil hl
  · simp at hl

namespace Collapse

theorem toList_groupId (i : Nat) :
    (groupId i).toList = "group-".toList ++ (toString (i + 1)).toList := by
  have h : groupId i = "group-" ++ toString (i + 1) := rfl
  rw [h, String.toList_append]

theorem groupId_injective {i j : Nat} (h : groupId i = groupId j) : i = j := by
  have hl := congrArg String.toList h
  rw [toList_groupId, toList_groupId, List.append_cancel_left_eq, String.toList_inj] at hl
  have := Nat.repr_injective hl
  omega

theorem groupId_ne_toString (i : Nat) (p : Int) : groupId i ≠ toString p := by
  intro h
  have hg : 'g' ∈ (toString p).toList := by
    rw [← h, toList_groupId]
    simp
  have := isPositionChar_of_mem_toString hg
  simp [isPositionChar] at this

end Collapse

theorem toList_artifactId (owner : String) (i : Int) :
    (artifactId owner i).toList = owner.toList ++ (artifactMark.toList ++ (toString i).toList) := by
  simp [artifactId, numberedId]

theorem takeWhile_reverse_artifactId (owner : String) (i : Int) :
    (artifactId owner i).toList.reverse.takeWhile isPositionChar = (toString i).toList.reverse ++ ['-'] := by
  rw [toList_artifactId, List.reverse_append, List.reverse_append, List.append_assoc,
    List.takeWhile_append_of_pos fun c hc => isPositionChar_of_mem_toString (List.mem_reverse.1 hc)]
  rfl

/-- The number stands at the end, behind the last character that no number has. -/
theorem artifactId_injective {owner owner' : String} {i j : Int}
    (h : artifactId owner i = artifactId owner' j) : owner = owner' ∧ i = j := by
  obtain rfl : i = j := by
    have ht := congrArg (fun s : String => s.toList.reverse.takeWhile isPositionChar) h
    simp only [takeWhile_reverse_artifactId, List.append_cancel_right_eq, List.reverse_inj,
      String.toList_inj] at ht
    exact toString_int_injective ht
  have hl := congrArg String.toList h
  rw [toList_artifactId, toList_artifactId, List.append_cancel_right_eq, String.toList_inj] at hl
  exact ⟨hl, rfl⟩

theorem artifactId_ne_toString (p i q : Int) : artifactId (toString p) i ≠ toString q := by
  intro h
  have ha : 'a' ∈ (toString q).toList := by
    rw [← h, toList_artifactId]
    simp [artifactMark]
  have := isPositionChar_of_mem_toString ha
  simp [isPositionChar] at this

end CellFlow
