/-!
Lists without repetition, filled one element after the other: each element stays where it
was met first.
-/

set_option autoImplicit false

namespace CellFlow

variable {α : Type} [DecidableEq α]

def addNew (l : List α) (a : α) : List α := if a ∈ l then l else l ++ [a]

theorem addNew_of_mem {l : List α} {a : α} (h : a ∈ l) : addNew l a = l := if_pos h

theorem addNew_of_not_mem {l : List α} {a : α} (h : a ∉ l) : addNew l a = l ++ [a] := if_neg h

theorem mem_addNew {l : List α} {a b : α} : b ∈ addNew l a ↔ b ∈ l ∨ b = a := by
  unfold addNew
  split
  · rename_i h
    constructor
    · exact .inl
    · rintro (hb | rfl)
      · exact hb
      · exact h
  · simp

theorem mem_foldl_addNew {l m : List α} {b : α} : b ∈ l.foldl addNew m ↔ b ∈ m ∨ b ∈ l := by
  induction l generalizing m with
  | nil => simp
  | cons a l ih => simp [ih, mem_addNew, or_assoc]

theorem nodup_addNew {l : List α} {a : α} (h : l.Nodup) : (addNew l a).Nodup := by
  by_cases ha : a ∈ l
  · rw [addNew_of_mem ha]
    exact h
  · rw [addNew_of_not_mem ha, List.nodup_append]
    refine ⟨h, by simp, fun b hb c hc => ?_⟩
    rintro rfl
    exact ha (List.mem_singleton.1 hc ▸ hb)

theorem nodup_foldl_addNew {l m : List α} (h : m.Nodup) : (l.foldl addNew m).Nodup := by
  induction l generalizing m with
  | nil => exact h
  | cons a l ih => exact ih (nodup_addNew h)

/-- Adding elements one by one keeps their first occurrences. -/
theorem foldl_addNew (l m : List α) :
    l.foldl addNew m = m ++ (l.filter fun a => a ∉ m).eraseDups := by
  induction l generalizing m with
  | nil => simp
  | cons a l ih =>
    rw [List.foldl_cons, ih]
    by_cases ha : a ∈ m
    · simp [addNew_of_mem ha, ha]
    · have hf : (l.filter fun b => b ∉ m ++ [a]) =
          (l.filter fun b => b ∉ m).filter fun b => !b == a := by
        rw [List.filter_filter]
        apply List.filter_congr
        intro b _
        by_cases hb : b = a <;> simp [hb]
      rw [addNew_of_not_mem ha, hf, List.filter_cons_of_pos (by simpa using ha), List.eraseDups_cons]
      simp

theorem foldl_addNew_nil (l : List α) : l.foldl addNew [] = l.eraseDups := by
  rw [foldl_addNew, List.filter_eq_self.2 (by simp), List.nil_append]

theorem nodup_eraseDups (l : List α) : l.eraseDups.Nodup := by
  rw [← foldl_addNew_nil]
  exact nodup_foldl_addNew .nil

end CellFlow
