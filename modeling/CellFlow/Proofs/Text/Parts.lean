import Mathlib.Data.List.Infix

/-!
Where a part stands in a text: characters that the part has not part the text in two.
-/

set_option autoImplicit false

namespace CellFlow.Text

variable {α : Type} {w a b : List α} {x c : α}

theorem isPrefix_append_cons (hc : c ∉ w) : w <+: a ++ c :: b ↔ w <+: a := by
  induction a generalizing w with
  | nil =>
    rw [List.nil_append, List.prefix_nil, List.prefix_cons_iff]
    constructor
    · rintro (rfl | ⟨t, rfl, -⟩)
      · rfl
      · simp at hc
    · exact fun h => .inl h
  | cons d a ih =>
    rw [List.cons_append, List.prefix_cons_iff, List.prefix_cons_iff]
    refine or_congr_right (exists_congr fun t => and_congr_right fun ht => ih fun hm => hc ?_)
    rw [ht]
    exact List.mem_cons_of_mem d hm

theorem isInfix_append_cons (hc : c ∉ w) (hne : w ≠ []) :
    w <:+: a ++ c :: b ↔ w <:+: a ∨ w <:+: b := by
  induction a with
  | nil =>
    rw [List.nil_append, List.infix_cons_iff, List.infix_nil, List.prefix_cons_iff]
    constructor
    · rintro ((h | ⟨t, rfl, -⟩) | h)
      · exact absurd h hne
      · simp at hc
      · exact .inr h
    · rintro (h | h)
      · exact absurd h hne
      · exact .inr h
  | cons d a ih =>
    rw [List.cons_append, List.infix_cons_iff, List.infix_cons_iff, ih, ← List.cons_append,
      isPrefix_append_cons hc, or_assoc]

theorem isInfix_append_of_not_mem (hx : x ∉ a) : x :: w <:+: a ++ b ↔ x :: w <:+: b := by
  induction a with
  | nil => rfl
  | cons d a ih =>
    rw [List.mem_cons, not_or] at hx
    rw [List.cons_append, List.infix_cons_iff, ih hx.2, List.cons_prefix_cons]
    exact ⟨fun h => h.elim (fun h => absurd h.1 hx.1) id, .inr⟩

/-- What holds in all parts and in what stands between them holds in the whole. -/
theorem forall_mem_intercalate {p : α → Prop} {sep : List α} (hs : ∀ c ∈ sep, p c) {ps : List (List α)}
    (h : ∀ l ∈ ps, ∀ c ∈ l, p c) : ∀ c ∈ sep.intercalate ps, p c := by
  induction ps with
  | nil => simp
  | cons l ps ih =>
    rw [List.forall_mem_cons] at h
    cases ps with
    | nil => simpa using h.1
    | cons m ps =>
      rw [List.intercalate_cons_cons]
      simp only [List.forall_mem_append]
      exact ⟨⟨h.1, hs⟩, ih h.2⟩

end CellFlow.Text
