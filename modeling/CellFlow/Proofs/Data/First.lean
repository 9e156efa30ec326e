import Mathlib.Data.List.Induction
import Mathlib.Data.List.Nodup

/-!
The first element of a list that breaks a rule, with the elements before it, which keep it.
-/

set_option autoImplicit false

namespace CellFlow

theorem exists_first_repeated {α β : Type} {f : α → β} {l : List α} (h : ¬ (l.map f).Nodup) :
    ∃ before a after, l = before ++ a :: after ∧ (before.map f).Nodup ∧ f a ∈ before.map f := by
  induction l using List.reverseRecOn with
  | nil => exact absurd .nil h
  | append_singleton l a ih =>
    by_cases hl : (l.map f).Nodup
    · refine ⟨l, a, [], rfl, hl, ?_⟩
      by_contra ha
      refine h ?_
      rw [List.map_append, List.map_singleton, ← List.concat_eq_append, List.nodup_concat]
      exact ⟨ha, hl⟩
    · obtain ⟨before, b, after, rfl, hb, hm⟩ := ih hl
      exact ⟨before, b, after ++ [a], by simp, hb, hm⟩

variable {α : Type} {P : α → Prop}

theorem exists_first_not {l : List α} (h : ¬ ∀ a ∈ l, P a) :
    ∃ before a after, l = before ++ a :: after ∧ (∀ b ∈ before, P b) ∧ ¬ P a := by
  induction l using List.reverseRecOn with
  | nil => exact absurd (fun a ha => by cases ha) h
  | append_singleton l a ih =>
    by_cases hl : ∀ b ∈ l, P b
    · refine ⟨l, a, [], rfl, hl, fun ha => h fun b hb => ?_⟩
      rcases List.mem_append.1 hb with hb | hb
      · exact hl b hb
      · exact List.mem_singleton.1 hb ▸ ha
    · obtain ⟨before, b, after, rfl, hb, hn⟩ := ih hl
      exact ⟨before, b, after ++ [a], by simp, hb, hn⟩

theorem eq_of_first {before before' after after' : List α} {a a' : α}
    (he : before ++ a :: after = before' ++ a' :: after') (hb : ∀ b ∈ before, P b) (ha : ¬ P a)
    (hb' : ∀ b ∈ before', P b) (ha' : ¬ P a') : a = a' := by
  induction before generalizing before' with
  | nil =>
    cases before' with
    | nil => exact (List.cons_eq_cons.1 he).1
    | cons b before' => exact absurd ((List.cons_eq_cons.1 he).1 ▸ hb' b List.mem_cons_self) ha
  | cons b before ih =>
    cases before' with
    | nil => exact absurd ((List.cons_eq_cons.1 he).1 ▸ hb b List.mem_cons_self) ha'
    | cons b' before' =>
      exact ih (List.cons_eq_cons.1 he).2 (fun c hc => hb c (List.mem_cons_of_mem b hc))
        fun c hc => hb' c (List.mem_cons_of_mem b' hc)

end CellFlow
