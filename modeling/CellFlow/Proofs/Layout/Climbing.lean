import CellFlow.Proofs.Layout.Computing
import CellFlow.Proofs.Layout.Cycles

/-!
Higher ranks lie further in the direction of the layout: in exact arithmetic the centres of a
stack climb along the main axis, and turning the axis round turns the direction with it. Nothing
is asked of the margins and of the gap between the nodes of a rank.
-/

set_option autoImplicit false

namespace CellFlow

/-- One point comes strictly before another when the direction is followed. -/
def Direction.IsBefore (d : Direction) (p q : Point ℚ) : Prop :=
  match d with
  | .topToBottom => p.y < q.y
  | .bottomToTop => q.y < p.y
  | .leftToRight => p.x < q.x
  | .rightToLeft => q.x < p.x

namespace Stack

open Coordinate

variable {ι : Type} {d : Direction} {s : Spacing ℚ} {size : ι → Size ℚ} {rank : ι → ℕ}

theorem isBefore_toPoint (d : Direction) (c c' : Centre ℚ) : d.IsBefore (toPoint d c) (toPoint d c') ↔
    if d.isReversed then c'.main < c.main else c.main < c'.main := by
  cases d <;> rfl

/-- Centres between two coordinates of the main axis, those of higher ranks further along it. -/
structure Climbs (rank : ι → ℕ) (start stop : ℚ) (centres : List (ι × Centre ℚ)) : Prop where
  start_lt : ∀ e ∈ centres, start < e.2.main
  lt_stop : ∀ e ∈ centres, e.2.main < stop
  main_lt : ∀ e ∈ centres, ∀ f ∈ centres, rank e.1 < rank f.1 → e.2.main < f.2.main

theorem climbs_pack {gap t : ℚ} {extent : ι → ℚ} (start cross : ℚ) {layer : List ι} {k : ℕ}
    (hk : ∀ v ∈ layer, rank v = k) (hg : 0 ≤ s.rankGap) (ht : 0 < t) :
    Climbs rank start (start + (t + s.rankGap)) (pack gap extent (start + t / 2) cross layer) := by
  refine ⟨fun e he => ?_, fun e he => ?_, fun e he f hf hr => absurd hr ?_⟩
  · rw [main_of_mem_pack he]
    linarith
  · rw [main_of_mem_pack he]
    linarith
  · rw [hk _ (mem_of_mem_pack he), hk _ (mem_of_mem_pack hf)]
    exact Nat.lt_irrefl k

theorem Climbs.append {start middle stop : ℚ} {cs cs' : List (ι × Centre ℚ)}
    (h : Climbs rank start middle cs) (h' : Climbs rank middle stop cs') (hm : start ≤ middle)
    (hm' : middle ≤ stop) (hr : ∀ e ∈ cs, ∀ f ∈ cs', rank e.1 < rank f.1) :
    Climbs rank start stop (cs ++ cs') := by
  refine ⟨fun e he => ?_, fun e he => ?_, fun e he f hf hef => ?_⟩
  · rcases List.mem_append.1 he with he | he
    · exact h.start_lt e he
    · exact hm.trans_lt (h'.start_lt e he)
  · rcases List.mem_append.1 he with he | he
    · exact (h.lt_stop e he).trans_le hm'
    · exact h'.lt_stop e he
  · rcases List.mem_append.1 he with he | he <;> rcases List.mem_append.1 hf with hf | hf
    · exact h.main_lt e he f hf hef
    · exact (h.lt_stop e he).trans (h'.start_lt f hf)
    · exact absurd (hr f hf e he) (Nat.lt_asymm hef)
    · exact h'.main_lt e he f hf hef

/-- A stack of layers whose ranks count up from some rank. -/
theorem climbs_stack {layers : List (List ι)} (hn : ∀ layer ∈ layers, layer ≠ [])
    (hg : 0 ≤ s.rankGap) (hx : ∀ v ∈ layers.flatten, 0 < mainExtent d (size v)) {k : ℕ}
    (hk : ∀ i layer, layers[i]? = some layer → ∀ v ∈ layer, rank v = k + i) (cursor : ℚ) :
    cursor ≤ (stack d s size cursor layers).2 ∧
      Climbs rank cursor (stack d s size cursor layers).2 (stack d s size cursor layers).1 := by
  induction layers generalizing cursor k with
  | nil =>
    have he : ∀ e : ι × Centre ℚ, e ∉ (stack d s size cursor []).1 := fun e he => by cases he
    exact ⟨le_refl cursor, fun e h => absurd h (he e), fun e h => absurd h (he e),
      fun e h => absurd h (he e)⟩
  | cons layer layers ih =>
    have hne : layer ≠ [] := hn layer List.mem_cons_self
    have hnr : ∀ l ∈ layers, l ≠ [] := fun l hl => hn l (List.mem_cons_of_mem layer hl)
    obtain ⟨t, ht⟩ := exists_thickness (fun v => mainExtent d (size v)) hne
    have hpos : 0 < t := by
      obtain ⟨v, hv⟩ := List.exists_mem_of_ne_nil layer hne
      exact (hx v (by simp [hv])).trans_le (le_thickness ht v hv)
    have hxr : ∀ v ∈ layers.flatten, 0 < mainExtent d (size v) := by
      intro v hv
      refine hx v ?_
      rw [List.flatten_cons]
      exact List.mem_append_right _ hv
    have hkl : ∀ v ∈ layer, rank v = k := fun v hv => hk 0 layer rfl v hv
    have hkr : ∀ i l, layers[i]? = some l → ∀ v ∈ l, rank v = k + 1 + i := by
      intro i l hl v hv
      have hr := hk (i + 1) l (by simpa using hl) v hv
      omega
    obtain ⟨hle, hc⟩ := ih hnr hxr hkr (cursor + (t + s.rankGap))
    have hstep : cursor ≤ cursor + (t + s.rankGap) := by linarith
    rw [stack_cons ht]
    refine ⟨hstep.trans hle, (climbs_pack cursor _ hkl hg hpos).append hc hstep hle ?_⟩
    intro e he f hf
    have hfl : f.1 ∈ layers.flatten := by
      have hm := List.mem_map_of_mem (f := (·.1)) hf
      rwa [map_fst_stack _ hnr] at hm
    obtain ⟨l, hl, hfl⟩ := List.mem_flatten.1 hfl
    obtain ⟨i, hi⟩ := List.getElem?_of_mem hl
    rw [hkl _ (mem_of_mem_pack he), hkr i l hi _ hfl]
    omega

theorem isBefore_place {layers : List (List ι)} (hn : ∀ layer ∈ layers, layer ≠ [])
    (hg : 0 ≤ s.rankGap) (hx : ∀ v ∈ layers.flatten, 0 < mainExtent d (size v))
    (hk : ∀ i layer, layers[i]? = some layer → ∀ v ∈ layer, rank v = i) :
    ∀ e ∈ place d s size layers, ∀ f ∈ place d s size layers, rank e.1 < rank f.1 →
      d.IsBefore e.2 f.2 := by
  have hk' : ∀ i layer, layers[i]? = some layer → ∀ v ∈ layer, rank v = 0 + i := by
    simpa only [Nat.zero_add] using hk
  obtain ⟨-, h⟩ := climbs_stack hn hg hx hk' s.mainMargin
  intro e he f hf hr
  obtain ⟨⟨v, c⟩, hc, rfl⟩ := List.mem_map.1 he
  obtain ⟨⟨w, c'⟩, hc', rfl⟩ := List.mem_map.1 hf
  rw [isBefore_toPoint]
  by_cases hd : d.isReversed = true
  · simp only [hd, if_true] at hc hc' ⊢
    obtain ⟨a, ha, hac⟩ := List.mem_map.1 hc
    obtain ⟨b, hb, hbc⟩ := List.mem_map.1 hc'
    cases hac
    cases hbc
    have hab := h.main_lt a ha b hb hr
    simp only
    linarith
  · simp only [hd, Bool.false_eq_true, if_false] at hc hc' ⊢
    exact h.main_lt (v, c) hc (w, c') hc' hr

end Stack

end CellFlow
