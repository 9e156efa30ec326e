import CellFlow.Proofs.Layout.Exact

/-!
Stacked layers keep their nodes apart: nodes of one layer by the gap of nodes, nodes of
different layers by the gap of ranks, and all of them keep the margins free. Turning the main
axis round changes nothing about that.
-/

set_option autoImplicit false

namespace CellFlow.Stack

open Coordinate

section Order

variable {ι α : Type} [Coordinate α] {d : Direction} {s : Spacing α} {size : ι → Size α}

theorem pack_cons {gap main : α} {extent : ι → α} (cursor : α) (v : ι) (layer : List ι) :
    pack gap extent main cursor (v :: layer) = (v, ⟨main, cursor + half (extent v)⟩) ::
      pack gap extent main (cursor + (extent v + gap)) layer := rfl

theorem map_fst_pack {gap main : α} {extent : ι → α} (cursor : α) (layer : List ι) :
    (pack gap extent main cursor layer).map (·.1) = layer := by
  induction layer generalizing cursor with
  | nil => rfl
  | cons v layer ih => rw [pack_cons, List.map_cons, ih]

theorem mem_of_mem_pack {gap main : α} {extent : ι → α} {cursor : α} {layer : List ι}
    {e : ι × Centre α} (he : e ∈ pack gap extent main cursor layer) : e.1 ∈ layer := by
  have hm := List.mem_map_of_mem (f := (·.1)) he
  rwa [map_fst_pack] at hm

theorem main_of_mem_pack {gap main : α} {extent : ι → α} {cursor : α} {layer : List ι}
    {e : ι × Centre α} (he : e ∈ pack gap extent main cursor layer) : e.2.main = main := by
  induction layer generalizing cursor with
  | nil => cases he
  | cons v layer ih =>
    rw [pack_cons] at he
    rcases List.mem_cons.1 he with rfl | he
    · rfl
    · exact ih he

theorem exists_thickness (extent : ι → α) {layer : List ι} (h : layer ≠ []) :
    ∃ t, thickness extent layer = some t := by
  cases layer with
  | nil => exact absurd rfl h
  | cons v layer => exact ⟨_, rfl⟩

theorem stack_cons {cursor t : α} {layer : List ι} {layers : List (List ι)}
    (ht : thickness (fun v => mainExtent d (size v)) layer = some t) :
    stack d s size cursor (layer :: layers) =
      (pack s.nodeGap (fun v => crossExtent d (size v)) (cursor + half t) s.crossMargin layer ++
        (stack d s size (cursor + (t + s.rankGap)) layers).1,
       (stack d s size (cursor + (t + s.rankGap)) layers).2) := by
  rw [stack]
  simp only [ht]

theorem map_fst_stack (cursor : α) {layers : List (List ι)} (hn : ∀ layer ∈ layers, layer ≠ []) :
    (stack d s size cursor layers).1.map (·.1) = layers.flatten := by
  induction layers generalizing cursor with
  | nil => rfl
  | cons layer layers ih =>
    obtain ⟨t, ht⟩ := exists_thickness (fun v => mainExtent d (size v)) (hn layer List.mem_cons_self)
    rw [stack_cons ht, List.map_append, map_fst_pack, List.flatten_cons,
      ih _ fun l hl => hn l (List.mem_cons_of_mem layer hl)]

theorem map_fst_place {layers : List (List ι)} (hn : ∀ layer ∈ layers, layer ≠ []) :
    (place d s size layers).map (·.1) = layers.flatten := by
  rw [place, List.map_map, ← map_fst_stack (d := d) (s := s) s.mainMargin hn]
  by_cases hr : d.isReversed = true
  · simp only [if_pos hr, turnRound, List.map_map]
    rfl
  · simp only [if_neg hr]
    rfl

end Order

variable {ι : Type} {d : Direction} {s : Spacing ℚ} {size : ι → Size ℚ} {rank : ι → ℕ}

def mainSpan (d : Direction) (size : ι → Size ℚ) (e : ι × Centre ℚ) : Span :=
  Span.around e.2.main (mainExtent d (size e.1))

def crossSpan (d : Direction) (size : ι → Size ℚ) (e : ι × Centre ℚ) : Span :=
  Span.around e.2.cross (crossExtent d (size e.1))

/-- Two nodes keep the gap that their ranks ask for. -/
structure AreApart (d : Direction) (s : Spacing ℚ) (size : ι → Size ℚ) (rank : ι → ℕ)
    (e f : ι × Centre ℚ) : Prop where
  across : rank e.1 = rank f.1 → Span.Apart s.nodeGap (crossSpan d size e) (crossSpan d size f)
  along : rank e.1 ≠ rank f.1 → Span.Apart s.rankGap (mainSpan d size e) (mainSpan d size f)

structure IsSpacious (d : Direction) (s : Spacing ℚ) (size : ι → Size ℚ) (vs : List ι) : Prop where
  nodeGap : 0 ≤ s.nodeGap
  rankGap : 0 ≤ s.rankGap
  main : ∀ v ∈ vs, 0 ≤ mainExtent d (size v)
  cross : ∀ v ∈ vs, 0 ≤ crossExtent d (size v)

theorem IsSpacious.mono {vs ws : List ι} (h : IsSpacious d s size ws) (hm : ∀ v ∈ vs, v ∈ ws) :
    IsSpacious d s size vs :=
  ⟨h.nodeGap, h.rankGap, fun v hv => h.main v (hm v hv), fun v hv => h.cross v (hm v hv)⟩

section Pack

variable {gap main : ℚ} {extent : ι → ℚ}

end Pack

theorem le_thickness {extent : ι → ℚ} {layer : List ι} {t : ℚ} (h : thickness extent layer = some t) :
    ∀ v ∈ layer, extent v ≤ t := by
  cases layer with
  | nil => cases h
  | cons v layer =>
    obtain rfl := Option.some.inj h
    obtain ⟨ha, hl⟩ := le_largest (extent v) (layer.map extent)
    intro u hu
    rcases List.mem_cons.1 hu with rfl | hu
    · exact ha
    · exact hl _ (List.mem_map_of_mem hu)

/-- Centres that keep the margin across the main axis free, that start at one coordinate of the
main axis and end a gap before another, and that are as far apart as their ranks ask for. -/
structure IsStacked (d : Direction) (s : Spacing ℚ) (size : ι → Size ℚ) (rank : ι → ℕ)
    (start stop : ℚ) (centres : List (ι × Centre ℚ)) : Prop where
  start_le : ∀ e ∈ centres, start ≤ (mainSpan d size e).low
  le_stop : ∀ e ∈ centres, (mainSpan d size e).high + s.rankGap ≤ stop
  margin_le : ∀ e ∈ centres, s.crossMargin ≤ (crossSpan d size e).low
  apart : centres.Pairwise (AreApart d s size rank)

theorem IsStacked.append {start middle stop : ℚ} {cs cs' : List (ι × Centre ℚ)}
    (h : IsStacked d s size rank start middle cs) (h' : IsStacked d s size rank middle stop cs')
    (hm : start ≤ middle) (hm' : middle ≤ stop) (hr : ∀ e ∈ cs, ∀ f ∈ cs', rank e.1 ≠ rank f.1) :
    IsStacked d s size rank start stop (cs ++ cs') := by
  refine ⟨fun e he => ?_, fun e he => ?_, fun e he => ?_, List.pairwise_append.2 ⟨h.apart, h'.apart, ?_⟩⟩
  · rcases List.mem_append.1 he with he | he
    · exact h.start_le e he
    · exact hm.trans (h'.start_le e he)
  · rcases List.mem_append.1 he with he | he
    · exact (h.le_stop e he).trans hm'
    · exact h'.le_stop e he
  · rcases List.mem_append.1 he with he | he
    · exact h.margin_le e he
    · exact h'.margin_le e he
  · intro e he f hf
    exact ⟨fun hn => absurd hn (hr e he f hf),
      fun _ => .inl ((h.le_stop e he).trans (h'.start_le f hf))⟩

/-- Turning the main axis round keeps the margin in front of the stack. -/
theorem IsStacked.turnRound {stop : ℚ} {cs : List (ι × Centre ℚ)}
    (h : IsStacked d s size rank s.mainMargin stop cs) :
    IsStacked d s size rank s.mainMargin stop (turnRound s stop cs) := by
  have hmain : ∀ e : ι × Centre ℚ, mainSpan d size
      (e.1, { e.2 with main := stop - s.rankGap + s.mainMargin - e.2.main }) =
        ⟨stop - s.rankGap + s.mainMargin - (mainSpan d size e).high,
         stop - s.rankGap + s.mainMargin - (mainSpan d size e).low⟩ := by
    intro e
    simp only [mainSpan, Span.around, Span.mk.injEq]
    constructor <;> ring
  refine ⟨fun f hf => ?_, fun f hf => ?_, fun f hf => ?_, ?_⟩
  · obtain ⟨e, he, rfl⟩ := List.mem_map.1 hf
    have hstop := h.le_stop e he
    rw [hmain e]
    simp only
    linarith
  · obtain ⟨e, he, rfl⟩ := List.mem_map.1 hf
    have hstart := h.start_le e he
    rw [hmain e]
    simp only
    linarith
  · obtain ⟨e, he, rfl⟩ := List.mem_map.1 hf
    exact h.margin_le e he
  · refine List.pairwise_map.2 (h.apart.imp fun {e f} ha => ⟨ha.across, fun hr => ?_⟩)
    rw [hmain e, hmain f]
    rcases ha.along hr with hl | hl
    · right
      simp only
      linarith
    · left
      simp only
      linarith

def rectOf (size : ι → Size ℚ) (e : ι × Point ℚ) : Rect := Rect.around e.2 (size e.1)

structure KeepGaps (d : Direction) (s : Spacing ℚ) (size : ι → Size ℚ) (rank : ι → ℕ)
    (e f : ι × Point ℚ) : Prop where
  across : rank e.1 = rank f.1 →
    Span.Apart s.nodeGap ((rectOf size e).across d) ((rectOf size f).across d)
  along : rank e.1 ≠ rank f.1 →
    Span.Apart s.rankGap ((rectOf size e).along d) ((rectOf size f).along d)

instance : Std.Symm (KeepGaps d s size rank) :=
  ⟨fun _ _ h => ⟨fun hr => (h.across hr.symm).symm, fun hr => (h.along hr.symm).symm⟩⟩

structure IsPlaced (d : Direction) (s : Spacing ℚ) (size : ι → Size ℚ) (rank : ι → ℕ)
    (placed : List (ι × Point ℚ)) : Prop where
  along_margin : ∀ e ∈ placed, s.mainMargin ≤ ((rectOf size e).along d).low
  across_margin : ∀ e ∈ placed, s.crossMargin ≤ ((rectOf size e).across d).low
  apart : placed.Pairwise (KeepGaps d s size rank)

theorem IsStacked.isPlaced {stop : ℚ} {cs : List (ι × Centre ℚ)}
    (h : IsStacked d s size rank s.mainMargin stop cs) :
    IsPlaced d s size rank (cs.map fun (v, c) => (v, toPoint d c)) := by
  refine ⟨fun f hf => ?_, fun f hf => ?_, List.pairwise_map.2 (h.apart.imp fun {e f} ha => ?_)⟩
  · obtain ⟨e, he, rfl⟩ := List.mem_map.1 hf
    rw [rectOf, Rect.along_around]
    exact h.start_le e he
  · obtain ⟨e, he, rfl⟩ := List.mem_map.1 hf
    rw [rectOf, Rect.across_around]
    exact h.margin_le e he
  · refine ⟨fun hr => ?_, fun hr => ?_⟩
    · rw [rectOf, rectOf, Rect.across_around, Rect.across_around]
      exact ha.across hr
    · rw [rectOf, rectOf, Rect.along_around, Rect.along_around]
      exact ha.along hr

end CellFlow.Stack
