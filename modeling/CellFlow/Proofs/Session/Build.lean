import CellFlow.Session.Build
import CellFlow.Proofs.Chart.WellFormed
import CellFlow.Proofs.Graph.Labels

/-!
Every build from cells whose graph can be built comes to a well-formed chart: layout never fails,
with or without collapsed groups.
-/

set_option autoImplicit false

namespace CellFlow

namespace Telling

variable {α β : Type}

/-- A step that comes to a value, whatever has been reported before. -/
def Yields (t : Telling α) (a : α) : Prop := ∀ reports, (t.run.run reports).1 = .ok a

theorem Yields.bind {t : Telling α} {f : α → Telling β} {a : α} {b : β} (ht : t.Yields a)
    (hf : (f a).Yields b) : (t >>= f).Yields b := by
  intro reports
  have h := ht reports
  rw [ExceptT.run_bind, StateT.run_bind]
  generalize t.run.run reports = r at h ⊢
  obtain ⟨o, reports'⟩ := r
  obtain rfl : o = .ok a := h
  exact hf reports'

theorem yields_pure (a : α) : (pure a : Telling α).Yields a := fun _ => rfl

theorem yields_tell (wanted : Bool) (n : Notice) : (tell wanted n).Yields () := by
  intro reports
  cases wanted with
  | true => rfl
  | false => rfl

theorem yields_ofOutcome {o : Outcome α} {a : α} (h : o = .ok a) : (ofOutcome o).Yields a := by
  intro reports
  rw [h]
  rfl

theorem Yields.outcome {t : Telling α} {a : α} (h : t.Yields a) : t.outcome = .ok a := h []

/-- A step that once came to a value, after some reports or other. -/
def Yielded (t : Telling α) (a : α) : Prop := ∃ reports, (t.run.run reports).1 = .ok a

theorem yielded_of_outcome {t : Telling α} {a : α} (h : t.outcome = .ok a) : t.Yielded a := ⟨[], h⟩

theorem Yielded.of_bind {t : Telling α} {f : α → Telling β} {b : β} (h : (t >>= f).Yielded b) :
    ∃ a, t.Yielded a ∧ (f a).Yielded b := by
  obtain ⟨reports, h⟩ := h
  rw [ExceptT.run_bind, StateT.run_bind] at h
  cases hr : t.run.run reports with
  | mk o reports' =>
    rw [hr] at h
    cases o with
    | error e => cases h
    | ok a => exact ⟨a, ⟨reports, congrArg Prod.fst hr⟩, reports', h⟩

theorem Yielded.of_ofOutcome {o : Outcome α} {a : α} (h : (ofOutcome o).Yielded a) : o = .ok a := by
  obtain ⟨reports, h⟩ := h
  exact h

theorem Yielded.of_pure {a b : α} (h : (pure a : Telling α).Yielded b) : b = a := by
  obtain ⟨reports, h⟩ := h
  exact (Except.ok.inj h).symm

end Telling

open Telling (Yields yields_pure yields_tell yields_ofOutcome)

namespace Session

variable {s : Session} {cells : List Cell} {groups : Value} {gs : List Group} {g : CellGraph}

/-- The cells as they go into the graph: with the labels of their groups if there are any. -/
def labelled (gs : List Group) (cells : List Cell) : List Cell :=
  if gs.isEmpty then cells else Group.labelCells gs cells

theorem graphOf_eq_ok : s.graphOf cells = .ok g ↔
    (s.instead.entries.isEmpty = false → s.checkSections cells = .ok ()) ∧ s.rules.build cells = .ok g := by
  unfold graphOf
  cases s.instead.entries.isEmpty with
  | true => simp
  | false =>
    rw [Bool.not_false, if_pos rfl, bind_eq_ok]
    constructor
    · intro h
      obtain ⟨⟨⟩, hs, hg⟩ := h
      exact ⟨fun _ => hs, hg⟩
    · intro h
      exact ⟨(), h.1 rfl, h.2⟩

theorem checkSections_labelCells (hp : Palette.IsList s.settings.figure.palette)
    (h : s.checkSections cells = .ok ()) (gs : List Group) :
    s.checkSections (Group.labelCells gs cells) = .ok () := by
  unfold checkSections at h ⊢
  obtain ⟨⟨⟩, hpos, h⟩ := bind_eq_ok.1 h
  obtain ⟨⟨⟩, hfig, h⟩ := bind_eq_ok.1 h
  have he : (Group.labelCells gs cells).isEmpty = cells.isEmpty := by
    rw [Group.labelCells, List.isEmpty_map]
  rw [Group.map_position_labelCells, hpos, ok_bind, hfig, ok_bind, he]
  cases hc : cells.isEmpty with
  | true => rfl
  | false =>
    rw [hc, Bool.not_false, if_pos rfl] at h
    obtain ⟨colors, hc, h⟩ := bind_eq_ok.1 h
    obtain ⟨cs, hcs⟩ := Palette.exists_colorsFor_labelCells hp (liftM_eq_ok.1 hc) gs
    rw [Bool.not_false, if_pos rfl, hcs, liftM_ok, ok_bind]
    exact h

theorem exists_graphOf_labelled (hp : Palette.IsList s.settings.figure.palette)
    (h : s.graphOf cells = .ok g) (gs : List Group) : ∃ q, s.graphOf (labelled gs cells) = .ok q := by
  unfold labelled
  split
  · exact ⟨g, h⟩
  · obtain ⟨hs, hg⟩ := graphOf_eq_ok.1 h
    obtain ⟨q, hq⟩ := BuildRules.exists_build_labelCells (r := s.rules) hp hg gs
    exact ⟨q, graphOf_eq_ok.2 ⟨fun he => checkSections_labelCells hp (hs he) gs, hq⟩⟩

theorem length_labelled (gs : List Group) (cells : List Cell) : (labelled gs cells).length = cells.length := by
  unfold labelled
  split
  · rfl
  · rw [Group.labelCells, List.length_map]

theorem map_tagList_labelled (r : BuildRules) (gs : List Group) (cells : List Cell) :
    ((labelled gs cells).map fun c => (r.tagList c).length) = cells.map fun c => (r.tagList c).length := by
  unfold labelled
  split
  · rfl
  · rw [Group.labelCells, List.map_map]
    exact List.map_congr_left fun c _ => by rw [Function.comp, BuildRules.tagList_labelCell]

theorem hasTextLabel_labelled (h : ∀ c ∈ cells, c.HasTextLabel) : ∀ c ∈ labelled gs cells, c.HasTextLabel := by
  unfold labelled
  split
  · exact h
  · intro c hc
    obtain ⟨d, hd, rfl⟩ := List.mem_map.1 hc
    exact Group.hasTextLabel_labelCell (h d hd)

theorem yields_draft (hg : readGroups groups = .ok gs) (h : s.graphOf (labelled gs cells) = .ok g) :
    (s.draft cells groups).Yields ⟨labelled gs cells, gs, g, g, false⟩ := by
  unfold draft
  refine (yields_ofOutcome hg).bind ((yields_tell _ _).bind ((yields_tell _ _).bind
    ((yields_ofOutcome h).bind ((yields_tell _ _).bind (yields_pure _)))))

theorem yields_rankedGraph_self {collapse : Bool} (h : collapse = false ∨ gs = []) :
    (s.rankedGraph g cells gs collapse).Yields (g, false) := by
  cases collapse with
  | false => exact yields_pure _
  | true =>
    obtain rfl : gs = [] := h.resolve_left (by decide)
    exact (yields_tell _ _).bind (yields_pure _)

theorem yields_rankedGraph_collapse {q : CellGraph} (h : gs ≠ [])
    (hq : g.collapse cells gs s.settings.figure.defaultNodeColor = .ok q) :
    (s.rankedGraph g cells gs true).Yields (q, true) := by
  cases gs with
  | nil => exact absurd rfl h
  | cons group gs => exact (yields_ofOutcome hq).bind ((yields_tell _ _).bind (yields_pure _))

theorem exists_yields_rankedGraph (h : BuiltFrom s.rules cells g) (hn : cells.length < 2 ^ 63)
    (gs : List Group) (collapse : Bool) :
    ∃ q b, (s.rankedGraph g cells gs collapse).Yields (q, b) ∧ q.IsSound ∧
      (collapse = false ∨ gs = [] → q = g) := by
  by_cases hc : collapse = false ∨ gs = []
  · exact ⟨g, false, yields_rankedGraph_self hc, h.isSound, fun _ => rfl⟩
  · obtain ⟨rfl, hne⟩ : collapse = true ∧ gs ≠ [] := by simpa using hc
    obtain ⟨q, hq, hs⟩ := Collapse.collapse_isSound h hn gs s.settings.figure.defaultNodeColor
    exact ⟨q, true, yields_rankedGraph_collapse hne hq, hs, fun h => absurd h hc⟩

theorem exists_yields_regroup {d : Draft} (h : BuiltFrom s.rules d.cells d.graph)
    (hn : d.cells.length < 2 ^ 63) (collapse : Bool) :
    ∃ e, (s.regroup d collapse).Yields e ∧ e.ranked.IsSound ∧
      (collapse = false ∨ d.groups = [] → e.ranked = d.graph) := by
  obtain ⟨q, b, hy, hs, hq⟩ := exists_yields_rankedGraph h hn d.groups collapse
  exact ⟨{ d with ranked := q, isCollapsed := b }, hy.bind (yields_pure _), hs, hq⟩

theorem exists_yields_placed {d : Draft} (hl : s.instead.get? .layout = none)
    (hs : s.settings.layout.IsNumeric) (hd : d.ranked.IsSound) :
    ∃ placed notes, List.Forall₂ Placement.IsPlacedNode d.ranked.nodes placed ∧ (s.arrange d).Yields
      ⟨d.cells, d.groups, d.graph,
        ⟨placed, Placement.numberEdges d.ranked.edges, d.ranked.colors, notes⟩⟩ := by
  obtain ⟨placed, hp, hm⟩ := Placement.ofSettings_eq_ok hs hd
  have hr : s.require .layout = .ok () := by rw [require, hl]
  exact ⟨placed, _, hm, (yields_ofOutcome hp).bind ((yields_ofOutcome hr).bind ((yields_tell _ _).bind
    (yields_pure _)))⟩

theorem exists_yields_arrange {d : Draft} (hl : s.instead.get? .layout = none)
    (hs : s.settings.layout.IsNumeric) (hd : d.ranked.IsSound) :
    ∃ res, (s.arrange d).Yields res ∧ res.chart.IsWellFormed ∧
      res.chart.nodes.length = d.ranked.nodes.length := by
  obtain ⟨placed, notes, hm, hy⟩ := exists_yields_placed hl hs hd
  exact ⟨_, hy, hd.isWellFormed hm _ _, hm.length_eq.symm⟩

/-- Whenever the graph of the cells can be built, their chart can, and it is well-formed. Without
groups to collapse it has a node for each cell and each tag. Lists are shorter than 2 ^ 63. -/
theorem build_isWellFormed (collapse : Bool) (hl : s.instead.get? .layout = none)
    (hs : s.settings.layout.IsNumeric) (hp : Palette.IsList s.settings.figure.palette)
    (hg : readGroups groups = .ok gs) (h : s.graphOf cells = .ok g) (hn : cells.length < 2 ^ 63) :
    ∃ res, (s.build cells groups collapse).outcome = .ok res ∧ res.chart.IsWellFormed ∧
      (collapse = false ∨ gs = [] → res.chart.nodes.length =
        cells.length + (cells.map fun c => (s.rules.tagList c).length).sum) := by
  obtain ⟨q, hq⟩ := exists_graphOf_labelled hp h gs
  have hb : BuiltFrom s.rules (labelled gs cells) q := BuildRules.builtFrom (graphOf_eq_ok.1 hq).2
  have hn' : (labelled gs cells).length < 2 ^ 63 := by
    rw [length_labelled]
    exact hn
  obtain ⟨d, hy, hsound, hd⟩ :=
    exists_yields_regroup (d := ⟨labelled gs cells, gs, q, q, false⟩) hb hn' collapse
  obtain ⟨res, hres, hw, hlen⟩ := exists_yields_arrange hl hs hsound
  refine ⟨res, ((yields_draft hg hq).bind (hy.bind hres)).outcome, hw, fun hc => ?_⟩
  rw [hlen, hd hc, hb.length_nodes, length_labelled, map_tagList_labelled]

/-- Three cells out of numeric order, one of them with an output, under two overlapping groups. -/
theorem build_isWellFormed_overlapping :
    let s : Session := { settings := {}, folder := .null, excluded := Names.reserved, exporter := {} }
    let cells : List Cell := [
      { position := 5, source := .text "x = 1\ny = 2",
        outputs := [.object [("output_type", .text "display_data")]] },
      { position := 2, source := .text "z = x" }, { position := 9, source := .text "w = y + z" }]
    let groups : Value := .list [
      .object [("label", .text "early"), ("cell_start", .int 1), ("cell_end", .int 5)],
      .object [("label", .text "late"), ("cell_start", .int 3), ("cell_end", .int 8)]]
    (∃ res, (s.build cells groups true).outcome = .ok res ∧ res.chart.IsWellFormed) ∧
    ∃ res, (s.build cells groups false).outcome = .ok res ∧ res.chart.IsWellFormed ∧
      res.chart.nodes.length = 4 := by
  intro s cells groups
  have hg : readGroups groups = .ok [⟨"early", 1, 5, by decide⟩, ⟨"late", 3, 8, by decide⟩] := rfl
  have hb : (s.graphOf cells).isOk = true := by decide +kernel
  have ht : cells.length + (cells.map fun c => (s.rules.tagList c).length).sum = 4 := by decide +kernel
  cases h : s.graphOf cells with
  | error e =>
    rw [h] at hb
    cases hb
  | ok g =>
    have hw : ∀ collapse, _ := fun collapse =>
      build_isWellFormed collapse rfl .default ⟨_, rfl⟩ hg h (by decide)
    obtain ⟨res, hr, hwell, -⟩ := hw true
    obtain ⟨res', hr', hwell', hl⟩ := hw false
    exact ⟨⟨res, hr, hwell⟩, res', hr', hwell', (hl (.inl rfl)).trans ht⟩

end Session

end CellFlow
