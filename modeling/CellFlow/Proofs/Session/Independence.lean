import CellFlow.Proofs.Session.Build

/-!
Data flow and the places of cells depend on positions and sources alone: outputs, labels and
execution counts, groups that are not collapsed, and settings for artifacts and colors only
change what is shown.
-/

set_option autoImplicit false

namespace CellFlow

/-- What the data flow is read from: where a cell stands, and what it contains. -/
def Cell.code (c : Cell) : Int × Value := (c.position, c.source)

def BuildRules.namesIn (r : BuildRules) (code : Int × Value) : Int × CellNames :=
  (code.1, r.names.extract code.2)

theorem BuildRules.map_namesIn (r : BuildRules) (cells : List Cell) :
    (cells.map Cell.code).map r.namesIn = cells.map r.namesAt := by
  rw [List.map_map]
  rfl

theorem BuildRules.map_namesAt_congr {r r' : BuildRules} {cells cells' : List Cell}
    (hr : r.names = r'.names) (hc : cells.map Cell.code = cells'.map Cell.code) :
    cells.map r.namesAt = cells'.map r'.namesAt := by
  have hn : r.namesIn = r'.namesIn := by
    funext code
    rw [namesIn, namesIn, hr]
  rw [← map_namesIn, ← map_namesIn, hc, hn]

theorem map_id_of_map_code {cells cells' : List Cell} (h : cells.map Cell.code = cells'.map Cell.code) :
    cells.map Cell.id = cells'.map Cell.id := by
  have hc : ∀ l : List Cell, l.map Cell.id = (l.map Cell.code).map fun code => toString code.1 := by
    intro l
    rw [List.map_map]
    rfl
  rw [hc, hc, h]

namespace BuiltFrom

variable {r r' : BuildRules} {cells cells' : List Cell} {g g' : CellGraph}

theorem map_id_primary (h : BuiltFrom r cells g) : g.primary.map (·.id) = cells.map Cell.id := by
  rw [h.primary, List.map_map]
  rfl

theorem carried_congr (h : BuiltFrom r cells g) (h' : BuiltFrom r' cells' g') (hr : r.names = r'.names)
    (hc : cells.map Cell.code = cells'.map Cell.code) : g.carried = g'.carried := by
  rw [h.carried, h'.carried, BuildRules.map_namesAt_congr hr hc]

/-- The layout of ranks does not tell apart the cells of two graphs. -/
theorem alike_ranked (h : BuiltFrom r cells g) (h' : BuiltFrom r' cells' g')
    (hc : cells.map Cell.code = cells'.map Cell.code) (s : LayoutSettings) :
    List.Forall₂ (RankLayout.Alike Float s) (g.nodes.filter fun n => n.kind.isRanked)
      (g'.nodes.filter fun n => n.kind.isRanked) := by
  have hids : List.Forall₂ (· = ·) (cells.map Cell.id) (cells'.map Cell.id) := by
    rw [List.forall₂_eq_eq_eq]
    exact map_id_of_map_code hc
  rw [List.forall₂_map_left_iff, List.forall₂_map_right_iff] at hids
  rw [h.ranked, h'.ranked, List.forall₂_map_left_iff, List.forall₂_map_right_iff]
  exact hids.imp fun c d hcd => ⟨hcd, rfl⟩

end BuiltFrom

namespace Placement

/-- The places of the cells among the nodes of a chart. -/
def cellPlaces {α : Type} (nodes : List (ChartNode α)) : List (Value × Point α) :=
  (nodes.filter fun n => n.kind = .primary).map fun n => (n.id, n.centre)

theorem cellPlaces_eq {α : Type} {nodes : List CellNode} {placed : List (ChartNode α)}
    {ranked : Table String (Point α)}
    (h : List.Forall₂ (fun n c => IsPlacedNode n c ∧
      (n.kind.isRanked = true → ranked.get? n.id = some c.centre)) nodes placed) :
    (cellPlaces placed).map (fun p => (p.1, some p.2)) =
      ((nodes.filter fun n => n.kind = .primary).map (·.id)).map fun id => (Value.text id, ranked.get? id) := by
  induction h with
  | nil => rfl
  | @cons n c nodes placed hnc _ ih =>
    obtain ⟨⟨hid, hkind, -⟩, hcentre⟩ := hnc
    unfold cellPlaces at ih ⊢
    by_cases hk : n.kind = .primary
    · have hr : n.kind.isRanked = true := by rw [hk]; rfl
      simp only [List.filter_cons, hkind, hk, decide_true, if_true, List.map_cons, ih, hid, hcentre hr]
    · simp only [List.filter_cons, hkind, hk, decide_false, Bool.false_eq_true, if_false, ih]

end Placement

namespace Session

variable {s s' : Session} {cells cells' : List Cell} {groups groups' : Value} {res res' : Result}

theorem map_code_labelled (gs : List Group) (cells : List Cell) :
    (labelled gs cells).map Cell.code = cells.map Cell.code := by
  unfold labelled
  split
  · rfl
  · rw [Group.labelCells, List.map_map]
    exact List.map_congr_left fun c _ => by
      rw [Function.comp, Cell.code, Group.position_labelCell, Group.source_labelCell, Cell.code]

theorem of_draft {d : Draft} (h : (s.draft cells groups).Yielded d) :
    ∃ gs g, readGroups groups = .ok gs ∧ s.graphOf (labelled gs cells) = .ok g ∧
      d = ⟨labelled gs cells, gs, g, g, false⟩ := by
  unfold draft at h
  obtain ⟨gs, hgs, h⟩ := h.of_bind
  obtain ⟨-, -, h⟩ := h.of_bind
  obtain ⟨-, -, h⟩ := h.of_bind
  obtain ⟨g, hg, h⟩ := h.of_bind
  obtain ⟨-, -, h⟩ := h.of_bind
  exact ⟨gs, g, hgs.of_ofOutcome, hg.of_ofOutcome, h.of_pure⟩

/-- The graph that is laid out: the one of the cells, unless there are groups to collapse. -/
def IsRanked (s : Session) (g : CellGraph) (cells : List Cell) (gs : List Group) (collapse : Bool)
    (q : CellGraph) : Prop :=
  (collapse = false ∨ gs = []) ∧ q = g ∨
    collapse = true ∧ gs ≠ [] ∧ g.collapse cells gs s.settings.figure.defaultNodeColor = .ok q

theorem of_rankedGraph {g : CellGraph} {gs : List Group} {collapse : Bool} {q : CellGraph × Bool}
    (h : (s.rankedGraph g cells gs collapse).Yielded q) : IsRanked s g cells gs collapse q.1 := by
  cases collapse with
  | false => exact .inl ⟨.inl rfl, congrArg Prod.fst h.of_pure⟩
  | true =>
    cases gs with
    | nil =>
      obtain ⟨-, -, h⟩ := h.of_bind
      exact .inl ⟨.inr rfl, congrArg Prod.fst h.of_pure⟩
    | cons group gs =>
      obtain ⟨c, hc, h⟩ := h.of_bind
      obtain ⟨-, -, h⟩ := h.of_bind
      obtain rfl := h.of_pure
      exact .inr ⟨rfl, List.cons_ne_nil _ _, hc.of_ofOutcome⟩

theorem of_regroup {d e : Draft} {collapse : Bool} (h : (s.regroup d collapse).Yielded e) :
    e.cells = d.cells ∧ e.graph = d.graph ∧ IsRanked s d.graph d.cells d.groups collapse e.ranked := by
  obtain ⟨q, hq, h⟩ := h.of_bind
  obtain rfl := h.of_pure
  exact ⟨rfl, rfl, of_rankedGraph hq⟩

theorem of_arrange {d : Draft} (h : (s.arrange d).Yielded res) :
    res.cells = d.cells ∧ res.graph = d.graph ∧ res.chart.colors = d.ranked.colors ∧
      Placement.ofSettings s.settings.layout d.ranked.nodes d.ranked.edges =
        .ok (res.chart.nodes, res.chart.edges) := by
  obtain ⟨placed, hp, h⟩ := h.of_bind
  obtain ⟨-, -, h⟩ := h.of_bind
  obtain ⟨-, -, h⟩ := h.of_bind
  obtain rfl := h.of_pure
  exact ⟨rfl, rfl, rfl, hp.of_ofOutcome⟩

/-- A build that comes to a result has built the graph of its cells, under the labels of their groups,
and has placed this graph, or the one that it collapses into. -/
theorem of_build {collapse : Bool} (h : (s.build cells groups collapse).outcome = .ok res) :
    ∃ gs ranked, readGroups groups = .ok gs ∧ res.cells = labelled gs cells ∧
      s.rules.build (labelled gs cells) = .ok res.graph ∧
      IsRanked s res.graph (labelled gs cells) gs collapse ranked ∧ res.chart.colors = ranked.colors ∧
      Placement.ofSettings s.settings.layout ranked.nodes ranked.edges =
        .ok (res.chart.nodes, res.chart.edges) := by
  obtain ⟨d, hd, hrest⟩ := (Telling.yielded_of_outcome h).of_bind
  obtain ⟨e, he, hplaced⟩ := hrest.of_bind
  obtain ⟨gs, g, hgs, hg, rfl⟩ := of_draft hd
  obtain ⟨hcells, hgraph, hranked⟩ := of_regroup he
  obtain ⟨hcells', hgraph', hcolors, hp⟩ := of_arrange hplaced
  obtain rfl : res.graph = g := hgraph'.trans hgraph
  exact ⟨gs, e.ranked, hgs, hcells'.trans hcells, (graphOf_eq_ok.1 hg).2, hranked, hcolors, hp⟩

/-- Without collapsing it is the graph of the cells that is placed. -/
theorem of_build_plain (h : (s.build cells groups false).outcome = .ok res) :
    ∃ gs, s.rules.build (labelled gs cells) = .ok res.graph ∧
      Placement.ofSettings s.settings.layout res.graph.nodes res.graph.edges =
        .ok (res.chart.nodes, res.chart.edges) := by
  obtain ⟨gs, ranked, -, -, hg, ⟨-, rfl⟩ | ⟨hc, -⟩, -, hp⟩ := of_build h
  · exact ⟨gs, hg, hp⟩
  · cases hc

end Session

/-- Two results with the same data flow and the same places of cells. -/
structure Result.FlowsAlike (a b : Result) : Prop where
  names : a.graph.names = b.graph.names
  carried : a.graph.carried = b.graph.carried
  edges : a.chart.edges = b.chart.edges
  places : Placement.cellPlaces a.chart.nodes = Placement.cellPlaces b.chart.nodes

namespace Session

variable {s s' : Session} {cells cells' : List Cell} {groups groups' : Value} {res res' : Result}

/-- Data flow and the places of cells come from positions and sources, and from the settings for
names and for the layout, alone. -/
theorem build_flowsAlike (hnames : s.rules.names = s'.rules.names)
    (hlayout : s.settings.layout = s'.settings.layout) (hc : cells.map Cell.code = cells'.map Cell.code)
    (h : (s.build cells groups false).outcome = .ok res)
    (h' : (s'.build cells' groups' false).outcome = .ok res') : res.FlowsAlike res' := by
  obtain ⟨gs, hg, hp⟩ := of_build_plain h
  obtain ⟨gs', hg', hp'⟩ := of_build_plain h'
  have hb := BuildRules.builtFrom hg
  have hb' := BuildRules.builtFrom hg'
  have hcode : (labelled gs cells).map Cell.code = (labelled gs' cells').map Cell.code := by
    rw [map_code_labelled, map_code_labelled, hc]
  have hcarried : res.graph.carried = res'.graph.carried := hb.carried_congr hb' hnames hcode
  have hedges : res.graph.edges = res'.graph.edges := by
    rw [CellGraph.edges, CellGraph.edges, hcarried]
  obtain ⟨ranked, hr, he, hplaced⟩ := Placement.of_place_eq_ok hb.nodup_node_ids hp
  obtain ⟨ranked', hr', he', hplaced'⟩ := Placement.of_place_eq_ok hb'.nodup_node_ids hp'
  have hranked : ranked = ranked' := by
    rw [RankLayout.Alike.compute (hb.alike_ranked hb' hcode s.settings.layout), hedges, hlayout] at hr
    exact Except.ok.inj (hr.symm.trans hr')
  refine ⟨?_, hcarried, ?_, ?_⟩
  · rw [BuildRules.names_of_build hg, BuildRules.names_of_build hg',
      BuildRules.map_namesAt_congr hnames hcode]
  · rw [show res.chart.edges = _ from he, show res'.chart.edges = _ from he', hedges]
  · have hids : res.graph.primary.map (·.id) = res'.graph.primary.map (·.id) := by
      rw [hb.map_id_primary, hb'.map_id_primary, map_id_of_map_code hcode]
    have hsome : Function.Injective fun p : Value × Point Float => (p.1, some p.2) := by
      rintro ⟨v, p⟩ ⟨v', p'⟩ hpair
      cases hpair
      rfl
    apply hsome.list_map
    rw [Placement.cellPlaces_eq hplaced, Placement.cellPlaces_eq hplaced', hranked]
    exact congrArg (List.map fun id => (Value.text id, ranked'.get? id)) hids

theorem exists_outcome {gs : List Group} {g : CellGraph} (collapse : Bool) (hl : s.instead.get? .layout = none)
    (hs : s.settings.layout.IsNumeric) (hn : cells.length < 2 ^ 63) (hg : readGroups groups = .ok gs)
    (h : s.graphOf (labelled gs cells) = .ok g) :
    ∃ res, (s.build cells groups collapse).outcome = .ok res := by
  have hb : BuiltFrom s.rules (labelled gs cells) g := BuildRules.builtFrom (graphOf_eq_ok.1 h).2
  have hn' : (labelled gs cells).length < 2 ^ 63 := by
    rw [length_labelled]
    exact hn
  obtain ⟨d, hregroup, hsound, -⟩ :=
    exists_yields_regroup (d := ⟨labelled gs cells, gs, g, g, false⟩) hb hn' collapse
  obtain ⟨res, hres, -⟩ := exists_yields_arrange hl hs hsound
  exact ⟨res, ((yields_draft hg h).bind (hregroup.bind hres)).outcome⟩

/-- Three cells, once with a picture, a count, labels and a group, and once without any of them and
with artifacts left out. -/
theorem build_flowsAlike_bare :
    let s : Session := { settings := {}, folder := .null, excluded := Names.reserved, exporter := {} }
    let s' : Session := { s with settings := { artifacts := { enabled := .bool false } } }
    let cells : List Cell := [
      { position := 5, source := .text "x = 1\ny = 2", executionCount := .int 7, label := .text "input",
        outputs := [.object [("output_type", .text "display_data")]] },
      { position := 2, source := .text "z = x", label := .text "rest" },
      { position := 9, source := .text "w = y + z" }]
    let cells' : List Cell := [
      { position := 5, source := .text "x = 1\ny = 2" }, { position := 2, source := .text "z = x" },
      { position := 9, source := .text "w = y + z" }]
    let groups : Value := .list [
      .object [("label", .text "early"), ("cell_start", .int 1), ("cell_end", .int 5)]]
    ∃ res res', (s.build cells groups false).outcome = .ok res ∧
      (s'.build cells' .null false).outcome = .ok res' ∧ res.FlowsAlike res' := by
  intro s s' cells cells' groups
  have hg : readGroups groups = .ok [⟨"early", 1, 5, by decide⟩] := rfl
  have hb : (s.graphOf (labelled [⟨"early", 1, 5, by decide⟩] cells)).isOk = true := by decide +kernel
  have hb' : (s'.graphOf (labelled [] cells')).isOk = true := by decide +kernel
  obtain ⟨g, hgraph⟩ := exists_eq_ok_of_isOk hb
  obtain ⟨g', hgraph'⟩ := exists_eq_ok_of_isOk hb'
  obtain ⟨res, h⟩ : ∃ res, (s.build cells groups false).outcome = .ok res :=
    exists_outcome false rfl .default (by decide) hg hgraph
  obtain ⟨res', h'⟩ : ∃ res', (s'.build cells' .null false).outcome = .ok res' :=
    exists_outcome false rfl .default (by decide) rfl hgraph'
  have hnames : s.rules.names = s'.rules.names := rfl
  have hlayout : s.settings.layout = s'.settings.layout := rfl
  have hc : cells.map Cell.code = cells'.map Cell.code := rfl
  exact ⟨res, res', h, h', build_flowsAlike hnames hlayout hc h h'⟩

end Session

end CellFlow
