import CellFlow.Proofs.Graph.Colors
import CellFlow.Proofs.Session.Independence

/-!
Drawings with and without collapsed groups agree on colors: a group has the color that each of its
cells has where it is drawn itself, and all other cells keep theirs.
-/

set_option autoImplicit false

namespace CellFlow

def ChartNode.color? {α : Type} (n : ChartNode α) : Option Value := Fields.get? n.data "color"

/-- The node of a group, with the ids of its cells. -/
structure ChartNode.IsGroup {α : Type} (n : ChartNode α) (grp : Group) (ids : List String) : Prop where
  kind : n.kind = .group
  label : Fields.get? n.data "label" = some (.text grp.label)
  cells : Fields.get? n.data "cells" = some (.list (ids.map .text))

namespace Chart

variable {α : Type}

/-- In a chart there is a node with an id, and it is of this kind and has this color. -/
structure HasColored (chart : Chart α) (kind : NodeKind) (id : String) (color : Value) : Prop where
  exists_node : ∃ n ∈ chart.nodes, n.id = .text id
  of_node : ∀ n ∈ chart.nodes, n.id = .text id → n.kind = kind ∧ n.color? = some color

/-- A chart of cells shows each in the color of its label, or in another one if it has no label. -/
structure ColorsCells (chart : Chart α) (colors : Colors) (other : Value) (cells : List Cell) : Prop where
  colors_eq : chart.colors = colors
  labelled : ∀ c ∈ cells, ∀ label, c.label = .text label →
    ∃ color, colors.find? (.text label) = some color ∧ chart.HasColored .primary c.id color
  unlabelled : ∀ c ∈ cells, c.label = .null → chart.HasColored .primary c.id other
  of_primary : ∀ n ∈ chart.nodes, n.kind = .primary → ∃ c ∈ cells, n.id = .text c.id

/-- A chart shows groups that hold cells, each in the color of its label. -/
structure ColorsGroups (chart : Chart α) (colors : Colors) (groups : List Group) : Prop where
  colors_eq : chart.colors = colors
  group : ∀ n ∈ chart.nodes, n.kind = .group → ∃ grp ∈ groups, ∃ ids color, n.IsGroup grp ids ∧
    ids ≠ [] ∧ colors.find? (.text grp.label) = some color ∧ n.color? = some color

/-- A chart where groups stand for their cells, and one where they do not, agree on colors. -/
structure ColorsAgree (collapsed plain : Chart α) (groups : List Group) (cells : List Cell) : Prop where
  group : ∀ n ∈ collapsed.nodes, ∀ grp ids, n.IsGroup grp ids →
    ∀ id ∈ ids, ∃ color, n.color? = some color ∧ plain.HasColored .primary id color
  member : ∀ c ∈ cells, (∃ grp ∈ groups, grp.contains c.position) →
    ∃ n ∈ collapsed.nodes, ∃ grp ids, n.IsGroup grp ids ∧ c.id ∈ ids
  single : ∀ c ∈ cells, (∀ grp ∈ groups, ¬ grp.contains c.position) →
    ∃ color, collapsed.HasColored .primary c.id color ∧ plain.HasColored .primary c.id color

end Chart

namespace Placement

variable {nodes : List CellNode} {chart : Chart Float} {n : CellNode} {c : ChartNode Float}

theorem IsPlacedNode.color?_eq (h : IsPlacedNode n c) : c.color? = n.color? := by
  rw [ChartNode.color?, h.2.2, Fields.get?_setDefault_of_ne (by decide), Node.color?]

/-- A node that is placed keeps its color, and the id stays its own. -/
theorem hasColored (hn : (nodes.map (·.id)).Nodup) (hp : List.Forall₂ IsPlacedNode nodes chart.nodes)
    (hm : n ∈ nodes) {color : Value} (hc : n.color? = some color) : chart.HasColored n.kind n.id color where
  exists_node := by
    obtain ⟨c, hc, h⟩ := exists_of_mem_forall₂ hp.flip hm
    exact ⟨c, hc, h.1⟩
  of_node c hc' hi := by
    obtain ⟨m, hm', h⟩ := exists_of_mem_forall₂ hp hc'
    have hid : m.id = n.id := Value.text.inj (h.1.symm.trans hi)
    rw [List.inj_on_of_nodup_map hn hm' hm hid] at h
    exact ⟨h.2.1, h.color?_eq.trans hc⟩

theorem forall₂_of_ofSettings {s : LayoutSettings} {edges : List (PlainEdge String)}
    {numbered : List ChartEdge} (hn : (nodes.map (·.id)).Nodup)
    (h : ofSettings s nodes edges = .ok (chart.nodes, numbered)) :
    List.Forall₂ IsPlacedNode nodes chart.nodes := by
  obtain ⟨_, -, -, hp⟩ := of_place_eq_ok hn h
  exact hp.imp fun _ _ h => h.1

end Placement

open Placement (IsPlacedNode hasColored)

variable {r : BuildRules} {groups : List Group} {cells : List Cell} {g q : CellGraph} {c : Cell}
  {palette : List Value} {chart plain : Chart Float}

theorem BuiltFrom.hasColored (h : BuiltFrom r cells g) (hp : List.Forall₂ IsPlacedNode g.nodes chart.nodes)
    (hc : c ∈ cells) :
    chart.HasColored .primary c.id ((g.colors.find? c.label).getD r.figure.defaultNodeColor) :=
  Placement.hasColored h.nodup_node_ids hp (h.mem_nodes.2 ⟨c, hc, BuildRules.mem_cellNodes.2 (.inl rfl)⟩)
    (r.color?_cellNode g.colors c _)

theorem BuiltFrom.colorsCells (h : BuiltFrom r cells g)
    (hp : List.Forall₂ IsPlacedNode g.nodes chart.nodes) (hcolors : chart.colors = g.colors)
    (ht : Palette.TakesTurns palette (Palette.labelsOf cells) g.colors) :
    chart.ColorsCells g.colors r.figure.defaultNodeColor cells where
  colors_eq := hcolors
  labelled c hc label hl := by
    obtain ⟨color, hfind⟩ := ht.exists_find? (Palette.mem_labelsOf hc hl)
    have hn := h.hasColored hp hc
    rw [hl, hfind, Option.getD_some] at hn
    exact ⟨color, hfind, hn⟩
  unlabelled c hc hl := by
    have hn := h.hasColored hp hc
    rwa [hl, ht.find?_null, Option.getD_none] at hn
  of_primary n hn hk := by
    obtain ⟨m, hm, hi, hkind, -⟩ := exists_of_mem_forall₂ hp hn
    obtain ⟨c, hc, hm⟩ := h.mem_nodes.1 hm
    rcases BuildRules.mem_cellNodes.1 hm with rfl | ⟨i, tag, -, rfl⟩
    · exact ⟨c, hc, hi⟩
    · cases hkind.symm.trans hk

/-- No group is drawn where cells are drawn by themselves. -/
theorem BuiltFrom.kind_ne_group_of_placed (h : BuiltFrom r cells g)
    (hp : List.Forall₂ IsPlacedNode g.nodes chart.nodes) : ∀ n ∈ chart.nodes, n.kind ≠ .group := by
  intro n hn
  obtain ⟨m, hm, -, hk, -⟩ := exists_of_mem_forall₂ hp hn
  rw [hk]
  exact h.kind_ne_group hm

theorem BuiltFrom.colorsGroups (h : BuiltFrom r cells g)
    (hp : List.Forall₂ IsPlacedNode g.nodes chart.nodes) (hcolors : chart.colors = g.colors)
    (groups : List Group) : chart.ColorsGroups g.colors groups :=
  ⟨hcolors, fun n hn hk => absurd hk (h.kind_ne_group_of_placed hp n hn)⟩

theorem BuiltFrom.colorsAgree (h : BuiltFrom r cells g)
    (hp : List.Forall₂ IsPlacedNode g.nodes chart.nodes)
    (hp' : List.Forall₂ IsPlacedNode g.nodes plain.nodes) : chart.ColorsAgree plain [] cells where
  group n hn _ _ hgroup := absurd hgroup.kind (h.kind_ne_group_of_placed hp n hn)
  member _ _ h := by simp at h
  single c hc _ := ⟨_, h.hasColored hp hc, h.hasColored hp' hc⟩

namespace Collapse

variable {color : Value} {i : Nat} {grp : Group}

theorem isGroup_of_placed {n : ChartNode Float} (hf : Group.find? groups c.position = some (grp, i))
    (h : IsPlacedNode (nodeOf r g groups cells color c) n) :
    n.IsGroup grp (idsIn groups cells (groupId i)) := by
  obtain ⟨-, hk, hd⟩ := h
  rw [nodeOf, hf] at hk hd
  refine ⟨hk, ?_, ?_⟩
  · rw [hd]
    simp [groupNode, Fields.setDefault, Fields.get?, List.lookup_cons]
  · rw [hd, Fields.get?_setDefault_of_ne (by decide)]
    simp [groupNode, Fields.get?, List.lookup_cons]

/-- A group in the chart is the one of some cell of its. -/
theorem exists_of_kind_eq_group (hof : ∀ n ∈ q.nodes, ∃ c ∈ cells, n = nodeOf r g groups cells color c)
    (hp : List.Forall₂ IsPlacedNode q.nodes chart.nodes) {n : ChartNode Float} (hn : n ∈ chart.nodes)
    (hk : n.kind = .group) : ∃ c ∈ cells, ∃ grp i, Group.find? groups c.position = some (grp, i) ∧
      IsPlacedNode (nodeOf r g groups cells color c) n := by
  obtain ⟨m, hm, hplaced⟩ := exists_of_mem_forall₂ hp hn
  obtain ⟨c, hc, rfl⟩ := hof m hm
  cases hf : Group.find? groups c.position with
  | none =>
    rw [hplaced.2.1, nodeOf, hf] at hk
    cases hk
  | some p => exact ⟨c, hc, p.1, p.2, hf, hplaced⟩

theorem colorsGroups (h : BuiltFrom r cells g) (hl : AreLabelled groups cells)
    (ht : Palette.TakesTurns palette (Palette.labelsOf cells) g.colors)
    (hq : g.collapse cells groups r.figure.defaultNodeColor = .ok q)
    (hp : List.Forall₂ IsPlacedNode q.nodes chart.nodes) (hcolors : chart.colors = q.colors) :
    chart.ColorsGroups g.colors groups := by
  obtain ⟨-, hof, -⟩ := of_collapse_eq_ok h hq
  refine ⟨hcolors.trans (colors_of_collapse hq), fun n hn hk => ?_⟩
  obtain ⟨c, hc, grp, i, hf, hplaced⟩ := exists_of_kind_eq_group hof hp hn hk
  have hgrp : groups[i]? = some grp := (Group.find?_eq_some_iff.1 hf).1
  have hlabel : c.label = .text grp.label := hl c hc grp i hf
  obtain ⟨color, hfind⟩ := ht.exists_find? (Palette.mem_labelsOf hc hlabel)
  refine ⟨grp, List.mem_of_getElem? hgrp, _, color, isGroup_of_placed hf hplaced,
    List.ne_nil_of_mem ((mem_idsIn h.nodup_ids hc).2 (classOf_grouped hf)), hfind, ?_⟩
  rw [hplaced.color?_eq, color?_nodeOf hl hc, hlabel, hfind, Option.getD_some]

theorem colorsAgree (h : BuiltFrom r cells g) (hl : AreLabelled groups cells)
    (hq : g.collapse cells groups r.figure.defaultNodeColor = .ok q)
    (hp : List.Forall₂ IsPlacedNode q.nodes chart.nodes)
    (hp' : List.Forall₂ IsPlacedNode g.nodes plain.nodes) : chart.ColorsAgree plain groups cells := by
  obtain ⟨hids, hof, -⟩ := of_collapse_eq_ok h hq
  refine ⟨fun n hn grp ids hgroup id hid => ?_, fun c hc hgrp => ?_, fun c hc hgrp => ?_⟩
  · obtain ⟨c, hc, grp', i, hf, hplaced⟩ := exists_of_kind_eq_group hof hp hn hgroup.kind
    have hlist := hgroup.cells.symm.trans (isGroup_of_placed hf hplaced).cells
    obtain rfl : ids = idsIn groups cells (groupId i) :=
      (Function.Injective.list_map fun a b he => Value.text.inj he) (Value.list.inj (Option.some.inj hlist))
    obtain ⟨d, hd, rfl⟩ := List.mem_map.1 hid
    obtain ⟨hd, hs⟩ := List.mem_filter.1 hd
    have hfd : Group.find? groups d.position = some (grp', i) := by
      rw [find?_eq_of_classOf_eq ((of_decide_eq_true hs).trans (classOf_grouped hf).symm), hf]
    have hlabel : d.label = c.label := (hl d hd grp' i hfd).trans (hl c hc grp' i hf).symm
    refine ⟨_, hplaced.color?_eq.trans (color?_nodeOf hl hc), ?_⟩
    exact hlabel ▸ h.hasColored hp' hd
  · obtain ⟨n, hm, hplaced⟩ := exists_of_mem_forall₂ hp.flip (nodeOf_mem_nodes h hids hof hc)
    cases hf : Group.find? groups c.position with
    | none =>
      obtain ⟨grp, hgrp, hcontains⟩ := hgrp
      exact absurd hcontains (Group.find?_eq_none_iff.1 hf grp hgrp)
    | some p =>
      exact ⟨n, hm, p.1, _, isGroup_of_placed hf hplaced, (mem_idsIn h.nodup_ids hc).2 (classOf_grouped hf)⟩
  · have hn : (q.nodes.map (·.id)).Nodup := hids ▸ nodup_eraseDups _
    have hf := Group.find?_eq_none_iff.2 hgrp
    have hnode := hasColored hn hp (nodeOf_mem_nodes h hids hof hc) (color?_nodeOf hl hc)
    rw [id_nodeOf, classOf_single hf, nodeOf, hf] at hnode
    exact ⟨_, hnode, h.hasColored hp' hc⟩

end Collapse

namespace Session

variable {s : Session} {groups : Value} {gs : List Group}

theorem areLabelled_labelled (gs : List Group) (cells : List Cell) :
    Collapse.AreLabelled gs (labelled gs cells) := by
  intro c hc grp i hf
  unfold labelled at hc
  split at hc
  · rename_i he
    rw [List.isEmpty_iff.1 he] at hf
    cases hf
  · obtain ⟨d, -, rfl⟩ := List.mem_map.1 hc
    rw [Group.position_labelCell] at hf
    rw [Group.labelCell, hf]
    rfl

/-- The colors of a chart where groups are to be collapsed, be there any or not. -/
theorem colors_of_isRanked (h : BuiltFrom s.rules cells g) (hl : Collapse.AreLabelled gs cells)
    (ht : Palette.TakesTurns palette (Palette.labelsOf cells) g.colors)
    (hq : IsRanked s g cells gs true q) (hcolors : chart.colors = q.colors)
    (hp : Placement.ofSettings s.settings.layout q.nodes q.edges = .ok (chart.nodes, chart.edges)) :
    chart.ColorsGroups g.colors gs ∧ ∀ plain : Chart Float,
      List.Forall₂ IsPlacedNode g.nodes plain.nodes → chart.ColorsAgree plain gs cells := by
  rcases hq with ⟨hgs, rfl⟩ | ⟨-, -, hq⟩
  · obtain rfl : gs = [] := hgs.resolve_left (by decide)
    have hplaced := Placement.forall₂_of_ofSettings h.nodup_node_ids hp
    exact ⟨h.colorsGroups hplaced hcolors [], fun plain hp' => h.colorsAgree hplaced hp'⟩
  · have hn : (q.nodes.map (·.id)).Nodup := (Collapse.of_collapse_eq_ok h hq).1 ▸ nodup_eraseDups _
    have hplaced := Placement.forall₂_of_ofSettings hn hp
    exact ⟨Collapse.colorsGroups h hl ht hq hplaced hcolors,
      fun plain hp' => Collapse.colorsAgree h hl hq hplaced hp'⟩

theorem placed_of_plain {plain : Result} (hg : readGroups groups = .ok gs)
    (h : (s.build cells groups false).outcome = .ok plain) : plain.cells = labelled gs cells ∧
      s.rules.build (labelled gs cells) = .ok plain.graph ∧ plain.chart.colors = plain.graph.colors ∧
      List.Forall₂ IsPlacedNode plain.graph.nodes plain.chart.nodes := by
  obtain ⟨gs', ranked, hgs, hcells, hb, ⟨-, rfl⟩ | ⟨hc, -⟩, hcolors, hp⟩ := of_build h
  · obtain rfl : gs' = gs := Except.ok.inj (hgs.symm.trans hg)
    exact ⟨hcells, hb, hcolors,
      Placement.forall₂_of_ofSettings (BuildRules.builtFrom hb).nodup_node_ids hp⟩
  · cases hc

/-- Labels take the colors of the palette in turn; where cells are drawn by themselves, each has the
color of its label; and where groups are drawn, each has the color of its cells, and other cells have
theirs. -/
theorem build_colorsAgree (hp : Palette.orStandard s.settings.figure.palette = .list palette)
    (hl : ∀ c ∈ cells, c.HasTextLabel) (hg : readGroups groups = .ok gs) :
    ∃ colors, Palette.colorsFor (labelled gs cells) s.settings.figure.palette = .ok colors ∧
      Palette.TakesTurns palette (Palette.labelsOf (labelled gs cells)) colors ∧
      (∀ plain, (s.build cells groups false).outcome = .ok plain → plain.cells = labelled gs cells ∧
        plain.chart.ColorsCells colors s.settings.figure.defaultNodeColor plain.cells) ∧
      ∀ collapsed, (s.build cells groups true).outcome = .ok collapsed →
        collapsed.chart.ColorsGroups colors gs ∧
        ∀ plain, (s.build cells groups false).outcome = .ok plain →
          collapsed.chart.ColorsAgree plain.chart gs plain.cells := by
  have htext : ∀ c ∈ labelled gs cells, c.HasTextLabel := hasTextLabel_labelled hl
  have hcolors := Palette.colorsFor_eq_inTurn hp htext
  have ht := Palette.takesTurns_inTurn (Palette.ne_nil_of_orStandard hp)
    (nodup_eraseDups ((labelled gs cells).filterMap Cell.labelText?))
  have hbuilt {g : CellGraph} (h : s.rules.build (labelled gs cells) = .ok g) :
      BuiltFrom s.rules (labelled gs cells) g ∧
        g.colors = Palette.inTurn palette (Palette.labelsOf (labelled gs cells)) :=
    ⟨BuildRules.builtFrom h, Except.ok.inj ((BuildRules.colors_of_build h).symm.trans hcolors)⟩
  refine ⟨_, hcolors, ht, fun plain h => ?_, fun collapsed h => ?_⟩
  · obtain ⟨hcells, hb, hchart, hplaced⟩ := placed_of_plain hg h
    obtain ⟨hfrom, hgraph⟩ := hbuilt hb
    rw [hcells, ← hgraph]
    exact ⟨rfl, hfrom.colorsCells hplaced hchart (hgraph ▸ ht)⟩
  · obtain ⟨gs', q, hgs, -, hb, hq, hchart, hplaced⟩ := of_build h
    obtain rfl : gs' = gs := Except.ok.inj (hgs.symm.trans hg)
    obtain ⟨hfrom, hgraph⟩ := hbuilt hb
    obtain ⟨hgroups, hagree⟩ :=
      colors_of_isRanked hfrom (areLabelled_labelled gs' cells) (hgraph ▸ ht) hq hchart hplaced
    refine ⟨hgraph ▸ hgroups, fun plain h' => ?_⟩
    obtain ⟨hcells, hb', -, hplaced'⟩ := placed_of_plain hg h'
    have hsame : plain.graph = collapsed.graph := Except.ok.inj (hb'.symm.trans hb)
    rw [hcells]
    exact hagree plain.chart (hsame ▸ hplaced')

/-- Three labels for two colors, under two overlapping groups the second of which is left without
cells; one cell has no label. -/
theorem build_colorsAgree_overlapping :
    let figure : FigureSettings := { palette := .list [.text "#123456", .text "#abcdef"] }
    let s : Session :=
      { settings := { figure }, folder := .null, excluded := Names.reserved, exporter := {} }
    let cells : List Cell := [
      { position := 5, source := .text "x = 1", label := .text "input" },
      { position := 2, source := .text "z = x", label := .text "model" },
      { position := 9, source := .text "w = z", label := .text "rest" },
      { position := 11, source := .text "v = w", label := .text "more" },
      { position := 12, source := .text "" }]
    let groups : Value := .list [
      .object [("label", .text "early"), ("cell_start", .int 1), ("cell_end", .int 5)],
      .object [("label", .text "late"), ("cell_start", .int 3), ("cell_end", .int 8)]]
    ∃ gs plain collapsed, readGroups groups = .ok gs ∧ (s.build cells groups false).outcome = .ok plain ∧
      (s.build cells groups true).outcome = .ok collapsed ∧
      plain.chart.colors = [(.text "early", .text "#123456"), (.text "rest", .text "#abcdef"),
        (.text "more", .text "#123456")] ∧
      collapsed.chart.ColorsAgree plain.chart gs plain.cells := by
  intro figure s cells groups
  let gs : List Group := [⟨"early", 1, 5, by decide⟩, ⟨"late", 3, 8, by decide⟩]
  have hp : Palette.orStandard s.settings.figure.palette = .list [.text "#123456", .text "#abcdef"] := rfl
  have hg : readGroups groups = .ok gs := rfl
  have hl : ∀ c ∈ cells, c.HasTextLabel := by
    simp [cells, Cell.HasTextLabel]
  have hb : (s.graphOf (labelled gs cells)).isOk = true := by decide +kernel
  obtain ⟨g, hgraph⟩ := exists_eq_ok_of_isOk hb
  obtain ⟨plain, h⟩ := exists_outcome false rfl .default (by decide) hg hgraph
  obtain ⟨collapsed, h'⟩ := exists_outcome true rfl .default (by decide) hg hgraph
  obtain ⟨colors, hcolors, -, hplain, hcollapsed⟩ := build_colorsAgree hp hl hg
  refine ⟨gs, plain, collapsed, hg, h, h', ?_, (hcollapsed collapsed h').2 plain h⟩
  rw [(hplain plain h).2.colors_eq]
  exact Except.ok.inj (hcolors.symm.trans rfl)

end Session

end CellFlow
