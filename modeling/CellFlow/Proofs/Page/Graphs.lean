import CellFlow.Proofs.Graph.Labels
import CellFlow.Proofs.Names.Words
import CellFlow.Proofs.Page.Block

/-!
The page of a graph that was built from cells, collapsed or not. Everything in its script is plain
but the labels of groups.
-/

set_option autoImplicit false

namespace CellFlow

theorem Colors.ArePlain.find? {colors : Colors} (h : colors.ArePlain) {label color : Value}
    (hc : color.IsPlainColor) : ((colors.find? label).getD color).IsPlainColor := by
  cases hf : colors.find? label with
  | none => exact hc
  | some found =>
    obtain ⟨k, -, hk⟩ := Option.bind_eq_some_iff.1 hf
    obtain ⟨j, hj⟩ := Fields.exists_mem_of_get? hk
    exact (h _ hj).2

/-- Colors that are written as they are: those of the palette, and the one of cells without label. -/
structure FigureSettings.HasPlainColors (s : FigureSettings) : Prop where
  palette : ∃ colors, Palette.orStandard s.palette = .list colors ∧ ∀ c ∈ colors, c.IsPlainColor
  node : s.defaultNodeColor.IsPlainColor

theorem FigureSettings.HasPlainColors.isList {s : FigureSettings} (h : s.HasPlainColors) :
    Palette.IsList s.palette :=
  h.palette.imp fun _ hc => hc.1

theorem FigureSettings.HasPlainColors.default : HasPlainColors {} where
  palette := by
    refine ⟨_, rfl, fun c hc => ?_⟩
    obtain ⟨s, hs, rfl⟩ := List.mem_map.1 hc
    exact .inr ⟨s, rfl, (by decide : ∀ s ∈ defaultPalette, '<' ∉ s.toList) s hs⟩
  node := .inr ⟨_, rfl, by decide⟩

namespace Palette

theorem arePlain_addLabel {palette : List Value} (hp : ∀ c ∈ palette, c.IsPlainColor) {colors c : Colors}
    (hc : colors.ArePlain) {label : Value} (hl : label = .null ∨ ∃ s, label = .text s)
    (h : addLabel (.list palette) colors label = .ok c) : c.ArePlain := by
  rcases hl with rfl | ⟨s, rfl⟩
  · exact Except.ok.inj h ▸ hc
  · have hlabel : (Value.text s).toKey = .ok (.text s) := rfl
    have hcolor : colorAt (.list palette) colors.length =
        .ok (palette.getD (colors.length % palette.length) .null) := rfl
    simp only [addLabel, hlabel, ok_bind, hcolor] at h
    split at h
    · exact Except.ok.inj h ▸ hc
    · obtain rfl := Except.ok.inj h
      rw [Colors.ArePlain, List.forall_mem_append, List.forall_mem_singleton]
      refine ⟨hc, ⟨s, rfl⟩, ?_⟩
      rw [List.getD_eq_getElem?_getD]
      cases hi : palette[colors.length % palette.length]? with
      | none => exact .inl rfl
      | some color => exact hp color (List.mem_of_getElem? hi)

theorem arePlain_colorsFor {s : FigureSettings} (hs : s.HasPlainColors) {cells : List Cell}
    (hl : ∀ c ∈ cells, c.HasTextLabel) {colors : Colors} (h : colorsFor cells s.palette = .ok colors) :
    colors.ArePlain := by
  obtain ⟨palette, hp, hplain⟩ := hs.palette
  rw [colorsFor, hp] at h
  refine of_foldlM_eq_ok (P := Colors.ArePlain) (by simp [Colors.ArePlain]) (fun cs hcs label hm c hc => ?_) h
  obtain ⟨d, hd, rfl⟩ := List.mem_map.1 hm
  exact arePlain_addLabel hplain hcs (hl d hd) hc

end Palette

namespace Names

theorem lt_not_mem_of_mem_used {r : Rules} {source : Value} {name : String}
    (h : name ∈ (r.extract source).used) : '<' ∉ name.toList := by
  obtain ⟨⟨w, -, hname⟩, -⟩ := Rules.mem_used_iff_exists_word.1 h
  let n : Identifier := ⟨name.toList, (exists_of_leadingName? hname).1⟩
  exact fun hlt => absurd (n.isNameChar_of_mem hlt) (by decide)

end Names

namespace Page

/-- The label of a group, as far as its node shows it, ends the script that holds it. -/
def LabelEnds (n : CellNode) : Prop :=
  n.kind = .group ∧ ∃ label, n.label = .text label ∧ EndsScript (cut labelLength label).toList

/-- A graph with nothing but the labels of its groups to end the script of its page. -/
structure ShowsLabels (g : CellGraph) : Prop where
  ids : ∀ n ∈ g.nodes, '<' ∉ n.id.toList
  nodes : ∀ n ∈ g.nodes, Shows n (LabelEnds n)
  names : ∀ e ∈ g.carried.entries, ∀ name ∈ e.2, '<' ∉ name.toList
  colors : g.colors.ArePlain

theorem exists_nodeItems {nodes : List CellNode} {placed : List (ChartNode Float)}
    (hp : List.Forall₂ Placement.IsPlacedNode nodes placed) {ends : CellNode → Prop}
    (h : ∀ n ∈ nodes, Shows n (ends n)) :
    ∃ items, placed.mapM nodeItem = .ok items ∧ (∀ item ∈ items, checkSize item = .ok ()) ∧
      ((∃ item ∈ items, ItemEnds item.toFields) ↔ ∃ n ∈ nodes, ends n) := by
  induction hp with
  | nil => exact ⟨[], rfl, by simp, by simp⟩
  | cons hc _ ih =>
    rw [List.forall_mem_cons] at h
    obtain ⟨item, hitem, hcheck, hends⟩ := h.1 _ hc
    obtain ⟨items, hitems, hchecks, hiff⟩ := ih h.2
    refine ⟨item :: items, by rw [List.mapM_cons, hitem, ok_bind, hitems]; rfl,
      List.forall_mem_cons.2 ⟨hcheck, hchecks⟩, ?_⟩
    rw [List.exists_mem_cons_iff, List.exists_mem_cons_iff, hends, hiff]

theorem ShowsLabels.exists_edgeItems {g : CellGraph} (h : ShowsLabels g) (hg : g.IsSound) :
    ∃ items, (Placement.numberEdges g.edges).mapM edgeItem = .ok items ∧
      ∀ item ∈ items, ¬ ItemEnds item.toFields := by
  have hedge : ∀ e ∈ Placement.numberEdges g.edges, ∃ item, edgeItem e = .ok item ∧
      ¬ ItemEnds item.toFields := by
    intro e he
    obtain ⟨⟨e, i⟩, hi, rfl⟩ := List.mem_map.1 he
    obtain ⟨⟨l, names⟩, hm, rfl⟩ := List.mem_map.1 (List.fst_mem_of_mem_zipIdx hi)
    obtain ⟨-, ⟨a, ha, -, hs⟩, b, hb, -, ht⟩ := hg.ends l (List.mem_map_of_mem hm)
    exact exists_edgeItem i (hs ▸ h.ids a ha) (ht ▸ h.ids b hb) (h.names _ hm)
  obtain ⟨items, hitems⟩ := exists_mapM_eq_ok fun e he => (hedge e he).imp fun _ h => h.1
  refine ⟨items, hitems, fun item hi => ?_⟩
  obtain ⟨e, he, hitem⟩ := exists_of_mem_forall₂ (forall₂_of_mapM_eq_ok hitems) hi
  obtain ⟨item', hitem', hends⟩ := hedge e he
  obtain rfl := Except.ok.inj (hitem.symm.trans hitem')
  exact hends

theorem ShowsLabels.exists_write {g : CellGraph} (h : ShowsLabels g) (hg : g.IsSound)
    {placed : List (ChartNode Float)} (hp : List.Forall₂ Placement.IsPlacedNode g.nodes placed)
    (notes : Fields) {statistics : Fields}
    (hs : ∀ key, '<' ∉ (Fields.getD statistics key (.int 0)).shown.toList) :
    ∃ page block, write ⟨placed, Placement.numberEdges g.edges, g.colors, notes⟩ (.object statistics) =
        .ok page ∧
      HasBlock page block ∧ (EndsScript block ↔ ∃ n ∈ g.nodes, LabelEnds n) := by
  obtain ⟨nodes, hn, hchecks, hends⟩ := exists_nodeItems hp h.nodes
  obtain ⟨edges, he, hedges⟩ := h.exists_edgeItems hg
  have hi : items ⟨placed, Placement.numberEdges g.edges, g.colors, notes⟩ = .ok (nodes, edges) := by
    rw [items, hn, ok_bind, he]
    rfl
  obtain ⟨page, hpage, hblock⟩ := Page.exists_write hi hchecks h.colors hs
  refine ⟨page, _, hpage, hblock, ?_⟩
  rw [endsScript_scriptBlock, hends]
  exact or_iff_left fun ⟨e, he, h⟩ => hedges e he h

theorem Shows.congr {n : CellNode} {p q : Prop} (h : Shows n p) (hpq : p ↔ q) : Shows n q := by
  rwa [← hpq]

theorem labelEnds_groupNode (id : String) (grp : Group) (ids : List String) (color : Value) :
    LabelEnds (Collapse.groupNode id grp ids color) ↔ EndsScript (cut labelLength grp.label).toList := by
  constructor
  · rintro ⟨-, label, hl, he⟩
    obtain rfl : grp.label = label := Value.text.inj hl
    exact he
  · exact fun he => ⟨rfl, _, rfl, he⟩

end Page

open Page

namespace BuiltFrom

variable {r : BuildRules} {cells : List Cell} {g : CellGraph}

theorem not_labelEnds (h : BuiltFrom r cells g) : ¬ ∃ n ∈ g.nodes, LabelEnds n :=
  fun ⟨_, hn, he⟩ => h.kind_ne_group hn he.1

theorem lt_not_mem_carried (h : BuiltFrom r cells g) {l : Link} {names : List String}
    (hl : g.carried.get? l = some names) {name : String} (hn : name ∈ names) : '<' ∉ name.toList := by
  rw [h.carried, Table.get?_mapValues, Option.map_eq_some_iff] at hl
  obtain ⟨ns, hns, rfl⟩ := hl
  have hm : name ∈ (Flow.ofCells (cells.map r.namesAt)).namesOn l := by
    rw [Flow.namesOn, hns]
    exact hn
  obtain ⟨j, i, c, d, -, -, -, ⟨e, he, hu⟩, -⟩ := Flow.mem_findings.1 (Flow.mem_namesOn_ofCells.1 hm)
  obtain ⟨c', -, rfl⟩ := getElem?_namesAt.1 he
  exact Names.lt_not_mem_of_mem_used hu

theorem showsLabels (h : BuiltFrom r cells g) (hf : r.figure.HasPlainColors) (hc : g.colors.ArePlain) :
    ShowsLabels g where
  ids n hn := by
    obtain ⟨c, -, hn⟩ := h.mem_nodes.1 hn
    rcases BuildRules.id_of_mem_cellNodes hn with hi | ⟨i, hi⟩
    · exact hi ▸ lt_not_mem_toString c.position
    · exact hi ▸ lt_not_mem_artifactId c.position i
  nodes n hn := by
    have hends : False ↔ LabelEnds n := ⟨False.elim, fun he => h.kind_ne_group hn he.1⟩
    obtain ⟨c, -, hn⟩ := h.mem_nodes.1 hn
    rcases BuildRules.mem_cellNodes.1 hn with rfl | ⟨i, tag, -, rfl⟩
    · exact (shows_cellNode (hc.find? hf.node)).congr hends
    · exact (shows_artifactNode c tag i).congr hends
  names e he name hn := h.lt_not_mem_carried ((Table.get?_eq_some_iff h.nodup_links).2 he) hn
  colors := hc

end BuiltFrom

namespace Collapse

variable {r : BuildRules} {cells : List Cell} {g q : CellGraph} {groups : List Group} {color : Value}

theorem shows_nodeOf (hn : cells.length < 2 ^ 63) (hf : r.figure.HasPlainColors) (hc : g.colors.ArePlain)
    (hcolor : color.IsPlainColor) (c : Cell) :
    Shows (nodeOf r g groups cells color c) (LabelEnds (nodeOf r g groups cells color c)) := by
  unfold nodeOf
  cases Group.find? groups c.position with
  | none => exact (shows_cellNode (hc.find? hf.node)).congr ⟨False.elim, fun he => NodeKind.noConfusion he.1⟩
  | some p =>
    have hids : ∀ id ∈ idsIn groups cells (groupId p.2), '<' ∉ id.toList := by
      intro id hid
      obtain ⟨d, -, rfl⟩ := List.mem_map.1 hid
      exact lt_not_mem_toString d.position
    exact (shows_groupNode hids (Nat.lt_of_le_of_lt (length_idsIn_le groups cells _) hn)
      (hc.find? hcolor)).congr (labelEnds_groupNode _ _ _ _).symm

theorem collapse_showsLabels (h : BuiltFrom r cells g) (hn : cells.length < 2 ^ 63)
    (hf : r.figure.HasPlainColors) (hc : g.colors.ArePlain) (hcolor : color.IsPlainColor)
    (hq : g.collapse cells groups color = .ok q) : ShowsLabels q := by
  obtain ⟨hids, hof, hcarried⟩ := of_collapse_eq_ok h hq
  have hkeys : q.carried.keys.Nodup := by
    rw [hcarried, Table.keys_mapValues, keys_projected]
    exact nodup_eraseDups _
  refine ⟨fun n hm => ?_, fun n hm => ?_, fun e he name hm => ?_, colors_of_collapse hq ▸ hc⟩
  · obtain ⟨c, -, rfl⟩ := hof n hm
    rw [id_nodeOf, classOf]
    cases Group.find? groups c.position with
    | none => exact lt_not_mem_toString c.position
    | some p => exact lt_not_mem_groupId p.2
  · obtain ⟨c, -, rfl⟩ := hof n hm
    exact shows_nodeOf hn hf hc hcolor c
  · obtain ⟨⟨s, t⟩, names⟩ := e
    have hget := (Table.get?_eq_some_iff hkeys).2 he
    rw [hcarried, Table.get?_mapValues, Option.map_eq_some_iff] at hget
    obtain ⟨ns, hns, rfl⟩ := hget
    obtain ⟨a, -, b, -, on, hon, hname, -⟩ := (mem_names_projected h hns name).1 hm
    exact h.lt_not_mem_carried hon hname

/-- Only groups that have cells are shown. -/
theorem exists_labelEnds_collapse (h : BuiltFrom r cells g) (hq : g.collapse cells groups color = .ok q) :
    (∃ n ∈ q.nodes, LabelEnds n) ↔ ∃ c ∈ cells, ∃ grp i,
      Group.find? groups c.position = some (grp, i) ∧ EndsScript (cut labelLength grp.label).toList := by
  obtain ⟨hids, hof, -⟩ := of_collapse_eq_ok h hq
  constructor
  · rintro ⟨n, hn, he⟩
    obtain ⟨c, hc, rfl⟩ := hof n hn
    unfold nodeOf at he
    cases hf : Group.find? groups c.position with
    | none =>
      rw [hf] at he
      exact NodeKind.noConfusion he.1
    | some p =>
      rw [hf] at he
      exact ⟨c, hc, p.1, p.2, hf, (labelEnds_groupNode _ _ _ _).1 he⟩
  · rintro ⟨c, hc, grp, i, hf, he⟩
    refine ⟨_, nodeOf_mem_nodes h hids hof hc, ?_⟩
    rw [nodeOf, hf]
    exact (labelEnds_groupNode _ _ _ _).2 he

end Collapse

end CellFlow
