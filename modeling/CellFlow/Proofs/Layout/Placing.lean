import CellFlow.Layout.Placement
import CellFlow.Proofs.Graph.Soundness
import CellFlow.Proofs.Layout.LongestPaths
import CellFlow.Proofs.Layout.Slots
import CellFlow.Proofs.Number.Nearest

/-!
Placing a complete graph does not fail: every node of a cell or a group gets a centre, and every
artifact finds its owner. Sound graphs are complete.
-/

set_option autoImplicit false

namespace CellFlow

def ChartNode.tie {α : Type} (n : ChartNode α) : Tie :=
  ⟨n.kind, n.id, Fields.getD n.data "owner" .null⟩

theorem Coordinate.read_of_ofNumber? {α : Type} [Coordinate α] {v : Value} {x : α}
    (h : ofNumber? v = some (.ok x)) : read v = .ok x := by
  simp [read, h]

/-- A value that stands for a double. -/
def Value.IsNumber (v : Value) : Prop := ∃ x : Float, Coordinate.ofNumber? v = some (.ok x)

namespace Value.IsNumber

variable {v : Value}

theorem read (h : v.IsNumber) : ∃ x : Float, Coordinate.read v = .ok x := by
  obtain ⟨x, hx⟩ := h
  exact ⟨x, Coordinate.read_of_ofNumber? hx⟩

theorem leftOperand (h : v.IsNumber) : ∃ x : Float, Coordinate.leftOperand v = .ok x := by
  obtain ⟨x, hx⟩ := h
  exact ⟨x, by simp [Coordinate.leftOperand, hx]⟩

theorem rightOperand (h : v.IsNumber) (op : String) :
    ∃ x : Float, Coordinate.rightOperand op v = .ok x := by
  obtain ⟨x, hx⟩ := h
  exact ⟨x, by simp [Coordinate.rightOperand, hx]⟩

theorem readRadius (h : v.IsNumber) : ∃ x, Ring.readRadius v = .ok x := by
  obtain ⟨x, hx⟩ := h
  exact ⟨x, by simp [Ring.readRadius, hx]⟩

theorem of_int {n : ℕ} (h : n < 2 ^ 70) : (Value.int n).IsNumber := by
  obtain ⟨x, hx⟩ := Number.exists_nearest? h
  have he : (Coordinate.ofInt? (n : ℤ) : Option Float) = some x := hx
  exact ⟨x, by rw [Coordinate.ofNumber?, he]; rfl⟩

theorem of_footprint {k : ℕ} (hk : k < 2 ^ 63) : (Value.int (Collapse.footprint k)).IsNumber :=
  of_int (show 60 + k * 10 < 2 ^ 70 by omega)

end Value.IsNumber

/-- Layout settings that have passed their checks and whose numbers doubles can hold. -/
structure LayoutSettings.IsNumeric (s : LayoutSettings) : Prop where
  check : s.check = .ok ()
  nodeSep : s.nodeSep.IsNumber
  rankSep : s.rankSep.IsNumber
  marginX : s.marginX.IsNumber
  marginY : s.marginY.IsNumber
  nodeWidth : s.nodeWidth.IsNumber
  nodeHeight : s.nodeHeight.IsNumber
  artifactRadius : s.artifactRadius.IsNumber
  crossingSweeps : ∃ n, s.crossingSweeps.toIndex = .ok n

namespace LayoutSettings

variable {s : LayoutSettings}

theorem of_check (h : s.check = .ok ()) : (∃ d, s.direction = .ok d) ∧
    compareToInt "<=" (· ≤ 0.0) (· ≤ 0) s.artifactSlots = .ok false := by
  unfold check at h
  obtain ⟨d, hd, h⟩ := bind_eq_ok.1 h
  refine ⟨⟨d, hd⟩, ?_⟩
  split at h
  · cases h
  · obtain ⟨b, hb, h⟩ := bind_eq_ok.1 h
    cases b with
    | true => cases h
    | false => exact liftM_eq_ok.1 hb

theorem exists_share {slots : Value}
    (h : compareToInt "<=" (· ≤ 0.0) (· ≤ 0) slots = .ok false) (slot : ℕ) :
    ∃ x, Ring.share slots slot = .ok x := by
  cases slots with
  | bool b =>
    cases b with
    | true => exact ⟨_, rfl⟩
    | false => cases h
  | int n =>
    have hn : decide (n ≤ 0) = false := Except.ok.inj h
    refine ⟨Number.ratio slot n, ?_⟩
    rw [Ring.share, if_neg fun hz => ?_]
    subst hz
    cases hn
  | float x =>
    have hx : decide (x ≤ 0.0) = false := Except.ok.inj h
    refine ⟨Float.ofNat slot / x, ?_⟩
    rw [Ring.share, if_neg fun hz => ?_]
    exact of_decide_eq_false hx (Number.le_zero_of_beq_zero hz)
  | _ => cases h

namespace IsNumeric

theorem default : IsNumeric {} where
  check := rfl
  nodeSep := .of_int (n := 50) (by decide)
  rankSep := .of_int (n := 50) (by decide)
  marginX := .of_int (n := 20) (by decide)
  marginY := .of_int (n := 20) (by decide)
  nodeWidth := .of_int (n := 100) (by decide)
  nodeHeight := .of_int (n := 40) (by decide)
  artifactRadius := .of_int (n := 90) (by decide)
  crossingSweeps := ⟨4, rfl⟩

theorem exists_ring (h : s.IsNumeric) : ∃ r, Ring.ofSettings s = .ok r := by
  obtain ⟨x, hx⟩ := exists_share (of_check h.check).2 0
  obtain ⟨radius, hr⟩ := h.artifactRadius.readRadius
  exact ⟨_, by rw [Ring.ofSettings, hx, ok_bind, hr, ok_bind]; rfl⟩

theorem exists_spacing (h : s.IsNumeric) (d : Direction) :
    ∃ gaps : Spacing Float, s.spacing d = .ok gaps := by
  have hx : ∀ b : Bool, Value.IsNumber (if b then s.marginX else s.marginY) := by
    intro b
    cases b with
    | true => exact h.marginX
    | false => exact h.marginY
  have hy : ∀ b : Bool, Value.IsNumber (if b then s.marginY else s.marginX) := by
    intro b
    cases b with
    | true => exact h.marginY
    | false => exact h.marginX
  obtain ⟨main, hm⟩ := (hx d.isHorizontal).leftOperand
  obtain ⟨cross, hc⟩ := (hy d.isHorizontal).leftOperand
  obtain ⟨node, hn⟩ := h.nodeSep.rightOperand "+"
  obtain ⟨rank, hr⟩ := h.rankSep.rightOperand "+"
  exact ⟨⟨main, cross, node, rank⟩, by rw [spacing, hm, ok_bind, hc, ok_bind, hn, ok_bind, hr]; rfl⟩

theorem exists_footprint (h : s.IsNumeric) {kind : NodeKind} {data : Fields}
    (hw : kind = .group → (Fields.getD data "width" s.nodeWidth).IsNumber)
    (hh : kind = .group → (Fields.getD data "height" s.nodeHeight).IsNumber) :
    ∃ z : Size Float, s.footprint kind data = .ok z := by
  by_cases hk : kind = .group
  · subst hk
    obtain ⟨width, hw⟩ := (hw rfl).read
    obtain ⟨height, hh⟩ := (hh rfl).read
    exact ⟨⟨width, height⟩, by rw [footprint, hw, ok_bind, hh]; rfl⟩
  · obtain ⟨width, hw⟩ := h.nodeWidth.read
    obtain ⟨height, hh⟩ := h.nodeHeight.read
    exact ⟨⟨width, height⟩, footprint_of_ne_group hw hh hk data⟩

theorem exists_compute (h : s.IsNumeric) {nodes : List CellNode} (arcs : List (String × String))
    (hids : (nodes.map (·.id)).Nodup)
    (hz : ∀ n ∈ nodes, ∃ z : Size Float, s.footprint n.kind n.data = .ok z) :
    ∃ t : Table String (Point Float), RankLayout.compute s nodes arcs = .ok t ∧
      t.keys.Perm (nodes.map (·.id)) := by
  obtain ⟨d, hd⟩ := (of_check h.check).1
  obtain ⟨sweeps, hk⟩ := h.crossingSweeps
  obtain ⟨gaps, hg⟩ := h.exists_spacing d
  exact RankLayout.exists_compute_keys_perm arcs hids hz hk hd hg

end IsNumeric

end LayoutSettings

theorem Node.owner_of_text {n : CellNode} {owner : String}
    (h : Fields.getD n.data "owner" .null = .text owner) (hne : owner ≠ "") :
    n.owner = .ok (.text owner) :=
  Node.owner_of_ownerName? (Node.ownerName?_of_text h hne)

theorem NodeKind.isRanked_eq_false {k : NodeKind} : k.isRanked = false ↔ k = .secondary := by
  cases k <;> decide

theorem CellGraph.IsSound.exists_owner {g : CellGraph} (h : g.IsSound) {n : CellNode} (hn : n ∈ g.nodes)
    (hk : n.kind.isRanked = false) :
    ∃ o ∈ g.nodes, o.kind = .primary ∧ Fields.getD n.data "owner" .null = .text o.id := by
  obtain ⟨before, after, he⟩ := List.append_of_mem (List.mem_map_of_mem (f := Node.tie) hn)
  obtain ⟨others, t, between, hb, ht, ho, -⟩ := h.owners before n.tie after he
    (NodeKind.isRanked_eq_false.1 hk)
  have hm : t ∈ g.nodes.map Node.tie := by
    rw [he, hb]
    simp
  obtain ⟨o, hog, rfl⟩ := List.mem_map.1 hm
  exact ⟨o, hog, ht, ho⟩

theorem CellGraph.IsSound.mem_ids {g : CellGraph} (h : g.IsSound) :
    ∀ e ∈ g.edges, e.source ∈ g.nodes.map (·.id) ∧ e.target ∈ g.nodes.map (·.id) := by
  intro e he
  obtain ⟨⟨l, names⟩, hl, rfl⟩ := List.mem_map.1 he
  obtain ⟨-, ⟨n, hn, -, hs⟩, m, hm, -, ht⟩ := h.ends l (List.mem_map_of_mem hl)
  exact ⟨List.mem_map.2 ⟨n, hn, hs⟩, List.mem_map.2 ⟨m, hm, ht⟩⟩

namespace Placement

theorem checkIds_eq_ok {nodes : List CellNode} {seen : List String}
    (h : ∀ n ∈ nodes, n.id ∉ seen) (hn : (nodes.map (·.id)).Nodup) : checkIds seen nodes = .ok () := by
  induction nodes generalizing seen with
  | nil => rfl
  | cons n nodes ih =>
    rw [List.map_cons, List.nodup_cons] at hn
    have hs : seen.contains n.id = false := by simpa using h n List.mem_cons_self
    rw [checkIds, hs, if_neg Bool.false_ne_true]
    refine ih (fun m hm hs => ?_) hn.2
    rcases List.mem_cons.1 hs with he | hs
    · exact hn.1 (he ▸ List.mem_map_of_mem hm)
    · exact h m (List.mem_cons_of_mem n hm) hs

theorem checkEdges_eq_ok {ids : List String} {edges : List (PlainEdge String)} (index : ℕ)
    (h : ∀ e ∈ edges, e.source ∈ ids ∧ e.target ∈ ids) : checkEdges ids index edges = .ok () := by
  induction edges generalizing index with
  | nil => rfl
  | cons e edges ih =>
    obtain ⟨hs, ht⟩ := h e List.mem_cons_self
    rw [checkEdges, checkEnd, if_pos (by simpa using hs), ok_bind, checkEnd, if_pos (by simpa using ht),
      ok_bind]
    exact ih _ fun f hf => h f (List.mem_cons_of_mem e hf)

variable {α : Type} [Coordinate α]

theorem map_fst_placeFrom {ring : Except Fault (Ring α)} {centres : Table String (Point α)}
    {counts : Table String ℕ} {nodes : List CellNode} {placed : List (String × Point α)}
    (h : Ring.placeFrom ring centres counts nodes = .ok placed) :
    placed.map (·.1) = nodes.map (·.id) := by
  induction nodes generalizing counts placed with
  | nil =>
    obtain rfl := Except.ok.inj h
    rfl
  | cons n nodes ih =>
    rw [Ring.placeFrom] at h
    obtain ⟨owner, -, h⟩ := bind_eq_ok.1 h
    obtain ⟨key, -, h⟩ := bind_eq_ok.1 h
    dsimp only at h
    split at h
    · cases h
    · obtain ⟨ring', -, h⟩ := bind_eq_ok.1 h
      obtain ⟨others, ho, h⟩ := bind_eq_ok.1 h
      obtain rfl := Except.ok.inj h
      rw [List.map_cons, List.map_cons, ih ho]

theorem isSome_get?_of_withArtifacts {ring : Except Fault (Ring α)} {ranked centres : Table String (Point α)}
    {nodes : List CellNode} (h : withArtifacts ring ranked nodes = .ok centres)
    (hr : ∀ n ∈ nodes, n.kind.isRanked = true → (ranked.get? n.id).isSome) :
    ∀ n ∈ nodes, (centres.get? n.id).isSome := by
  obtain ⟨placed, hp, h⟩ := bind_eq_ok.1 h
  obtain rfl := Except.ok.inj h
  intro n hn
  have hkeys : (placed.foldl (fun t p => t.put p.1 p.2) ranked).keys =
      (placed.map (·.1)).foldl addNew ranked.keys :=
    Table.keys_foldl_put (·.1) (fun _ p => p.2) placed ranked
  rw [Table.isSome_get?_iff, hkeys, mem_foldl_addNew, map_fst_placeFrom hp]
  cases hk : n.kind.isRanked with
  | true => exact .inl (Table.isSome_get?_iff.1 (hr n hn hk))
  | false => exact .inr (List.mem_map_of_mem (List.mem_filter.2 ⟨hn, by rw [hk]; rfl⟩))

theorem exists_withArtifacts_eq_ok (r : Ring α) {ranked : Table String (Point α)} {nodes : List CellNode}
    (ha : ∀ n ∈ nodes, n.kind.isRanked = false → Ring.HasCentre ranked n) :
    ∃ centres, withArtifacts (.ok r) ranked nodes = .ok centres := by
  have hf : ∀ n ∈ nodes.filter fun n => !n.kind.isRanked, Ring.HasCentre ranked n := by
    intro n hn
    obtain ⟨hn, hk⟩ := List.mem_filter.1 hn
    exact ha n hn (by simpa using hk)
  obtain ⟨placed, hp, -⟩ := Ring.exists_place_eq_ok r hf
  exact ⟨_, by rw [withArtifacts, hp, ok_bind]; rfl⟩

/-- A node at a centre: its id and kind, and its data with a label. -/
def IsPlacedNode (n : CellNode) (c : ChartNode α) : Prop :=
  c.id = .text n.id ∧ c.kind = n.kind ∧ c.data = Fields.setDefault n.data "label" n.label

omit [Coordinate α] in
theorem of_placeNode_eq_ok {centres : Table String (Point α)} {n : CellNode} {c : ChartNode α}
    (h : placeNode centres n = .ok c) : IsPlacedNode n c ∧ centres.get? n.id = some c.centre := by
  unfold placeNode at h
  cases hc : centres.get? n.id with
  | none =>
    rw [hc] at h
    cases h
  | some centre =>
    rw [hc] at h
    obtain rfl := Except.ok.inj h
    exact ⟨⟨rfl, rfl, rfl⟩, rfl⟩

omit [Coordinate α] in
theorem exists_placeNode_eq_ok {centres : Table String (Point α)} {n : CellNode}
    (h : (centres.get? n.id).isSome) : ∃ c, placeNode centres n = .ok c := by
  obtain ⟨centre, hc⟩ := Option.isSome_iff_exists.1 h
  exact ⟨_, by rw [placeNode, hc]⟩

omit [Coordinate α] in
theorem IsPlacedNode.tie {n : CellNode} {c : ChartNode α} (h : IsPlacedNode n c) :
    c.tie = n.tie := by
  obtain ⟨hi, hk, hd⟩ := h
  rw [ChartNode.tie, Node.tie, hi, hk, hd, Fields.getD_setDefault_of_ne (by decide)]
  rfl

/-- An artifact whose owner is among the ranked nodes. -/
def HasOwner (nodes : List CellNode) (n : CellNode) : Prop :=
  ∃ o ∈ nodes, o.kind.isRanked = true ∧ n.ownerName? = some o.id

/-- Nodes with different ids, edges between them, and artifacts that belong to ranked ones. -/
structure IsComplete (nodes : List CellNode) (edges : List (PlainEdge String)) : Prop where
  ids : (nodes.map (·.id)).Nodup
  ends : ∀ e ∈ edges, e.source ∈ nodes.map (·.id) ∧ e.target ∈ nodes.map (·.id)
  owners : ∀ n ∈ nodes, n.kind.isRanked = false → HasOwner nodes n

/-- A group whose sizes doubles can hold. -/
def IsSized (s : LayoutSettings) (n : CellNode) : Prop :=
  n.kind = .group → (Fields.getD n.data "width" s.nodeWidth).IsNumber ∧
    (Fields.getD n.data "height" s.nodeHeight).IsNumber

/-- When its ranked nodes get centres, a complete graph is placed: every artifact finds its owner. -/
theorem IsComplete.exists_place_eq_ok
    {rank : List CellNode → List (String × String) → Outcome (Table String (Point α))} (r : Ring α)
    {nodes : List CellNode} {edges : List (PlainEdge String)} (h : IsComplete nodes edges)
    {ranked : Table String (Point α)}
    (hr : rank (nodes.filter fun n => n.kind.isRanked) (edges.map fun e => (e.source, e.target)) = .ok ranked)
    (hranked : ∀ n ∈ nodes.filter fun n => n.kind.isRanked, (ranked.get? n.id).isSome) :
    ∃ placed, place rank (.ok r) nodes edges = .ok (placed, numberEdges edges) ∧
      List.Forall₂ IsPlacedNode nodes placed := by
  obtain ⟨centres, hc⟩ := exists_withArtifacts_eq_ok r fun n hn hk => by
    obtain ⟨o, ho, hok, howner⟩ := h.owners n hn hk
    exact ⟨o.id, howner, hranked o (List.mem_filter.2 ⟨ho, hok⟩)⟩
  have hcentres := isSome_get?_of_withArtifacts hc fun n hn hk => hranked n (List.mem_filter.2 ⟨hn, hk⟩)
  obtain ⟨placed, hp⟩ := exists_mapM_eq_ok fun n hn => exists_placeNode_eq_ok (hcentres n hn)
  refine ⟨placed, ?_, (forall₂_of_mapM_eq_ok hp).imp fun n c h => (of_placeNode_eq_ok h).1⟩
  rw [place, checkIds_eq_ok (fun n _ => List.not_mem_nil) h.ids, ok_bind, checkEdges_eq_ok 0 h.ends,
    ok_bind, hr, ok_bind, hc, ok_bind, hp]
  rfl

theorem exists_rank_eq_ok {s : LayoutSettings} {nodes : List CellNode} (hs : s.IsNumeric)
    (hids : (nodes.map (·.id)).Nodup) (hz : ∀ n ∈ nodes, IsSized s n) (arcs : List (String × String)) :
    ∃ ranked : Table String (Point Float),
      RankLayout.compute s (nodes.filter fun n => n.kind.isRanked) arcs = .ok ranked ∧
      ranked.keys.Perm ((nodes.filter fun n => n.kind.isRanked).map (·.id)) :=
  hs.exists_compute arcs (hids.sublist (List.filter_sublist.map _)) fun n hn =>
    have hn := (List.mem_filter.1 hn).1
    hs.exists_footprint (fun hk => (hz n hn hk).1) fun hk => (hz n hn hk).2

/-- A complete graph is placed: nothing that its layout looks for is missing. -/
theorem IsComplete.exists_ofSettings_eq_ok {s : LayoutSettings} {nodes : List CellNode}
    {edges : List (PlainEdge String)} (hs : s.IsNumeric) (hz : ∀ n ∈ nodes, IsSized s n)
    (h : IsComplete nodes edges) :
    ∃ placed, ofSettings s nodes edges = .ok (placed, numberEdges edges) ∧
      List.Forall₂ IsPlacedNode nodes placed := by
  obtain ⟨ranked, hr, hkeys⟩ := exists_rank_eq_ok hs h.ids hz (edges.map fun e => (e.source, e.target))
  obtain ⟨r, hring⟩ := hs.exists_ring
  rw [ofSettings, hring]
  refine h.exists_place_eq_ok r hr fun n hn => ?_
  exact Table.isSome_get?_iff.2 (hkeys.mem_iff.2 (List.mem_map_of_mem hn))

theorem IsComplete.of_isSound {g : CellGraph} (hg : g.IsSound) : IsComplete g.nodes g.edges where
  ids := hg.nodup_ids
  ends := hg.mem_ids
  owners := by
    intro n hn hk
    obtain ⟨o, ho, hprimary, howner⟩ := hg.exists_owner hn hk
    refine ⟨o, ho, ?_, Node.ownerName?_of_text howner (hg.ne_empty o ho hprimary)⟩
    simp [hprimary, NodeKind.isRanked]

theorem place_eq_ok {rank : List CellNode → List (String × String) → Outcome (Table String (Point α))}
    (r : Ring α) {g : CellGraph} (hg : g.IsSound) {ranked : Table String (Point α)}
    (hr : rank (g.nodes.filter fun n => n.kind.isRanked) (g.edges.map fun e => (e.source, e.target)) =
      .ok ranked)
    (hranked : ∀ n ∈ g.nodes.filter fun n => n.kind.isRanked, (ranked.get? n.id).isSome) :
    ∃ placed, place rank (.ok r) g.nodes g.edges = .ok (placed, numberEdges g.edges) ∧
      List.Forall₂ IsPlacedNode g.nodes placed :=
  (IsComplete.of_isSound hg).exists_place_eq_ok r hr hranked

theorem ofSettings_eq_ok {s : LayoutSettings} {g : CellGraph} (hs : s.IsNumeric) (hg : g.IsSound) :
    ∃ placed, ofSettings s g.nodes g.edges = .ok (placed, numberEdges g.edges) ∧
      List.Forall₂ IsPlacedNode g.nodes placed := by
  refine (IsComplete.of_isSound hg).exists_ofSettings_eq_ok hs fun n hn hk => ?_
  obtain ⟨k, hk, hw⟩ := hg.sized n hn hk
  exact ⟨(hw s.nodeWidth).1 ▸ .of_footprint hk, (hw s.nodeHeight).2 ▸ .of_footprint hk⟩

/-- Artifacts do not move the nodes that have their centres already. -/
theorem get?_withArtifacts {ring : Except Fault (Ring α)} {ranked centres : Table String (Point α)}
    {nodes : List CellNode} (hn : (nodes.map (·.id)).Nodup)
    (h : withArtifacts ring ranked nodes = .ok centres) {n : CellNode} (hm : n ∈ nodes)
    (hk : n.kind.isRanked = true) : centres.get? n.id = ranked.get? n.id := by
  obtain ⟨placed, hp, h⟩ := bind_eq_ok.1 h
  obtain rfl := Except.ok.inj h
  refine Table.get?_foldl_put_of_not_mem (fun p : String × Point α => p.2) ranked fun hid => ?_
  rw [map_fst_placeFrom hp] at hid
  obtain ⟨a, ha, hi⟩ := List.mem_map.1 hid
  obtain ⟨ha, hka⟩ := List.mem_filter.1 ha
  rw [List.inj_on_of_nodup_map hn ha hm hi, hk] at hka
  cases hka

/-- Where the nodes of a placed graph are: those of cells and groups stand where they were ranked. -/
theorem of_place_eq_ok {rank : List CellNode → List (String × String) → Outcome (Table String (Point α))}
    {ring : Except Fault (Ring α)} {nodes : List CellNode} {edges : List (PlainEdge String)}
    {placed : List (ChartNode α) × List ChartEdge} (hn : (nodes.map (·.id)).Nodup)
    (h : place rank ring nodes edges = .ok placed) :
    ∃ ranked, rank (nodes.filter fun n => n.kind.isRanked) (edges.map fun e => (e.source, e.target)) =
        .ok ranked ∧ placed.2 = numberEdges edges ∧
      List.Forall₂ (fun n c => IsPlacedNode n c ∧
        (n.kind.isRanked = true → ranked.get? n.id = some c.centre)) nodes placed.1 := by
  obtain ⟨-, -, h⟩ := bind_eq_ok.1 h
  obtain ⟨-, -, h⟩ := bind_eq_ok.1 h
  obtain ⟨ranked, hr, h⟩ := bind_eq_ok.1 h
  obtain ⟨centres, hc, h⟩ := bind_eq_ok.1 h
  obtain ⟨cs, hp, h⟩ := bind_eq_ok.1 h
  obtain rfl := Except.ok.inj h
  have hm := (List.forall₂_and_left _ _).2 ⟨fun n hn => hn, forall₂_of_mapM_eq_ok hp⟩
  refine ⟨ranked, hr, rfl, hm.imp fun n c hnc => ?_⟩
  obtain ⟨hplaced, hcentre⟩ := of_placeNode_eq_ok hnc.2
  refine ⟨hplaced, fun hk => ?_⟩
  rw [← get?_withArtifacts hn hc hnc.1 hk, hcentre]

end Placement

end CellFlow
