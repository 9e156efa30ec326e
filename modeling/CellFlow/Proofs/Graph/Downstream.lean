import CellFlow.Proofs.Chart.WellFormed
import CellFlow.Proofs.Layout.Climbing

/-!
Data flows downstream: links lead from earlier to later cells, so that none is turned round when
the cells are ranked, and in exact arithmetic each is drawn in the direction of the layout.
-/

set_option autoImplicit false

namespace CellFlow

/-- Settings by which cells of one size are laid out in a direction. -/
structure LayoutSettings.IsDrawable (s : LayoutSettings) (d : Direction) (gaps : Spacing ℚ)
    (cell : Size ℚ) : Prop where
  direction : s.direction = .ok d
  crossingSweeps : ∃ sweeps, s.crossingSweeps.toIndex = .ok sweeps
  spacing : s.spacing d = .ok gaps
  nodeWidth : Coordinate.read s.nodeWidth = .ok cell.width
  nodeHeight : Coordinate.read s.nodeHeight = .ok cell.height
  positive : 0 < cell.width ∧ 0 < cell.height
  rankGap : 0 ≤ gaps.rankGap

namespace RankLayout

/-- Every edge leads from an earlier node to a later one. -/
def LeadForward (ids : List String) (arcs : List (String × String)) : Prop :=
  ∀ a ∈ arcs, ∃ j i : ℕ, j < i ∧ ids[j]? = some a.1 ∧ ids[i]? = some a.2

/-- The graph that decides on ranks: the numbers of the nodes, and the edges between them. -/
def numbered (ids : List String) (arcs : List (String × String)) : Digraph ℕ :=
  Digraph.ofLists (ids.map (numberOf ids)) (numberArcs ids arcs)

variable {ids : List String} {arcs : List (String × String)}

theorem LeadForward.numberOf_lt (h : LeadForward ids arcs) (hn : ids.Nodup) {a : String × String}
    (ha : a ∈ arcs) : numberOf ids a.1 < numberOf ids a.2 := by
  obtain ⟨j, i, hji, hj, hi⟩ := h a ha
  rw [numberOf_of_getElem? hn hj, numberOf_of_getElem? hn hi]
  exact hji

theorem LeadForward.isAcyclic_numbered (h : LeadForward ids arcs) (hn : ids.Nodup) :
    (numbered ids arcs).IsAcyclic := by
  refine Digraph.isAcyclic_of_lt id fun a ha => ?_
  obtain ⟨ha, -⟩ := Digraph.mem_arcs_ofLists.1 ha
  obtain ⟨b, hb, rfl⟩ := List.mem_map.1 (List.mem_filter.1 ha).1
  exact h.numberOf_lt hn hb

theorem mem_arcs_numbered (hn : ids.Nodup) {a : String × String} (ha : a ∈ arcs) {j i : ℕ}
    (hji : j ≠ i) (hj : ids[j]? = some a.1) (hi : ids[i]? = some a.2) :
    (j, i) ∈ (numbered ids arcs).arcs := by
  have hlj : j < ids.length := (List.getElem?_eq_some_iff.1 hj).1
  have hli : i < ids.length := (List.getElem?_eq_some_iff.1 hi).1
  refine Digraph.mem_arcs_ofLists.2 ⟨List.mem_filter.2 ⟨List.mem_map.2 ⟨a, ha, ?_⟩, ?_⟩, hji, ?_, ?_⟩
  · rw [numberOf_of_getElem? hn hj, numberOf_of_getElem? hn hi]
  · simp [hlj, hli]
  · rw [map_numberOf hn]
    exact List.mem_range.2 hlj
  · rw [map_numberOf hn]
    exact List.mem_range.2 hli

theorem LeadForward.rank_lt (h : LeadForward ids arcs) (hn : ids.Nodup) {a : String × String}
    (ha : a ∈ arcs) {j i : ℕ} (hji : j ≠ i) (hj : ids[j]? = some a.1) (hi : ids[i]? = some a.2) :
    (numbered ids arcs).unwound.rank j < (numbered ids arcs).unwound.rank i := by
  have hs := Digraph.isSimple_ofLists (ids.map (numberOf ids)) (numberArcs ids arcs)
  have hg := Digraph.isLayering_generations_unwound hs
  have hm : (j, i) ∈ (numbered ids arcs).arcs := mem_arcs_numbered hn ha hji hj hi
  obtain ⟨-, hvj, hvi⟩ := hs.joins _ hm
  refine hg.rank_lt ?_ ?_ ?_
  · exact (h.isAcyclic_numbered hn).unwound_eq.symm ▸ hm
  · rwa [Digraph.vertices_unwound]
  · rwa [Digraph.vertices_unwound]

variable {s : LayoutSettings} {d : Direction} {gaps : Spacing ℚ} {cell : Size ℚ}

theorem mainExtent_pos (hs : s.IsDrawable d gaps cell) : 0 < Stack.mainExtent d cell := by
  cases d with
  | topToBottom => exact hs.positive.2
  | bottomToTop => exact hs.positive.2
  | leftToRight => exact hs.positive.1
  | rightToLeft => exact hs.positive.1

/-- Edges that lead forward in the list of nodes lead in the direction of the layout. -/
theorem exists_compute_isBefore (hs : s.IsDrawable d gaps cell) {nodes : List CellNode}
    (hids : (nodes.map (·.id)).Nodup) (hk : ∀ n ∈ nodes, n.kind = .primary)
    (hf : LeadForward (nodes.map (·.id)) arcs) :
    ∃ t, compute s nodes arcs = .ok t ∧ (∀ n ∈ nodes, (t.get? n.id).isSome) ∧
      ∀ a ∈ arcs, ∀ p ∈ t.get? a.1, ∀ q ∈ t.get? a.2, d.IsBefore p q := by
  by_cases hne : nodes = []
  · subst hne
    refine ⟨.empty, rfl, ?_, fun a ha => ?_⟩
    · intro n hn
      cases hn
    · obtain ⟨j, i, -, hj, -⟩ := hf a ha
      simp at hj
  have hz : ∀ n ∈ nodes, s.footprint n.kind n.data = .ok cell := fun n hn =>
    LayoutSettings.footprint_of_ne_group hs.nodeWidth hs.nodeHeight (by simp [hk n hn]) n.data
  obtain ⟨sweeps, hsweeps⟩ := hs.crossingSweeps
  have hl := isLayering_layers (nodup_map_numberOf hids) (numberArcs (nodes.map (·.id)) arcs) sweeps.toNat
  have hx : ∀ v ∈ (layers ((nodes.map (·.id)).map (numberOf (nodes.map (·.id))))
      (numberArcs (nodes.map (·.id)) arcs) sweeps.toNat).flatten,
      0 < Stack.mainExtent d (sizeByNumber s nodes v : Size ℚ) := by
    intro v hv
    obtain ⟨n, hn, hv⟩ : ∃ n ∈ nodes, sizeByNumber s nodes v = (sizeOf s n : Size ℚ) :=
      exists_sizeByNumber_eq hids hv
    rw [hv, sizeOf_eq (hz n hn)]
    exact mainExtent_pos hs
  refine ⟨_, compute_eq_ok arcs hne (fun n hn => ⟨cell, hz n hn⟩) (fun n _ => rfl) hsweeps
    hs.direction hs.spacing, fun n hn => ?_, fun a ha p hp q hq => ?_⟩
  · obtain ⟨i, hi⟩ := List.getElem?_of_mem hn
    obtain ⟨p, -, ht⟩ := exists_mem_arranged hids hi d gaps sweeps arcs
    rw [ht]
    rfl
  · obtain ⟨j, i, hji, hj, hi⟩ := hf a ha
    obtain ⟨n, hn, hna⟩ := Option.map_eq_some_iff.1 (List.getElem?_map.symm.trans hj)
    obtain ⟨m, hm, hma⟩ := Option.map_eq_some_iff.1 (List.getElem?_map.symm.trans hi)
    obtain ⟨p', hp', htp⟩ := exists_mem_arranged hids hn d gaps sweeps arcs
    obtain ⟨q', hq', htq⟩ := exists_mem_arranged hids hm d gaps sweeps arcs
    rw [hna] at htp
    rw [hma] at htq
    obtain rfl := Option.some.inj (htp.symm.trans hp)
    obtain rfl := Option.some.inj (htq.symm.trans hq)
    exact Stack.isBefore_place hl.ne_nil hs.rankGap hx hl.rank _ hp' _ hq'
      (hf.rank_lt hids ha (Nat.ne_of_lt hji) hj hi)

end RankLayout

/-- The nodes of a cell graph, and its links as arcs between them. -/
def CellGraph.digraph (g : CellGraph) : Digraph String :=
  ⟨g.nodes.map (·.id), g.links.map fun l => (l.source, l.target)⟩

/-- Every edge joins nodes that are there, and it leads in the direction of the layout. -/
structure IsDrawnDownstream (d : Direction) (nodes : List (ChartNode ℚ)) (edges : List ChartEdge) :
    Prop where
  ends : ∀ e ∈ edges, (∃ a ∈ nodes, a.id = e.source) ∧ ∃ b ∈ nodes, b.id = e.target
  isBefore : ∀ e ∈ edges, ∀ a ∈ nodes, ∀ b ∈ nodes, a.id = e.source → b.id = e.target →
    d.IsBefore a.centre b.centre

namespace BuiltFrom

variable {r : BuildRules} {cells : List Cell} {g : CellGraph}

theorem leadForward (h : BuiltFrom r cells g) : RankLayout.LeadForward
    ((g.nodes.filter fun n => n.kind.isRanked).map (·.id)) (g.edges.map fun e => (e.source, e.target)) := by
  intro a ha
  obtain ⟨e, he, rfl⟩ := List.mem_map.1 ha
  obtain ⟨⟨l, names⟩, hl, rfl⟩ := List.mem_map.1 he
  obtain ⟨j, i, c, b, hji, hc, hb, rfl⟩ := h.links_forward (List.mem_map_of_mem hl)
  refine ⟨j, i, hji, ?_, ?_⟩
  · rw [h.ranked, List.map_map, List.getElem?_map, hc]
    rfl
  · rw [h.ranked, List.map_map, List.getElem?_map, hb]
    rfl

theorem isAcyclic (h : BuiltFrom r cells g) : g.digraph.IsAcyclic := by
  refine Digraph.isAcyclic_of_lt (RankLayout.numberOf (cells.map Cell.id)) fun a ha => ?_
  obtain ⟨l, hl, rfl⟩ := List.mem_map.1 ha
  obtain ⟨j, i, c, b, hji, hc, hb, rfl⟩ := h.links_forward hl
  have hj : (cells.map Cell.id)[j]? = some c.id := by rw [List.getElem?_map, hc]; rfl
  have hi : (cells.map Cell.id)[i]? = some b.id := by rw [List.getElem?_map, hb]; rfl
  rw [RankLayout.numberOf_of_getElem? h.nodup_ids hj, RankLayout.numberOf_of_getElem? h.nodup_ids hi]
  exact hji

/-- A node of the chart that is at the end of a link is a cell, and it stands where it was ranked. -/
theorem get?_of_id_eq (h : BuiltFrom r cells g) {placed : List (ChartNode ℚ)} {ranked : Table String (Point ℚ)}
    (hp : List.Forall₂ (fun n c => Placement.IsPlacedNode n c ∧
      (n.kind.isRanked = true → ranked.get? n.id = some c.centre)) g.nodes placed) {id : String}
    (hid : ∃ n ∈ g.nodes, n.kind.isRanked = true ∧ n.id = id) {a : ChartNode ℚ} (ha : a ∈ placed)
    (hai : a.id = .text id) : ranked.get? id = some a.centre := by
  obtain ⟨n, hn, hk, rfl⟩ := hid
  obtain ⟨m, hm, hplaced, hcentre⟩ := exists_of_mem_forall₂ hp ha
  have hi : m.id = n.id := Value.text.inj (hplaced.1.symm.trans hai)
  obtain rfl := List.inj_on_of_nodup_map h.nodup_node_ids hm hn hi
  exact hcentre hk

theorem exists_place_isDrawnDownstream (h : BuiltFrom r cells g) {s : LayoutSettings} {d : Direction}
    {gaps : Spacing ℚ} {cell : Size ℚ} (hs : s.IsDrawable d gaps cell) (ring : Ring ℚ) :
    ∃ nodes, Placement.place (RankLayout.compute s) (.ok ring) g.nodes g.edges =
        .ok (nodes, Placement.numberEdges g.edges) ∧
      IsDrawnDownstream d nodes (Placement.numberEdges g.edges) := by
  have hprimary : ∀ n ∈ g.nodes.filter fun n => n.kind.isRanked, n.kind = .primary := by
    intro n hn
    rw [h.ranked] at hn
    obtain ⟨c, -, rfl⟩ := List.mem_map.1 hn
    rfl
  obtain ⟨t, ht, hsome, hbefore⟩ :=
    RankLayout.exists_compute_isBefore hs h.isSound.nodup_ranked_ids hprimary h.leadForward
  obtain ⟨nodes, hplace, hp⟩ := Placement.place_eq_ok ring h.isSound ht hsome
  obtain ⟨ranked, hr, -, hcentres⟩ := Placement.of_place_eq_ok h.nodup_node_ids hplace
  obtain rfl := Except.ok.inj (ht.symm.trans hr)
  refine ⟨nodes, hplace, fun e he => ?_, fun e he a ha b hb hae hbe => ?_⟩
  · obtain ⟨-, ⟨a, ha, -, hae⟩, b, hb, -, hbe⟩ := h.isSound.placed_ends hp he
    exact ⟨⟨a, ha, hae⟩, b, hb, hbe⟩
  · obtain ⟨⟨f, i⟩, hf, rfl⟩ := List.mem_map.1 he
    obtain ⟨⟨l, names⟩, hl, rfl⟩ := List.mem_map.1 (List.fst_mem_of_mem_zipIdx hf)
    obtain ⟨-, hsource, htarget⟩ := h.isSound.ends l (List.mem_map_of_mem hl)
    exact hbefore (l.source, l.target) (List.mem_map.2 ⟨_, List.fst_mem_of_mem_zipIdx hf, rfl⟩)
      _ (h.get?_of_id_eq hcentres hsource ha hae) _ (h.get?_of_id_eq hcentres htarget hb hbe)

end BuiltFrom

/-- Links lead from earlier to later cells; so there is no cycle, none is turned round when the cells
are ranked, and all of them are drawn in the direction of the layout. -/
theorem BuildRules.build_flowsDownstream {r : BuildRules} {cells : List Cell} {g : CellGraph}
    (h : r.build cells = .ok g) :
    (∀ l ∈ g.links, ∃ (j i : ℕ) (c b : Cell),
      j < i ∧ cells[j]? = some c ∧ cells[i]? = some b ∧ l = ⟨c.id, b.id⟩) ∧
    g.digraph.IsAcyclic ∧
    (RankLayout.numbered ((g.nodes.filter fun n => n.kind.isRanked).map (·.id))
      (g.edges.map fun e => (e.source, e.target))).backArcs = [] ∧
    ∀ (s : LayoutSettings) (d : Direction) (gaps : Spacing ℚ) (cell : Size ℚ) (ring : Ring ℚ),
      s.IsDrawable d gaps cell →
      ∃ nodes, Placement.place (RankLayout.compute s) (.ok ring) g.nodes g.edges =
          .ok (nodes, Placement.numberEdges g.edges) ∧
        IsDrawnDownstream d nodes (Placement.numberEdges g.edges) := by
  have hb := BuildRules.builtFrom h
  exact ⟨fun l hl => hb.links_forward hl, hb.isAcyclic,
    (hb.leadForward.isAcyclic_numbered hb.isSound.nodup_ranked_ids).backArcs_eq_nil,
    fun s d gaps cell ring hs => hb.exists_place_isDrawnDownstream hs ring⟩

/-- Three cells whose positions fall and rise, one with a picture, laid out from right to left. -/
theorem BuildRules.build_flowsDownstream_unordered :
    let r : BuildRules := { names := ⟨true, Names.reserved⟩ }
    let cells : List Cell := [
      { position := 5, source := .text "x = 1\ny = 2",
        outputs := [.object [("output_type", .text "display_data")]] },
      { position := 2, source := .text "z = x" }, { position := 9, source := .text "w = y + z" }]
    let s : LayoutSettings := { rankDirection := .text "RL" }
    ∃ g, r.build cells = .ok g ∧ g.links = [⟨"5", "2"⟩, ⟨"5", "9"⟩, ⟨"2", "9"⟩] ∧ g.digraph.IsAcyclic ∧
      ∃ nodes, Placement.place (RankLayout.compute s) (.ok ⟨90, fun _ => ⟨1, 0⟩⟩) g.nodes g.edges =
          .ok (nodes, Placement.numberEdges g.edges) ∧
        IsDrawnDownstream .rightToLeft nodes (Placement.numberEdges g.edges) := by
  intro r cells s
  have hl : (r.build cells).toOption.map (·.links) = some [⟨"5", "2"⟩, ⟨"5", "9"⟩, ⟨"2", "9"⟩] := by
    decide +kernel
  have hs : s.IsDrawable .rightToLeft ⟨20, 20, 50, 50⟩ ⟨100, 40⟩ :=
    ⟨rfl, ⟨4, rfl⟩, rfl, rfl, rfl, by decide, by decide⟩
  cases h : r.build cells with
  | error e =>
    rw [h] at hl
    cases hl
  | ok g =>
    rw [h] at hl
    obtain ⟨-, hacyclic, -, hdrawn⟩ := BuildRules.build_flowsDownstream h
    exact ⟨g, rfl, Option.some.inj hl, hacyclic, hdrawn s .rightToLeft _ _ _ hs⟩

end CellFlow
