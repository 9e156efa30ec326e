import CellFlow.Layout.Placement
import CellFlow.Proofs.Data.Renaming
import CellFlow.Proofs.Layout.Placing

/-!
Layouts do not depend on what ids are, only on which of them are equal: under an injective
renaming of the ids every node keeps its centre.
-/

set_option autoImplicit false

namespace CellFlow

variable {ι μ α : Type}

def Node.rename (r : ι → μ) (n : Node ι) : Node μ := ⟨r n.id, n.label, n.kind, n.data⟩

theorem Node.map_id_rename (r : ι → μ) (nodes : List (Node ι)) :
    (nodes.map (Node.rename r)).map (·.id) = (nodes.map (·.id)).map r := by
  rw [List.map_map, List.map_map]
  rfl

namespace RankLayout

variable [BEq ι] [LawfulBEq ι] [BEq μ] [LawfulBEq μ] {r : ι → μ}

theorem numberOf_map (hr : Function.Injective r) (ids : List ι) (id : ι) :
    numberOf (ids.map r) (r id) = numberOf ids id := by
  rw [numberOf, numberOf, List.findIdx_map]
  exact congrArg (ids.findIdx ·) (funext fun i => hr.beq_eq)

theorem map_numberOf_map (hr : Function.Injective r) (ids : List ι) :
    (ids.map r).map (numberOf (ids.map r)) = ids.map (numberOf ids) := by
  rw [List.map_map]
  exact List.map_congr_left fun id _ => numberOf_map hr ids id

theorem numberArcs_map (hr : Function.Injective r) (ids : List ι) (arcs : List (ι × ι)) :
    numberArcs (ids.map r) (arcs.map (Prod.map r r)) = numberArcs ids arcs := by
  rw [numberArcs, numberArcs, List.map_map, List.length_map]
  congr 1
  exact List.map_congr_left fun a _ =>
    Prod.ext (numberOf_map hr ids a.1) (numberOf_map hr ids a.2)

theorem byId_map (hr : Function.Injective r) (ids : List ι) (placed : List (Nat × Point α)) :
    byId (ids.map r) placed = (byId ids placed).mapKeys r := by
  rw [byId_eq, byId_eq, Table.mapKeys_foldl_put hr, List.map_filterMap]
  congr 1
  refine List.filterMap_congr fun p _ => ?_
  rw [List.getElem?_map, Option.map_map, Option.map_map]
  rfl

variable [Coordinate α]

theorem sizes_rename (s : LayoutSettings) (hr : Function.Injective r) (t : Table ι (Size α)) (nodes : List (Node ι)) :
    sizes s (t.mapKeys r) (nodes.map (Node.rename r)) =
      Table.mapKeys r <$> (sizes s t nodes : Except Fault (Table ι (Size α))) := by
  induction nodes generalizing t with
  | nil => rfl
  | cons n nodes ih =>
    rw [List.map_cons, sizes, sizes, map_bind]
    refine bind_congr fun z => ?_
    rw [← ih, Table.mapKeys_put hr]
    rfl

theorem sizeAt_map (hr : Function.Injective r) (ids : List ι) (t : Table ι (Size α)) :
    sizeAt (ids.map r) (t.mapKeys r) = sizeAt ids t := by
  funext number
  rw [sizeAt, sizeAt, List.getElem?_map]
  cases ids[number]? with
  | none => rfl
  | some id => exact congrArg (Option.getD · ⟨0, 0⟩) (Table.get?_mapKeys hr t id)

theorem byId_arrange_map (hr : Function.Injective r) (d : Direction) (gaps : Spacing α) (sweeps : ℕ)
    (t : Table ι (Size α)) (ids : List ι) (arcs : List (ι × ι)) :
    byId (ids.map r) (arrange d gaps (sizeAt (ids.map r) (t.mapKeys r)) sweeps
        ((ids.map r).map (numberOf (ids.map r))) (numberArcs (ids.map r) (arcs.map (Prod.map r r)))) =
      (byId ids (arrange d gaps (sizeAt ids t) sweeps (ids.map (numberOf ids))
        (numberArcs ids arcs))).mapKeys r := by
  rw [map_numberOf_map hr, numberArcs_map hr, sizeAt_map hr, byId_map hr]

variable (s : LayoutSettings) [NodeId ι] [NodeId μ]

/-- A renaming that keeps ids apart, and gives no id that is missing, only renames the layout. -/
theorem compute_rename (hr : Function.Injective r)
    (hnull : ∀ id, (NodeId.toKey (r id) == Key.null) = (NodeId.toKey id == Key.null))
    (nodes : List (Node ι)) (arcs : List (ι × ι)) :
    (compute s (nodes.map (Node.rename r)) (arcs.map (Prod.map r r)) : Outcome (Table μ (Point α))) =
      Table.mapKeys r <$> compute s nodes arcs := by
  have hany : ((nodes.map (Node.rename r)).any fun n => NodeId.toKey n.id == Key.null) =
      nodes.any fun n => NodeId.toKey n.id == Key.null := by
    rw [List.any_map]
    exact congrArg (nodes.any ·) (funext fun n => hnull n.id)
  have hsizes := sizes_rename (α := α) s hr .empty nodes
  rw [Table.mapKeys_empty] at hsizes
  unfold compute
  rw [hany, hsizes, List.isEmpty_map]
  cases nodes.isEmpty with
  | true => rfl
  | false =>
    cases sizes s (.empty : Table ι (Size α)) nodes with
    | error e => rfl
    | ok t =>
      cases nodes.any fun n => NodeId.toKey n.id == Key.null with
      | true => rfl
      | false =>
        simp only [Bool.false_eq_true, if_false, map_bind, liftM_ok, Except.map_ok, ok_bind]
        refine bind_congr fun sweeps => bind_congr fun d => bind_congr fun gaps => ?_
        rw [Node.map_id_rename, byId_arrange_map hr]
        rfl

end RankLayout

section

variable (r : String → String)

/-- The data of a node with new names for what it names: cells show their own ids, artifacts know
their owners. -/
def Fields.renameIds (kind : NodeKind) (fs : Fields) : Fields :=
  match kind with
  | .primary => fs.renameAt r "label"
  | .secondary => fs.renameAt r "owner"
  | .group => fs

def Node.renamed (n : CellNode) : CellNode where
  id := r n.id
  label := if n.kind = .primary then n.label.renamed r else n.label
  kind := n.kind
  data := n.data.renameIds r n.kind

def PlainEdge.renamed (e : PlainEdge String) : PlainEdge String :=
  ⟨r e.source, r e.target, e.data⟩

def ChartNode.renamed (c : ChartNode α) : ChartNode α :=
  ⟨c.id.renamed r, c.kind, c.centre, c.data.renameIds r c.kind⟩

def ChartEdge.renamed (e : ChartEdge) : ChartEdge :=
  ⟨e.id, e.source.renamed r, e.target.renamed r, e.data⟩

theorem Node.map_id_renamed (nodes : List CellNode) :
    (nodes.map (Node.renamed r)).map (·.id) = (nodes.map (·.id)).map r := by
  rw [List.map_map, List.map_map]
  rfl

theorem Node.filter_renamed (p : NodeKind → Bool) (nodes : List CellNode) :
    ((nodes.map (Node.renamed r)).filter fun n => p n.kind) =
      (nodes.filter fun n => p n.kind).map (Node.renamed r) := by
  rw [List.filter_map]
  rfl

theorem Node.getD_owner_renamed {n : CellNode} (hk : n.kind = .secondary) :
    Fields.getD (n.renamed r).data "owner" .null = (Fields.getD n.data "owner" .null).renamed r := by
  rw [Node.renamed, hk]
  exact Fields.getD_renameAt r n.data

theorem Node.setDefault_renamed (n : CellNode) :
    Fields.setDefault (n.renamed r).data "label" (n.renamed r).label =
      (Fields.setDefault n.data "label" n.label).renameIds r n.kind := by
  cases hk : n.kind with
  | primary =>
    rw [Node.renamed, hk]
    exact Fields.setDefault_renameAt_self r n.data n.label
  | secondary =>
    rw [Node.renamed, hk]
    exact Fields.setDefault_renameAt_of_ne r n.data (by decide) n.label
  | group =>
    rw [Node.renamed, hk]
    rfl

/-- A layout does not see what its nodes name. -/
theorem RankLayout.alike_renamed [Coordinate α] (s : LayoutSettings) (nodes : List CellNode) :
    List.Forall₂ (Alike α s) (nodes.map (Node.renamed r)) (nodes.map (Node.rename r)) := by
  rw [List.forall₂_map_left_iff, List.forall₂_map_right_iff, List.forall₂_same]
  intro n _
  refine ⟨rfl, ?_⟩
  rw [Node.renamed, Node.rename]
  cases n.kind <;> rfl

end

section

variable {r : String → String} [Coordinate α] {ring : Except Fault (Ring α)}
  {centres : Table String (Point α)} {nodes : List CellNode}

theorem Ring.placeFrom_renamed (hr : Function.Injective r) (counts : Table String ℕ)
    (h : ∀ n ∈ nodes, n.kind = .secondary ∧ ∃ owner,
      Fields.getD n.data "owner" .null = .text owner ∧ owner ≠ "" ∧ r owner ≠ "" ∧
        (centres.get? owner).isSome) :
    placeFrom ring (centres.mapKeys r) (counts.mapKeys r) (nodes.map (Node.renamed r)) =
      List.map (Prod.map r id) <$> placeFrom ring centres counts nodes := by
  induction nodes generalizing counts with
  | nil => rfl
  | cons n nodes ih =>
    obtain ⟨hk, owner, ho, hne, hne', hc⟩ := h n List.mem_cons_self
    obtain ⟨centre, hc⟩ := Option.isSome_iff_exists.1 hc
    have ho' : Fields.getD (n.renamed r).data "owner" .null = .text (r owner) := by
      rw [Node.getD_owner_renamed r hk, ho]
      rfl
    have hc' : (centres.mapKeys r).get? (r owner) = some centre := by
      rw [Table.get?_mapKeys hr, hc]
    rw [List.map_cons, placeFrom, placeFrom, Node.owner_of_text ho hne, Node.owner_of_text ho' hne']
    simp only [liftM_ok, ok_bind, Value.toKey, Value.key?, NodeId.ofKey?, Option.bind_some, hc, hc',
      Option.map_some, map_bind, Table.get?_mapKeys hr, ← Table.mapKeys_put hr,
      ih _ fun m hm => h m (List.mem_cons_of_mem n hm), bind_map_left]
    rfl

namespace Placement

theorem withArtifacts_renamed (hr : Function.Injective r)
    (h : ∀ n ∈ nodes, n.kind.isRanked = false → n.kind = .secondary ∧ ∃ owner,
      Fields.getD n.data "owner" .null = .text owner ∧ owner ≠ "" ∧ r owner ≠ "" ∧
        (centres.get? owner).isSome) :
    withArtifacts ring (centres.mapKeys r) (nodes.map (Node.renamed r)) =
      Table.mapKeys r <$> withArtifacts ring centres nodes := by
  have hf : ∀ n ∈ nodes.filter fun n => !n.kind.isRanked, n.kind = .secondary ∧ ∃ owner,
      Fields.getD n.data "owner" .null = .text owner ∧ owner ≠ "" ∧ r owner ≠ "" ∧
        (centres.get? owner).isSome := by
    intro n hn
    obtain ⟨hn, hk⟩ := List.mem_filter.1 hn
    exact h n hn (by simpa using hk)
  have hp : Ring.placeFrom ring (centres.mapKeys r) (Table.mapKeys r .empty)
      ((nodes.filter fun n => !n.kind.isRanked).map (Node.renamed r)) = List.map (Prod.map r id) <$>
        Ring.placeFrom ring centres .empty (nodes.filter fun n => !n.kind.isRanked) :=
    Ring.placeFrom_renamed hr .empty hf
  rw [withArtifacts, withArtifacts, Node.filter_renamed r fun k => !k.isRanked, Ring.place, Ring.place,
    ← Table.mapKeys_empty r, hp, bind_map_left, map_bind]
  refine bind_congr fun placed => ?_
  rw [pure_eq_ok, pure_eq_ok, Except.map_ok, Table.mapKeys_foldl_put hr]
  rfl

omit [Coordinate α] in
theorem placeNode_renamed (hr : Function.Injective r) {n : CellNode}
    (h : (centres.get? n.id).isSome) :
    placeNode (centres.mapKeys r) (n.renamed r) = ChartNode.renamed r <$> placeNode centres n := by
  obtain ⟨centre, hc⟩ := Option.isSome_iff_exists.1 h
  have hc' : (centres.mapKeys r).get? (n.renamed r).id = some centre := by
    rw [← hc]
    exact Table.get?_mapKeys hr centres n.id
  rw [placeNode, placeNode, hc, hc', Node.setDefault_renamed]
  rfl

omit [Coordinate α] in
theorem mapM_placeNode_renamed (hr : Function.Injective r)
    (h : ∀ n ∈ nodes, (centres.get? n.id).isSome) :
    (nodes.map (Node.renamed r)).mapM (placeNode (centres.mapKeys r)) =
      List.map (ChartNode.renamed r) <$> nodes.mapM (placeNode centres) := by
  induction nodes with
  | nil => rfl
  | cons n nodes ih =>
    rw [List.map_cons, List.mapM_cons, List.mapM_cons, placeNode_renamed hr (h n List.mem_cons_self),
      ih fun m hm => h m (List.mem_cons_of_mem n hm)]
    simp only [bind_map_left, map_bind]
    rfl

theorem numberEdges_renamed (r : String → String) (edges : List (PlainEdge String)) :
    numberEdges (edges.map (PlainEdge.renamed r)) = (numberEdges edges).map (ChartEdge.renamed r) := by
  rw [numberEdges, numberEdges, List.zipIdx_map, List.map_map, List.map_map]
  rfl

theorem checkIds_renamed (hr : Function.Injective r) (hn : (nodes.map (·.id)).Nodup) :
    checkIds [] (nodes.map (Node.renamed r)) = .ok () := by
  refine checkIds_eq_ok (fun n _ => List.not_mem_nil) ?_
  rw [Node.map_id_renamed]
  exact hn.map hr

theorem checkEdges_renamed (r : String → String) {ids : List String} {edges : List (PlainEdge String)}
    (h : ∀ e ∈ edges, e.source ∈ ids ∧ e.target ∈ ids) :
    checkEdges (ids.map r) 0 (edges.map (PlainEdge.renamed r)) = .ok () := by
  refine checkEdges_eq_ok 0 fun e he => ?_
  obtain ⟨old, hold, rfl⟩ := List.mem_map.1 he
  exact ⟨List.mem_map_of_mem (h old hold).1, List.mem_map_of_mem (h old hold).2⟩

/-- A sound graph with new ids is placed as it was under its old ones, if its ranked nodes are. -/
theorem place_renamed {rank : List CellNode → List (String × String) → Outcome (Table String (Point α))}
    {g : CellGraph} (hg : g.IsSound) (hr : Function.Injective r)
    (hne : ∀ n ∈ g.nodes, n.kind = .primary → r n.id ≠ "")
    (hrank : ∀ nodes arcs, rank (nodes.map (Node.renamed r)) (arcs.map (Prod.map r r)) =
      Table.mapKeys r <$> rank nodes arcs)
    (hsome : ∀ nodes arcs t, (nodes.map (·.id)).Nodup → rank nodes arcs = .ok t →
      ∀ n ∈ nodes, (t.get? n.id).isSome) :
    place rank ring (g.nodes.map (Node.renamed r)) (g.edges.map (PlainEdge.renamed r)) =
      Prod.map (List.map (ChartNode.renamed r)) (List.map (ChartEdge.renamed r)) <$>
        place rank ring g.nodes g.edges := by
  have hlinks : ((g.edges.map (PlainEdge.renamed r)).map fun e => (e.source, e.target)) =
      (g.edges.map fun e => (e.source, e.target)).map (Prod.map r r) := by
    rw [List.map_map, List.map_map]
    rfl
  rw [place, place, checkIds_eq_ok (fun n _ => List.not_mem_nil) hg.nodup_ids,
    checkIds_renamed hr hg.nodup_ids, checkEdges_eq_ok 0 hg.mem_ids, Node.map_id_renamed,
    checkEdges_renamed r hg.mem_ids, hlinks, Node.filter_renamed r NodeKind.isRanked, hrank,
    numberEdges_renamed]
  cases ht : rank (g.nodes.filter fun n => n.kind.isRanked) (g.edges.map fun e => (e.source, e.target)) with
  | error e => rfl
  | ok ranked =>
    have hranked : ∀ n ∈ g.nodes, n.kind.isRanked = true → (ranked.get? n.id).isSome :=
      fun n hn hk => hsome _ _ _ hg.nodup_ranked_ids ht n (List.mem_filter.2 ⟨hn, hk⟩)
    have hartifacts : withArtifacts ring (ranked.mapKeys r) (g.nodes.map (Node.renamed r)) =
        Table.mapKeys r <$> withArtifacts ring ranked g.nodes := by
      refine withArtifacts_renamed hr fun n hn hk => ?_
      obtain ⟨o, ho, hprimary, howner⟩ := hg.exists_owner hn hk
      exact ⟨NodeKind.isRanked_eq_false.1 hk, o.id, howner, hg.ne_empty o ho hprimary, hne o ho hprimary,
        hranked o ho (by rw [hprimary]; rfl)⟩
    simp only [ok_bind, Except.map_ok]
    rw [hartifacts]
    cases hc : withArtifacts ring ranked g.nodes with
    | error e => rfl
    | ok centres =>
      simp only [ok_bind, Except.map_ok]
      rw [mapM_placeNode_renamed hr (isSome_get?_of_withArtifacts hc hranked), bind_map_left, map_bind]
      rfl

theorem ofSettings_renamed (s : LayoutSettings) {g : CellGraph} (hg : g.IsSound)
    (hr : Function.Injective r) (hne : ∀ n ∈ g.nodes, n.kind = .primary → r n.id ≠ "") :
    ofSettings s (g.nodes.map (Node.renamed r)) (g.edges.map (PlainEdge.renamed r)) =
      Prod.map (List.map (ChartNode.renamed r)) (List.map (ChartEdge.renamed r)) <$>
        ofSettings s g.nodes g.edges := by
  refine place_renamed hg hr hne (fun nodes arcs => ?_) fun nodes arcs t hn ht =>
    RankLayout.isSome_get?_of_compute hn ht
  rw [RankLayout.Alike.compute (RankLayout.alike_renamed r s nodes),
    RankLayout.compute_rename s hr (fun id => rfl)]

end Placement

end

end CellFlow
