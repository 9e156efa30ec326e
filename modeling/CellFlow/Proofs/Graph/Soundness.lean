import CellFlow.Chart.Network
import CellFlow.Proofs.Graph.Quotient
import Mathlib

/-!
Graphs that were built from cells, and graphs that were collapsed, can be laid out: ids are
different, links join different nodes of cells or groups and are not doubled, and artifacts
come behind the cells that own them.
-/

set_option autoImplicit false

namespace CellFlow

/-- What ties a node to other nodes: its kind, its id, and the owner in its data. -/
structure Tie where
  kind : NodeKind
  id : Value
  owner : Value

def Node.tie {ι : Type} [NodeId ι] (n : Node ι) : Tie :=
  ⟨n.kind, NodeId.toValue n.id, Fields.getD n.data "owner" .null⟩

/-- Every artifact comes behind its owner, with only artifacts of the same owner in between. -/
def FollowOwners (ts : List Tie) : Prop :=
  ∀ before t after, ts = before ++ t :: after → t.kind = .secondary →
    ∃ others o between, before = others ++ o :: between ∧ o.kind = .primary ∧ t.owner = o.id ∧
      ∀ a ∈ between, a.kind = .secondary ∧ a.owner = o.id

namespace FollowOwners

theorem of_ranked {ts : List Tie} (h : ∀ t ∈ ts, t.kind ≠ .secondary) : FollowOwners ts := by
  intro before t after he hk
  exact absurd hk (h t (by simp [he]))

theorem cons {o : Tie} {as : List Tie} (ho : o.kind = .primary)
    (has : ∀ a ∈ as, a.kind = .secondary ∧ a.owner = o.id) : FollowOwners (o :: as) := by
  intro before t after he hk
  cases before with
  | nil =>
    rw [List.nil_append, List.cons.injEq] at he
    rw [← he.1, ho] at hk
    cases hk
  | cons b between =>
    rw [List.cons_append, List.cons.injEq] at he
    obtain ⟨rfl, rfl⟩ := he
    exact ⟨[], o, between, rfl, ho, (has t (by simp)).2, fun a ha => has a (by simp [ha])⟩

theorem append {l m : List Tie} (hl : FollowOwners l) (hm : FollowOwners m) :
    FollowOwners (l ++ m) := by
  intro before t after he hk
  rcases List.append_eq_append_iff.1 he with ⟨before', rfl, hm'⟩ | ⟨rest, rfl, hrest⟩
  · obtain ⟨others, o, between, rfl, ho⟩ := hm before' t after hm' hk
    exact ⟨l ++ others, o, between, by simp, ho⟩
  · cases rest with
    | nil =>
      obtain ⟨others, o, between, hb, -⟩ := hm [] t after hrest.symm hk
      simp at hb
    | cons u rest =>
      rw [List.cons_append, List.cons.injEq] at hrest
      obtain ⟨rfl, -⟩ := hrest
      exact hl before t rest rfl hk

theorem flatMap {β : Type} {f : β → List Tie} {l : List β} (h : ∀ b ∈ l, FollowOwners (f b)) :
    FollowOwners (l.flatMap f) := by
  induction l with
  | nil => exact of_ranked fun t ht => by cases ht
  | cons b l ih =>
    rw [List.flatMap_cons]
    exact (h b List.mem_cons_self).append (ih fun c hc => h c (List.mem_cons_of_mem b hc))

end FollowOwners

def Fields.AreNamed (taken : List String) (fs : Fields) : Prop :=
  ∀ f ∈ fs, ∃ name, f.1 = .text name ∧ name ∉ taken

theorem Fields.areNamed_of_map {taken : List String} {fs : Fields} (names : List String)
    (h : fs.map (·.1) = names.map Key.text) (hn : ∀ name ∈ names, name ∉ taken) :
    Fields.AreNamed taken fs := by
  intro f hf
  have hm : f.1 ∈ names.map Key.text := h ▸ List.mem_map_of_mem hf
  obtain ⟨name, hname, he⟩ := List.mem_map.1 hm
  exact ⟨name, he.symm, hn name hname⟩

namespace CellGraph

/-- A graph that can be laid out. -/
structure IsSound (g : CellGraph) : Prop where
  nodup_ids : (g.nodes.map (·.id)).Nodup
  nodup_links : g.links.Nodup
  ends : ∀ l ∈ g.links, l.source ≠ l.target ∧
    (∃ n ∈ g.nodes, n.kind.isRanked = true ∧ n.id = l.source) ∧
    ∃ n ∈ g.nodes, n.kind.isRanked = true ∧ n.id = l.target
  owners : FollowOwners (g.nodes.map Node.tie)
  ne_empty : ∀ n ∈ g.nodes, n.kind = .primary → n.id ≠ ""
  named : ∀ n ∈ g.nodes, Fields.AreNamed Network.takenByNodes n.data
  /-- Groups bring sizes that doubles can hold. -/
  sized : ∀ n ∈ g.nodes, n.kind = .group → ∃ k < 2 ^ 63, ∀ v,
    Fields.getD n.data "width" v = .int (Collapse.footprint k) ∧
    Fields.getD n.data "height" v = .int (Collapse.footprint k)

theorem IsSound.nodup_ranked_ids {g : CellGraph} (h : g.IsSound) :
    ((g.nodes.filter fun n => n.kind.isRanked).map (·.id)).Nodup :=
  h.nodup_ids.sublist (List.filter_sublist.map _)

end CellGraph

namespace BuildRules

variable {r : BuildRules} {colors : Colors} {c : Cell} {n : CellNode}

theorem mem_artifactNodes {tags : List Tag} :
    n ∈ artifactNodes c tags ↔ ∃ i tag, tags[i]? = some tag ∧ n = artifactNode c tag i := by
  simp only [artifactNodes, List.mem_map, Prod.exists, List.mem_zipIdx_iff_getElem?]
  constructor
  · intro h
    obtain ⟨tag, i, hi, rfl⟩ := h
    exact ⟨i, tag, hi, rfl⟩
  · intro h
    obtain ⟨i, tag, hi, rfl⟩ := h
    exact ⟨tag, i, hi, rfl⟩

theorem mem_cellNodes : n ∈ r.cellNodes colors c ↔
    n = r.cellNode colors c (r.names.extract c.source) ∨
    ∃ i tag, (r.tagList c)[i]? = some tag ∧ n = artifactNode c tag i := by
  rw [cellNodes, List.mem_cons, mem_artifactNodes]

theorem nodup_ids_artifactNodes (c : Cell) (tags : List Tag) :
    ((artifactNodes c tags).map (·.id)).Nodup := by
  have hm : (artifactNodes c tags).map (·.id) =
      (List.range tags.length).map fun i => artifactId c.id (i : Nat) := by
    rw [artifactNodes, List.map_map, List.range_eq_range', ← List.zipIdx_map_snd 0 tags,
      List.map_map]
    rfl
  rw [hm]
  refine List.nodup_range.map fun i j h => ?_
  exact Int.ofNat.inj (artifactId_injective h).2

theorem id_of_mem_cellNodes (h : n ∈ r.cellNodes colors c) :
    n.id = c.id ∨ ∃ i : Nat, n.id = artifactId c.id i := by
  rcases mem_cellNodes.1 h with rfl | ⟨i, tag, -, rfl⟩
  · exact .inl rfl
  · exact .inr ⟨i, rfl⟩

theorem nodup_ids_cellNodes (r : BuildRules) (colors : Colors) (c : Cell) :
    ((r.cellNodes colors c).map (·.id)).Nodup := by
  rw [cellNodes, List.map_cons, List.nodup_cons]
  refine ⟨fun h => ?_, nodup_ids_artifactNodes c _⟩
  obtain ⟨n, hn, hi⟩ := List.mem_map.1 h
  obtain ⟨i, tag, -, rfl⟩ := mem_artifactNodes.1 hn
  exact artifactId_ne_toString _ _ _ hi

theorem position_eq_of_ids {d : Cell} {m : CellNode} (hn : n ∈ r.cellNodes colors c)
    (hm : m ∈ r.cellNodes colors d) (h : n.id = m.id) : c.position = d.position := by
  rcases id_of_mem_cellNodes hn with hc | ⟨i, hc⟩ <;> rcases id_of_mem_cellNodes hm with hd | ⟨j, hd⟩ <;>
    rw [hc, hd] at h
  · exact toString_int_injective h
  · exact absurd h.symm (artifactId_ne_toString _ _ _)
  · exact absurd h (artifactId_ne_toString _ _ _)
  · exact toString_int_injective (artifactId_injective h).1

theorem followOwners_cellNodes (r : BuildRules) (colors : Colors) (c : Cell) :
    FollowOwners ((r.cellNodes colors c).map Node.tie) := by
  rw [cellNodes, List.map_cons]
  refine FollowOwners.cons rfl fun a ha => ?_
  obtain ⟨n, hn, rfl⟩ := List.mem_map.1 ha
  obtain ⟨i, tag, -, rfl⟩ := mem_artifactNodes.1 hn
  exact ⟨rfl, rfl⟩

theorem areNamed_of_mem_cellNodes (h : n ∈ r.cellNodes colors c) :
    Fields.AreNamed Network.takenByNodes n.data := by
  rcases mem_cellNodes.1 h with rfl | ⟨i, tag, -, rfl⟩
  · exact Fields.areNamed_of_map ["label", "color", "group", "execution_count", "source", "assigned",
      "used"] rfl (by decide)
  · exact Fields.areNamed_of_map ["label", "tag", "owner", "color"] rfl (by decide)

end BuildRules

namespace BuiltFrom

variable {r : BuildRules} {cells : List Cell} {g : CellGraph}

theorem mem_nodes (h : BuiltFrom r cells g) {n : CellNode} :
    n ∈ g.nodes ↔ ∃ c ∈ cells, n ∈ r.cellNodes g.colors c := by
  rw [h.nodes, List.mem_flatMap]

theorem kind_ne_group (h : BuiltFrom r cells g) {n : CellNode} (hn : n ∈ g.nodes) : n.kind ≠ .group := by
  obtain ⟨c, -, hc⟩ := h.mem_nodes.1 hn
  rcases BuildRules.mem_cellNodes.1 hc with rfl | ⟨i, tag, -, rfl⟩
  · exact fun hk => by cases hk
  · exact fun hk => by cases hk

theorem ranked (h : BuiltFrom r cells g) :
    (g.nodes.filter fun n => n.kind.isRanked) =
      cells.map fun c => r.cellNode g.colors c (r.names.extract c.source) := by
  rw [← h.primary, CellGraph.primary, CellGraph.ofKind]
  refine List.filter_congr fun n hn => ?_
  obtain ⟨c, -, hc⟩ := h.mem_nodes.1 hn
  rcases BuildRules.mem_cellNodes.1 hc with rfl | ⟨i, tag, -, rfl⟩
  · rfl
  · rfl

theorem nodup_node_ids (h : BuiltFrom r cells g) : (g.nodes.map (·.id)).Nodup := by
  rw [h.nodes, List.map_flatMap, List.nodup_flatMap]
  refine ⟨fun c _ => BuildRules.nodup_ids_cellNodes r g.colors c, ?_⟩
  refine (List.pairwise_map.1 h.positions).imp fun {c d} hcd => ?_
  intro id hc hd
  obtain ⟨n, hn, rfl⟩ := List.mem_map.1 hc
  obtain ⟨m, hm, hi⟩ := List.mem_map.1 hd
  exact hcd (BuildRules.position_eq_of_ids hn hm hi.symm)

theorem exists_node (h : BuiltFrom r cells g) {c : Cell} (hc : c ∈ cells) :
    ∃ n ∈ g.nodes, n.kind.isRanked = true ∧ n.id = c.id :=
  ⟨r.cellNode g.colors c (r.names.extract c.source),
    h.mem_nodes.2 ⟨c, hc, BuildRules.mem_cellNodes.2 (.inl rfl)⟩, rfl, rfl⟩

theorem isSound (h : BuiltFrom r cells g) : g.IsSound := by
  refine ⟨h.nodup_node_ids, h.nodup_links, fun l hl => ?_, ?_, fun n hn hk => ?_, fun n hn => ?_,
    fun n hn hk => absurd hk (h.kind_ne_group hn)⟩
  · obtain ⟨j, i, c, d, hji, hc, hd, rfl⟩ := h.links_forward hl
    refine ⟨fun he => ?_, h.exists_node (List.mem_of_getElem? hc), h.exists_node (List.mem_of_getElem? hd)⟩
    have hij := Flow.eq_of_toString_eq h.nodup_namesAt (getElem?_namesAt.2 ⟨c, hc, rfl⟩)
      (getElem?_namesAt.2 ⟨d, hd, rfl⟩) he
    omega
  · rw [h.nodes, List.map_flatMap]
    exact FollowOwners.flatMap fun c _ => BuildRules.followOwners_cellNodes r g.colors c
  · obtain ⟨c, -, hc⟩ := h.mem_nodes.1 hn
    rcases BuildRules.mem_cellNodes.1 hc with rfl | ⟨i, tag, -, rfl⟩
    · exact toString_int_ne_empty c.position
    · cases hk
  · obtain ⟨c, -, hc⟩ := h.mem_nodes.1 hn
    exact BuildRules.areNamed_of_mem_cellNodes hc

theorem length_nodes (h : BuiltFrom r cells g) :
    g.nodes.length = cells.length + (cells.map fun c => (r.tagList c).length).sum := by
  have hl : ∀ c, (r.cellNodes g.colors c).length = 1 + (r.tagList c).length := by
    intro c
    rw [BuildRules.cellNodes, List.length_cons, BuildRules.artifactNodes, List.length_map,
      List.length_zipIdx, Nat.add_comm]
  rw [h.nodes, List.length_flatMap]
  simp only [hl]
  clear h
  induction cells with
  | nil => rfl
  | cons c cells ih =>
    simp only [List.map_cons, List.sum_cons, List.length_cons, ih]
    omega

end BuiltFrom

namespace Collapse

variable {r : BuildRules} {groups : List Group} {cells : List Cell} {g q : CellGraph} {c : Cell}

theorem isRanked_nodeOf (r : BuildRules) (g : CellGraph) (groups : List Group) (cells : List Cell)
    (color : Value) (c : Cell) : (nodeOf r g groups cells color c).kind.isRanked = true := by
  unfold nodeOf
  cases Group.find? groups c.position with
  | none => rfl
  | some p => rfl

theorem areNamed_nodeOf (r : BuildRules) (g : CellGraph) (groups : List Group) (cells : List Cell)
    (color : Value) (c : Cell) :
    Fields.AreNamed Network.takenByNodes (nodeOf r g groups cells color c).data := by
  unfold nodeOf
  cases Group.find? groups c.position with
  | none => exact BuildRules.areNamed_of_mem_cellNodes (BuildRules.mem_cellNodes.2 (.inl rfl))
  | some p =>
    exact Fields.areNamed_of_map ["label", "size", "cells", "color", "width", "height"] rfl (by decide)

theorem length_idsIn_le (groups : List Group) (cells : List Cell) (s : String) :
    (idsIn groups cells s).length ≤ cells.length := by
  rw [idsIn, List.length_map]
  exact List.length_filter_le _ _

/-- The data of a group of so many cells: they tell the number, and the sides that belong to it. -/
def IsSizedBy (data : Fields) (k : ℕ) : Prop := Fields.getD data "size" .null = .int k ∧
  ∀ v, Fields.getD data "width" v = .int (footprint k) ∧ Fields.getD data "height" v = .int (footprint k)

theorem isSizedBy_nodeOf {color : Value} (hk : (nodeOf r g groups cells color c).kind = .group) :
    ∃ k ≤ cells.length, IsSizedBy (nodeOf r g groups cells color c).data k := by
  unfold nodeOf at hk ⊢
  cases hf : Group.find? groups c.position with
  | none =>
    rw [hf] at hk
    cases hk
  | some p =>
    refine ⟨_, length_idsIn_le groups cells (groupId p.2), ?_, fun v => ⟨?_, ?_⟩⟩
    · simp [groupNode, Fields.getD, List.lookup_cons]
    · simp [groupNode, Fields.getD, List.lookup_cons]
    · simp [groupNode, Fields.getD, List.lookup_cons]

theorem exists_footprint_nodeOf {color : Value} (hn : cells.length < 2 ^ 63)
    (hk : (nodeOf r g groups cells color c).kind = .group) : ∃ k < 2 ^ 63, ∀ v,
      Fields.getD (nodeOf r g groups cells color c).data "width" v = .int (footprint k) ∧
      Fields.getD (nodeOf r g groups cells color c).data "height" v = .int (footprint k) := by
  obtain ⟨k, hle, -, hsides⟩ := isSizedBy_nodeOf hk
  exact ⟨k, Nat.lt_of_le_of_lt hle hn, hsides⟩

theorem exists_node_of_classes {color : Value}
    (hids : q.nodes.map (·.id) = (cells.map (classOf groups)).eraseDups)
    (hof : ∀ n ∈ q.nodes, ∃ c ∈ cells, n = nodeOf r g groups cells color c) (hc : c ∈ cells) :
    ∃ n ∈ q.nodes, n.kind.isRanked = true ∧ n.id = classOf groups c := by
  have hm : classOf groups c ∈ q.nodes.map (·.id) := by
    rw [hids, List.mem_eraseDups]
    exact List.mem_map_of_mem hc
  obtain ⟨n, hn, hi⟩ := List.mem_map.1 hm
  obtain ⟨d, -, rfl⟩ := hof n hn
  exact ⟨_, hn, isRanked_nodeOf r g groups cells color d, hi⟩

/-- Between the nodes for the classes of the cells, links join different ones. -/
theorem ends_of_classes {color : Value} (h : BuiltFrom r cells g)
    (hids : q.nodes.map (·.id) = (cells.map (classOf groups)).eraseDups)
    (hof : ∀ n ∈ q.nodes, ∃ c ∈ cells, n = nodeOf r g groups cells color c)
    (hlinks : q.links = (projected groups cells g).keys) {l : Link} (hl : l ∈ q.links) : l.source ≠ l.target ∧
    (∃ n ∈ q.nodes, n.kind.isRanked = true ∧ n.id = l.source) ∧
    ∃ n ∈ q.nodes, n.kind.isRanked = true ∧ n.id = l.target := by
  obtain ⟨s, t⟩ := l
  rw [hlinks] at hl
  obtain ⟨hst, a, ha, b, hb, -, rfl, rfl⟩ := (mem_keys_projected h).1 hl
  exact ⟨hst, exists_node_of_classes hids hof ha, exists_node_of_classes hids hof hb⟩

theorem collapse_isSound (h : BuiltFrom r cells g) (hn : cells.length < 2 ^ 63) (groups : List Group)
    (color : Value) : ∃ q, g.collapse cells groups color = .ok q ∧ q.IsSound := by
  obtain ⟨q, hq, hids, hof, hcarried⟩ := collapse_eq_ok h groups color
  have hlinks : q.links = (projected groups cells g).keys := by
    rw [CellGraph.links, hcarried, Table.keys_mapValues]
  refine ⟨q, hq, ?_, ?_, fun l hl => ends_of_classes h hids hof hlinks hl, ?_, fun n hm hk => ?_, fun n hm => ?_,
    fun n hm hk => ?_⟩
  · rw [hids]
    exact nodup_eraseDups _
  · rw [hlinks, keys_projected]
    exact nodup_eraseDups _
  · refine FollowOwners.of_ranked fun t ht hk => ?_
    obtain ⟨n, hm, rfl⟩ := List.mem_map.1 ht
    obtain ⟨d, -, rfl⟩ := hof n hm
    have hr := isRanked_nodeOf r g groups cells color d
    rw [show (nodeOf r g groups cells color d).kind = .secondary from hk] at hr
    cases hr
  · obtain ⟨d, hd, rfl⟩ := hof n hm
    unfold nodeOf at hk ⊢
    cases hf : Group.find? groups d.position with
    | none => exact toString_int_ne_empty d.position
    | some p =>
      rw [hf] at hk
      cases hk
  · obtain ⟨d, -, rfl⟩ := hof n hm
    exact areNamed_nodeOf r g groups cells color d
  · obtain ⟨d, -, rfl⟩ := hof n hm
    exact exists_footprint_nodeOf hn hk

end Collapse

end CellFlow
