import CellFlow.Proofs.Graph.Classes

/-!
A collapsed graph is the quotient of the graph of the cells by their classes: one node for each
class that has cells, and a link between two classes exactly when one leads from a cell of the
first to a cell of the second, with all names that such links carry.
-/

set_option autoImplicit false

namespace CellFlow.Collapse

/-- The class of the cell with an id. -/
def classAt (groups : List Group) (cells : List Cell) (id : String) : String :=
  ((cells.find? fun c => c.id == id).map (classOf groups)).getD id

/-- The link between the classes of two linked cells, none inside a class. -/
def project (groups : List Group) (cells : List Cell) (l : Link) : Option Link :=
  if classAt groups cells l.source = classAt groups cells l.target then none
  else some ⟨classAt groups cells l.source, classAt groups cells l.target⟩

structure IsGroupNode (groups : List Group) (cells : List Cell) (n : CellNode) : Prop where
  of_group : ∃ i g, groups[i]? = some g ∧ n.id = groupId i ∧ n.label = .text g.label
  kind : n.kind = .group
  holds : Fields.getD n.data "cells" .null = .list ((idsIn groups cells n.id).map .text)
  size : Fields.getD n.data "size" .null = .int (idsIn groups cells n.id).length

structure IsSingleNode (groups : List Group) (cells : List Cell) (g : CellGraph) (n : CellNode) :
    Prop where
  primary : n ∈ g.primary
  of_cell : ∃ c ∈ cells, (∀ grp ∈ groups, ¬ grp.contains c.position) ∧ n.id = c.id ∧
    idsIn groups cells n.id = [c.id]

/-- The graph `q` is the quotient of the graph `g` of the cells by their classes. -/
structure IsQuotient (groups : List Group) (cells : List Cell) (g q : CellGraph) : Prop where
  grouped : ∀ c ∈ cells, ∀ i grp, groups[i]? = some grp → grp.contains c.position →
    (∀ j < i, ∀ other, groups[j]? = some other → ¬ other.contains c.position) →
    classOf groups c = groupId i
  ungrouped : ∀ c ∈ cells, (∀ grp ∈ groups, ¬ grp.contains c.position) → classOf groups c = c.id
  /-- One node for each class that has cells, where its first cell stands. -/
  ids : q.nodes.map (·.id) = (cells.map (classOf groups)).eraseDups
  node : ∀ n ∈ q.nodes, IsGroupNode groups cells n ∨ IsSingleNode groups cells g n
  partition : ∀ c ∈ cells, ∃! n, n ∈ q.nodes ∧ c.id ∈ idsIn groups cells n.id
  mem_links : ∀ s t, (⟨s, t⟩ : Link) ∈ q.links ↔ s ≠ t ∧ ∃ a ∈ cells, ∃ b ∈ cells,
    (⟨a.id, b.id⟩ : Link) ∈ g.links ∧ classOf groups a = s ∧ classOf groups b = t
  nodup : q.links.Nodup
  order : q.links = (g.links.filterMap (project groups cells)).eraseDups
  ascending : ∀ l names, q.carried.get? l = some names → names.Pairwise (· < ·)
  mem_names : ∀ s t names, q.carried.get? ⟨s, t⟩ = some names → ∀ name, name ∈ names ↔
    ∃ a ∈ cells, ∃ b ∈ cells, ∃ on, g.carried.get? ⟨a.id, b.id⟩ = some on ∧ name ∈ on ∧
      classOf groups a = s ∧ classOf groups b = t

variable {r : BuildRules} {groups : List Group} {cells : List Cell} {g : CellGraph} {c : Cell}

def nodeOf (r : BuildRules) (g : CellGraph) (groups : List Group) (cells : List Cell) (color : Value)
    (c : Cell) : CellNode :=
  match Group.find? groups c.position with
  | some (grp, i) => groupNode (groupId i) grp (idsIn groups cells (groupId i))
      ((g.colors.find? (.text grp.label)).getD color)
  | none => r.cellNode g.colors c (r.names.extract c.source)

theorem id_nodeOf (color : Value) (c : Cell) :
    (nodeOf r g groups cells color c).id = classOf groups c := by
  unfold nodeOf classOf
  cases Group.find? groups c.position with
  | none => rfl
  | some p => rfl

theorem primaryNode?_id (h : BuiltFrom r cells g) (hc : c ∈ cells) :
    primaryNode? g c.id = some (r.cellNode g.colors c (r.names.extract c.source)) := by
  have hn : r.cellNode g.colors c (r.names.extract c.source) ∈ g.primary.reverse := by
    rw [List.mem_reverse, h.primary]
    exact List.mem_map_of_mem hc
  cases hf : primaryNode? g c.id with
  | none =>
    have := List.find?_eq_none.1 hf _ hn
    simp [BuildRules.cellNode] at this
  | some n =>
    have hm := List.mem_of_find?_eq_some hf
    have hi : n.id = c.id := by simpa using List.find?_some hf
    rw [List.mem_reverse, h.primary] at hm
    obtain ⟨d, hd, rfl⟩ := List.mem_map.1 hm
    have hdc : d = c := List.inj_on_of_nodup_map h.nodup_ids hd hc hi
    rw [hdc]

theorem nodeFor_eq_ok (h : BuiltFrom r cells g) (color : Value) (done : List String) (hc : c ∈ cells) :
    nodeFor g groups (members groups cells) (classes groups cells) color done c =
      .ok (if classOf groups c ∈ done then none else some (nodeOf r g groups cells color c)) := by
  rw [nodeFor, get?_classes h.nodup_ids hc]
  simp only [Option.getD_some]
  by_cases hm : classOf groups c ∈ done
  · rw [if_pos hm, if_pos hm]
  · rw [if_neg hm, if_neg hm]
    cases hf : Group.find? groups c.position with
    | none =>
      have hs : classOf groups c = c.id := classOf_single hf
      have hn : (members groups cells).get? c.id = none := get?_members_id c.position
      rw [hs, hn]
      simp only [primaryNode?_id h hc, nodeOf, hf]
    | some p =>
      obtain ⟨grp, i⟩ := p
      have hs : classOf groups c = groupId i := classOf_grouped hf
      rw [hs, get?_members_of_mem hc hs, find?_groupId (Group.find?_eq_some_iff.1 hf).1]
      simp only [nodeOf, hf]

/-- The nodes from some cells on, when the nodes of some classes are there already. -/
theorem nodes_eq_ok (h : BuiltFrom r cells g) (groups : List Group) (color : Value)
    (done : List String) {cs : List Cell} (hcs : ∀ c ∈ cs, c ∈ cells) :
    ∃ ns, nodes g groups (members groups cells) (classes groups cells) color done cs = .ok ns ∧
      ns.map (·.id) = ((cs.map (classOf groups)).filter fun s => s ∉ done).eraseDups ∧
      ∀ n ∈ ns, ∃ c ∈ cs, n = nodeOf r g groups cells color c := by
  induction cs generalizing done with
  | nil => exact ⟨[], rfl, rfl, fun n hn => by cases hn⟩
  | cons c cs ih =>
    rw [nodes, nodeFor_eq_ok h color done (hcs c List.mem_cons_self), ok_bind, List.map_cons]
    by_cases hm : classOf groups c ∈ done
    · obtain ⟨ns, hns, hids, hof⟩ := ih done fun d hd => hcs d (List.mem_cons_of_mem c hd)
      refine ⟨ns, ?_, ?_, fun n hn => ?_⟩
      · rw [if_pos hm, show ((none : Option CellNode).map (·.id)).toList ++ done = done from rfl, hns]
        rfl
      · rw [hids, List.filter_cons_of_neg (by simpa using hm)]
      · obtain ⟨d, hd, hn⟩ := hof n hn
        exact ⟨d, List.mem_cons_of_mem c hd, hn⟩
    · obtain ⟨ns, hns, hids, hof⟩ := ih (classOf groups c :: done)
        fun d hd => hcs d (List.mem_cons_of_mem c hd)
      refine ⟨nodeOf r g groups cells color c :: ns, ?_, ?_, fun n hn => ?_⟩
      · rw [if_neg hm, Option.map_some, id_nodeOf, Option.toList_some, List.singleton_append, hns]
        rfl
      · rw [List.map_cons, id_nodeOf, hids, List.filter_cons_of_pos (by simpa using hm),
          List.eraseDups_cons, List.filter_filter]
        congr 2
        apply List.filter_congr
        intro s _
        by_cases hs : s = classOf groups c <;> simp [hs]
      · rcases List.mem_cons.1 hn with rfl | hn
        · exact ⟨c, List.mem_cons_self, rfl⟩
        · obtain ⟨d, hd, hn⟩ := hof n hn
          exact ⟨d, List.mem_cons_of_mem c hd, hn⟩

theorem classAt_id (hd : (cells.map Cell.id).Nodup) (hc : c ∈ cells) :
    classAt groups cells c.id = classOf groups c := by
  unfold classAt
  cases hf : cells.find? fun d => d.id == c.id with
  | none => simpa using List.find?_eq_none.1 hf c hc
  | some d =>
    have hi : d.id = c.id := by simpa using List.find?_some hf
    rw [List.inj_on_of_nodup_map hd (List.mem_of_find?_eq_some hf) hc hi]
    rfl

theorem ends_of_mem_links (h : BuiltFrom r cells g) {l : Link} (hl : l ∈ g.links) :
    ∃ a ∈ cells, ∃ b ∈ cells, l = ⟨a.id, b.id⟩ := by
  obtain ⟨j, i, a, b, -, ha, hb, he⟩ := h.links_forward hl
  exact ⟨a, List.mem_of_getElem? ha, b, List.mem_of_getElem? hb, he⟩

theorem project_eq_some (hd : (cells.map Cell.id).Nodup) {a b : Cell} (ha : a ∈ cells) (hb : b ∈ cells)
    {s t : String} : project groups cells ⟨a.id, b.id⟩ = some ⟨s, t⟩ ↔
      s ≠ t ∧ classOf groups a = s ∧ classOf groups b = t := by
  unfold project
  rw [classAt_id hd ha, classAt_id hd hb]
  by_cases he : classOf groups a = classOf groups b
  · rw [if_pos he]
    constructor
    · intro hn
      cases hn
    · intro hn
      obtain ⟨hst, rfl, rfl⟩ := hn
      exact absurd he hst
  · rw [if_neg he, Option.some.injEq, Link.mk.injEq]
    constructor
    · intro hn
      obtain ⟨rfl, rfl⟩ := hn
      exact ⟨he, rfl, rfl⟩
    · exact fun hn => hn.2

def addProjected (groups : List Group) (cells : List Cell) (t : Table Link NameSet)
    (e : Link × List String) : Table Link NameSet :=
  match project groups cells e.1 with
  | some l => Flow.credit t l e.2
  | none => t

theorem addLink_eq_ok (h : BuiltFrom r cells g) (t : Table Link NameSet) {e : Link × List String}
    (he : e ∈ g.carried.entries) :
    addLink (classes groups cells) t e = .ok (addProjected groups cells t e) := by
  obtain ⟨l, on⟩ := e
  obtain ⟨a, ha, b, hb, rfl⟩ := ends_of_mem_links h (List.mem_map_of_mem he)
  have hs : ∀ d ∈ cells, standIn (classes groups cells) ⟨a.id, b.id⟩ d.id = .ok (classOf groups d) := by
    intro d hd
    rw [standIn, get?_classes h.nodup_ids hd]
  rw [addLink, hs a ha, ok_bind, hs b hb, ok_bind, addProjected, project]
  simp only [classAt_id h.nodup_ids ha, classAt_id h.nodup_ids hb]
  by_cases hc : classOf groups a = classOf groups b
  · rw [if_pos hc, if_pos hc, pure_eq_ok]
  · rw [if_neg hc, if_neg hc, pure_eq_ok]

theorem foldl_addProjected (l : List (Link × List String)) (t : Table Link NameSet) :
    l.foldl (addProjected groups cells) t =
      (l.filterMap fun e => (project groups cells e.1).map fun k => (k, e.2)).foldl
        (fun t e => Flow.credit t e.1 e.2) t := by
  rw [List.foldl_filterMap]
  congr 1
  funext t e
  unfold addProjected
  cases project groups cells e.1 with
  | none => rfl
  | some k => rfl

def projected (groups : List Group) (cells : List Cell) (g : CellGraph) : Table Link NameSet :=
  g.carried.entries.foldl (addProjected groups cells) .empty

theorem keys_projected (g : CellGraph) :
    (projected groups cells g).keys = (g.links.filterMap (project groups cells)).eraseDups := by
  rw [projected, foldl_addProjected, Flow.keys_foldl_credit, List.map_filterMap, CellGraph.links,
    Table.keys, List.filterMap_map]
  congr 2
  funext e
  simp [Option.map_map, Function.comp_def]

theorem mem_projected (h : BuiltFrom r cells g) (l : Link) (name : String) :
    name ∈ ((projected groups cells g).get? l).getD .empty ↔
      ∃ k on, g.carried.get? k = some on ∧ name ∈ on ∧ project groups cells k = some l := by
  rw [projected, foldl_addProjected, Flow.mem_foldl_credit]
  simp only [List.mem_filterMap, Option.map_eq_some_iff, Table.get?_empty, Option.getD_none,
    NameSet.not_mem_empty, or_false, Table.get?_eq_some_iff h.nodup_links]
  constructor
  · intro hn
    obtain ⟨e, ⟨⟨k, on⟩, he, k', hk, rfl⟩, rfl, hn⟩ := hn
    exact ⟨k, on, he, hn, hk⟩
  · intro hn
    obtain ⟨k, on, he, hn, hk⟩ := hn
    exact ⟨(l, on), ⟨(k, on), he, l, hk, rfl⟩, rfl, hn⟩

theorem collapse_eq_ok (h : BuiltFrom r cells g) (groups : List Group) (color : Value) :
    ∃ q, g.collapse cells groups color = .ok q ∧
      q.nodes.map (·.id) = (cells.map (classOf groups)).eraseDups ∧
      (∀ n ∈ q.nodes, ∃ c ∈ cells, n = nodeOf r g groups cells color c) ∧
      q.carried = (projected groups cells g).mapValues NameSet.toList := by
  obtain ⟨ns, hns, hids, hof⟩ := nodes_eq_ok h groups color [] fun c (hc : c ∈ cells) => hc
  refine ⟨⟨ns, _, g.names, g.colors⟩, ?_, ?_, hof, rfl⟩
  · rw [CellGraph.collapse, hns, ok_bind,
      foldlM_eq_ok_foldl _ fun t e he => addLink_eq_ok h t he, ok_bind]
    rfl
  · rw [hids, List.filter_eq_self.2 (by simp)]

theorem of_collapse_eq_ok (h : BuiltFrom r cells g) {q : CellGraph} {color : Value}
    (hq : g.collapse cells groups color = .ok q) :
    q.nodes.map (·.id) = (cells.map (classOf groups)).eraseDups ∧
      (∀ n ∈ q.nodes, ∃ c ∈ cells, n = nodeOf r g groups cells color c) ∧
      q.carried = (projected groups cells g).mapValues NameSet.toList := by
  obtain ⟨q', hq', hall⟩ := collapse_eq_ok h groups color
  obtain rfl : q' = q := Except.ok.inj (hq'.symm.trans hq)
  exact hall

/-- A class has one node, whichever of its cells it is made for. -/
theorem nodeOf_eq_of_classOf_eq (h : BuiltFrom r cells g) (color : Value) {d : Cell} (hc : c ∈ cells)
    (hd : d ∈ cells) (hs : classOf groups c = classOf groups d) :
    nodeOf r g groups cells color c = nodeOf r g groups cells color d := by
  have hf := find?_eq_of_classOf_eq hs
  cases hg : Group.find? groups d.position with
  | none =>
    rw [hg] at hf
    rw [classOf_single hf, classOf_single hg] at hs
    rw [List.inj_on_of_nodup_map h.nodup_ids hc hd hs]
  | some p =>
    rw [hg] at hf
    rw [nodeOf, nodeOf, hf, hg]

theorem nodeOf_mem_nodes (h : BuiltFrom r cells g) {q : CellGraph} {color : Value}
    (hids : q.nodes.map (·.id) = (cells.map (classOf groups)).eraseDups)
    (hof : ∀ n ∈ q.nodes, ∃ c ∈ cells, n = nodeOf r g groups cells color c) (hc : c ∈ cells) :
    nodeOf r g groups cells color c ∈ q.nodes := by
  have hm : classOf groups c ∈ q.nodes.map (·.id) := by
    rw [hids, List.mem_eraseDups]
    exact List.mem_map_of_mem hc
  obtain ⟨n, hn, hi⟩ := List.mem_map.1 hm
  obtain ⟨d, hd, rfl⟩ := hof n hn
  rw [id_nodeOf] at hi
  rwa [nodeOf_eq_of_classOf_eq h color hc hd hi.symm]

theorem colors_of_collapse {q : CellGraph} {color : Value} (h : g.collapse cells groups color = .ok q) : q.colors = g.colors := by
  obtain ⟨ns, -, h⟩ := bind_eq_ok.1 h
  obtain ⟨carried, -, h⟩ := bind_eq_ok.1 h
  obtain rfl := Except.ok.inj h
  rfl

theorem isGroupNode_nodeOf (color : Value) {grp : Group} {i : Nat}
    (hf : Group.find? groups c.position = some (grp, i)) :
    IsGroupNode groups cells (nodeOf r g groups cells color c) := by
  rw [nodeOf, hf]
  refine ⟨⟨i, grp, (Group.find?_eq_some_iff.1 hf).1, rfl, rfl⟩, rfl, ?_, ?_⟩
  · simp [groupNode, Fields.getD, List.lookup_cons]
  · simp [groupNode, Fields.getD, List.lookup_cons]

theorem idsIn_id (h : BuiltFrom r cells g) (hc : c ∈ cells)
    (hf : Group.find? groups c.position = none) : idsIn groups cells c.id = [c.id] := by
  have hp : (cells.filter fun d => classOf groups d = c.id) =
      cells.filter ((· == c.id) ∘ Cell.id) := by
    apply List.filter_congr
    intro d _
    cases hd : Group.find? groups d.position with
    | none => simp [classOf_single hd, beq_eq_decide]
    | some p =>
      have hn : d.id ≠ c.id := by
        intro he
        rw [toString_int_injective he, hf] at hd
        cases hd
      have hg : classOf groups d ≠ c.id := by
        rw [classOf_grouped hd]
        exact groupId_ne_toString _ _
      simp [hn, hg]
  rw [idsIn, hp, ← List.filter_map, List.filter_beq,
    List.count_eq_one_of_mem h.nodup_ids (List.mem_map_of_mem hc)]
  rfl

theorem isSingleNode_nodeOf (h : BuiltFrom r cells g) (color : Value) (hc : c ∈ cells)
    (hf : Group.find? groups c.position = none) :
    IsSingleNode groups cells g (nodeOf r g groups cells color c) := by
  have hi : (nodeOf r g groups cells color c).id = c.id := by
    rw [id_nodeOf, classOf_single hf]
  refine ⟨?_, c, hc, Group.find?_eq_none_iff.1 hf, hi, ?_⟩
  · rw [nodeOf, hf, h.primary]
    exact List.mem_map_of_mem hc
  · rw [hi, idsIn_id h hc hf]

theorem existsUnique_node (hd : (cells.map Cell.id).Nodup) {ns : List CellNode}
    (hids : ns.map (·.id) = (cells.map (classOf groups)).eraseDups) (hc : c ∈ cells) :
    ∃! n, n ∈ ns ∧ c.id ∈ idsIn groups cells n.id := by
  have hm : classOf groups c ∈ ns.map (·.id) := by
    rw [hids, List.mem_eraseDups]
    exact List.mem_map_of_mem hc
  obtain ⟨n, hn, hi⟩ := List.mem_map.1 hm
  refine ⟨n, ⟨hn, (mem_idsIn hd hc).2 hi.symm⟩, fun m hm => ?_⟩
  have hnodup : (ns.map (·.id)).Nodup := by
    rw [hids]
    exact nodup_eraseDups _
  apply List.inj_on_of_nodup_map hnodup hm.1 hn
  rw [hi, (mem_idsIn hd hc).1 hm.2]

theorem mem_keys_projected (h : BuiltFrom r cells g) {s t : String} :
    (⟨s, t⟩ : Link) ∈ (projected groups cells g).keys ↔ s ≠ t ∧ ∃ a ∈ cells, ∃ b ∈ cells,
      (⟨a.id, b.id⟩ : Link) ∈ g.links ∧ classOf groups a = s ∧ classOf groups b = t := by
  rw [keys_projected, List.mem_eraseDups, List.mem_filterMap]
  constructor
  · intro hl
    obtain ⟨l, hl, hp⟩ := hl
    obtain ⟨a, ha, b, hb, rfl⟩ := ends_of_mem_links h hl
    obtain ⟨hst, has, hbt⟩ := (project_eq_some h.nodup_ids ha hb).1 hp
    exact ⟨hst, a, ha, b, hb, hl, has, hbt⟩
  · intro hl
    obtain ⟨hst, a, ha, b, hb, hl, has, hbt⟩ := hl
    exact ⟨_, hl, (project_eq_some h.nodup_ids ha hb).2 ⟨hst, has, hbt⟩⟩

theorem mem_names_projected (h : BuiltFrom r cells g) {s t : String} {ns : NameSet}
    (hn : (projected groups cells g).get? ⟨s, t⟩ = some ns) (name : String) :
    name ∈ ns ↔ ∃ a ∈ cells, ∃ b ∈ cells, ∃ on, g.carried.get? ⟨a.id, b.id⟩ = some on ∧ name ∈ on ∧
      classOf groups a = s ∧ classOf groups b = t := by
  have hst : s ≠ t := ((mem_keys_projected h).1 (Table.isSome_get?_iff.1 (by rw [hn]; rfl))).1
  have hm : name ∈ ((projected groups cells g).get? ⟨s, t⟩).getD .empty ↔ _ := mem_projected h _ _
  rw [hn, Option.getD_some] at hm
  rw [hm]
  constructor
  · intro hk
    obtain ⟨k, on, hk, ho, hp⟩ := hk
    have hl : k ∈ g.links := Table.isSome_get?_iff.1 (Option.isSome_iff_exists.2 ⟨on, hk⟩)
    obtain ⟨a, ha, b, hb, rfl⟩ := ends_of_mem_links h hl
    obtain ⟨-, has, hbt⟩ := (project_eq_some h.nodup_ids ha hb).1 hp
    exact ⟨a, ha, b, hb, on, hk, ho, has, hbt⟩
  · intro hk
    obtain ⟨a, ha, b, hb, on, hk, ho, has, hbt⟩ := hk
    exact ⟨_, on, hk, ho, (project_eq_some h.nodup_ids ha hb).2 ⟨hst, has, hbt⟩⟩

/-- Collapsing a graph that was built from cells gives its quotient by the classes of the groups. -/
theorem collapse_isQuotient (h : r.build cells = .ok g) (groups : List Group) (color : Value) :
    ∃ q, g.collapse cells groups color = .ok q ∧ IsQuotient groups cells g q := by
  have hb : BuiltFrom r cells g := BuildRules.builtFrom h
  obtain ⟨q, hq, hids, hof, hcarried⟩ := collapse_eq_ok hb groups color
  have hlinks : q.links = (projected groups cells g).keys := by
    rw [CellGraph.links, hcarried, Table.keys_mapValues]
  have hnames : ∀ l names, q.carried.get? l = some names →
      ∃ ns, (projected groups cells g).get? l = some ns ∧ ns.toList = names := by
    intro l names hn
    rwa [hcarried, Table.get?_mapValues, Option.map_eq_some_iff] at hn
  refine ⟨q, hq, ?_, ?_, hids, ?_, ?_, ?_, ?_, ?_, ?_, ?_⟩
  · intro c _ i grp hi hg hj
    exact classOf_grouped (Group.find?_eq_some_iff.2 ⟨hi, hg, hj⟩)
  · intro c _ hn
    exact classOf_single (Group.find?_eq_none_iff.2 hn)
  · intro n hn
    obtain ⟨c, hc, rfl⟩ := hof n hn
    cases hf : Group.find? groups c.position with
    | none => exact .inr (isSingleNode_nodeOf hb color hc hf)
    | some p => exact .inl (isGroupNode_nodeOf color hf)
  · intro c hc
    exact existsUnique_node hb.nodup_ids hids hc
  · intro s t
    rw [hlinks]
    exact mem_keys_projected hb
  · rw [hlinks, keys_projected]
    exact nodup_eraseDups _
  · rw [hlinks, keys_projected]
  · intro l names hn
    obtain ⟨ns, -, rfl⟩ := hnames l names hn
    exact ns.ascending
  · intro s t names hn name
    obtain ⟨ns, hg, rfl⟩ := hnames _ names hn
    exact mem_names_projected hb hg name

/-- Three cells out of numeric order, under two overlapping groups and an empty one. -/
theorem collapse_isQuotient_overlapping :
    let rules : BuildRules := { names := ⟨true, Names.reserved⟩ }
    let cells : List Cell := [{ position := 5, source := .text "x = 1\ny = 2" },
      { position := 2, source := .text "z = x" }, { position := 9, source := .text "w = y + z" }]
    let groups : List Group := [⟨"none", 20, 30, by decide⟩, ⟨"early", 1, 5, by decide⟩,
      ⟨"late", 3, 8, by decide⟩]
    ∃ g, rules.build cells = .ok g ∧
      ∃ q, g.collapse cells groups .null = .ok q ∧ IsQuotient groups cells g q := by
  intro rules cells groups
  have hb : (rules.build cells).isOk = true := by decide +kernel
  cases h : rules.build cells with
  | error e => rw [h] at hb; cases hb
  | ok g => exact ⟨g, rfl, collapse_isQuotient h groups .null⟩

end CellFlow.Collapse
