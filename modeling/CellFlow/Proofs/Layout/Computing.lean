import CellFlow.Layout.Rank
import CellFlow.Proofs.Data.Outcome
import CellFlow.Proofs.Layout.Ranking
import CellFlow.Proofs.Layout.Stacking

/-!
A layout of nodes whose sizes, gaps and margins can be read gives every node a centre: that of
its number in the layers.
-/

set_option autoImplicit false

namespace CellFlow

/-- Nodes that bring no extent of their own take up that of a cell. -/
theorem LayoutSettings.footprint_of_ne_group {α : Type} [Coordinate α] {s : LayoutSettings} {cell : Size α}
    (hw : Coordinate.read s.nodeWidth = .ok cell.width) (hh : Coordinate.read s.nodeHeight = .ok cell.height)
    {kind : NodeKind} (hk : kind ≠ .group) (data : Fields) : s.footprint kind data = .ok cell := by
  have hcell : (do
      let width ← Coordinate.read s.nodeWidth
      let height ← Coordinate.read s.nodeHeight
      return ⟨width, height⟩ : Except Fault (Size α)) = .ok cell := by
    rw [hw, ok_bind, hh]
    rfl
  cases kind with
  | primary => exact hcell
  | secondary => exact hcell
  | group => exact absurd rfl hk

namespace RankLayout

variable {ι α : Type}

/-- The layers of different vertices split them by their ranks, after any number of sweeps. -/
theorem isLayering_layers [DecidableEq ι] {order : List ι} (hn : order.Nodup) (arcs : List (ι × ι))
    (sweeps : Nat) : (Digraph.ofLists order arcs).unwound.IsLayering (layers order arcs sweeps) := by
  have hg := Digraph.isLayering_generations_unwound (Digraph.isSimple_ofLists order arcs)
  refine (hg.layersOf hn fun v hm => ?_).sweeps sweeps
  rwa [Digraph.vertices_unwound, Digraph.mem_vertices_ofLists] at hm

theorem mem_layers [DecidableEq ι] {order : List ι} (hn : order.Nodup) (arcs : List (ι × ι))
    (sweeps : Nat) (v : ι) : v ∈ (layers order arcs sweeps).flatten ↔ v ∈ order := by
  rw [(isLayering_layers hn arcs sweeps).mem v, Digraph.vertices_unwound, Digraph.mem_vertices_ofLists]

variable [BEq ι] [LawfulBEq ι]

theorem numberOf_of_getElem? {ids : List ι} (hn : ids.Nodup) {number : Nat} {id : ι}
    (h : ids[number]? = some id) : numberOf ids id = number := by
  obtain ⟨hlt, rfl⟩ := List.getElem?_eq_some_iff.1 h
  exact hn.idxOf_getElem number hlt

theorem map_numberOf {ids : List ι} (hn : ids.Nodup) :
    ids.map (numberOf ids) = List.range ids.length := by
  refine List.ext_getElem? fun number => ?_
  rw [List.getElem?_map]
  cases h : ids[number]? with
  | none =>
    have hle := List.getElem?_eq_none_iff.1 h
    rw [List.getElem?_eq_none (by simpa using hle)]
    rfl
  | some id =>
    have hlt := (List.getElem?_eq_some_iff.1 h).1
    rw [List.getElem?_range hlt, Option.map_some, numberOf_of_getElem? hn h]

theorem nodup_map_numberOf {ids : List ι} (hn : ids.Nodup) : (ids.map (numberOf ids)).Nodup := by
  rw [map_numberOf hn]
  exact List.nodup_range

omit [LawfulBEq ι] in
/-- What has been placed by number is put down under the ids of the numbers. -/
theorem byId_eq (ids : List ι) (placed : List (Nat × Point α)) :
    byId ids placed = (placed.filterMap fun p => ids[p.1]?.map fun id => (id, p.2)).foldl
      (fun t p => t.put p.1 p.2) .empty := by
  rw [List.foldl_filterMap, byId]
  congr 1
  funext t p
  cases ids[p.1]? with
  | none => rfl
  | some id => rfl

omit [BEq ι] [LawfulBEq ι] in
theorem map_fst_named (ids : List ι) (placed : List (Nat × Point α)) :
    (placed.filterMap fun p => ids[p.1]?.map fun id => (id, p.2)).map (·.1) =
      (placed.map (·.1)).filterMap fun number => ids[number]? := by
  rw [List.map_filterMap, List.filterMap_map]
  simp [Option.map_map, Function.comp_def]

theorem nodup_named {ids : List ι} (hn : ids.Nodup) {placed : List (Nat × Point α)}
    (hp : (placed.map (·.1)).Nodup) :
    ((placed.filterMap fun p => ids[p.1]?.map fun id => (id, p.2)).map (·.1)).Nodup := by
  rw [map_fst_named]
  refine hp.filterMap fun i j id hi hj => ?_
  rw [← numberOf_of_getElem? hn hi, numberOf_of_getElem? hn hj]

theorem get?_byId {ids : List ι} (hn : ids.Nodup) {placed : List (Nat × Point α)}
    (hp : (placed.map (·.1)).Nodup) {e : Nat × Point α} (he : e ∈ placed) {id : ι}
    (hi : ids[e.1]? = some id) : (byId ids placed).get? id = some e.2 := by
  have hm : (id, e.2) ∈ placed.filterMap fun p => ids[p.1]?.map fun id => (id, p.2) :=
    List.mem_filterMap.2 ⟨e, he, by rw [hi]; rfl⟩
  rw [byId_eq]
  exact Table.get?_foldl_put _ _ (nodup_named hn hp) hm

variable [Coordinate α] {s : LayoutSettings}

def sizeOf (s : LayoutSettings) (n : Node ι) : Size α :=
  match s.footprint n.kind n.data with
  | .ok z => z
  | .error _ => ⟨0, 0⟩

omit [BEq ι] [LawfulBEq ι] in
theorem sizeOf_eq {n : Node ι} {z : Size α} (h : s.footprint n.kind n.data = .ok z) :
    sizeOf s n = z := by
  rw [sizeOf, h]

omit [LawfulBEq ι] in
theorem sizes_eq_ok {nodes : List (Node ι)} (t : Table ι (Size α))
    (hz : ∀ n ∈ nodes, ∃ z : Size α, s.footprint n.kind n.data = .ok z) :
    sizes s t nodes = .ok (nodes.foldl (fun t n => t.put n.id (sizeOf s n)) t) := by
  induction nodes generalizing t with
  | nil => rfl
  | cons n nodes ih =>
    obtain ⟨z, hn⟩ := hz n List.mem_cons_self
    rw [sizes, hn, ok_bind, ih _ fun m hm => hz m (List.mem_cons_of_mem n hm), List.foldl_cons,
      sizeOf_eq hn]

def sizeByNumber (s : LayoutSettings) (nodes : List (Node ι)) : Nat → Size α :=
  sizeAt (nodes.map (·.id)) (nodes.foldl (fun t n => t.put n.id (sizeOf s n)) .empty)

theorem sizeByNumber_eq {nodes : List (Node ι)} (hn : (nodes.map (·.id)).Nodup) {n : Node ι}
    {number : Nat} (h : nodes[number]? = some n) :
    sizeByNumber s nodes number = (sizeOf s n : Size α) := by
  have hg : Table.get? (nodes.foldl (fun t n => t.put n.id (sizeOf s n)) .empty) n.id =
      some (sizeOf s n : Size α) :=
    Table.get?_foldl_put (sizeOf s) .empty hn (List.mem_of_getElem? h)
  rw [sizeByNumber, sizeAt, List.getElem?_map, h]
  exact congrArg (fun z => Option.getD z ⟨0, 0⟩) hg

theorem exists_sizeByNumber_eq {nodes : List (Node ι)} (hn : (nodes.map (·.id)).Nodup)
    {arcs : List (Nat × Nat)} {sweeps v : Nat}
    (hv : v ∈ (layers ((nodes.map (·.id)).map (numberOf (nodes.map (·.id)))) arcs sweeps).flatten) :
    ∃ n ∈ nodes, sizeByNumber s nodes v = (sizeOf s n : Size α) := by
  rw [mem_layers (nodup_map_numberOf hn), map_numberOf hn, List.mem_range, List.length_map] at hv
  have hi : nodes[v]? = some nodes[v] := List.getElem?_eq_getElem hv
  exact ⟨_, List.mem_of_getElem? hi, sizeByNumber_eq hn hi⟩

def arranged (s : LayoutSettings) (d : Direction) (gaps : Spacing α) (sweeps : Int)
    (nodes : List (Node ι)) (arcs : List (ι × ι)) : List (Nat × Point α) :=
  arrange d gaps (sizeByNumber s nodes) sweeps.toNat
    ((nodes.map (·.id)).map (numberOf (nodes.map (·.id)))) (numberArcs (nodes.map (·.id)) arcs)

theorem map_fst_arranged {nodes : List (Node ι)} (hn : (nodes.map (·.id)).Nodup) (d : Direction)
    (gaps : Spacing α) (sweeps : Int) (arcs : List (ι × ι)) :
    (arranged s d gaps sweeps nodes arcs).map (·.1) =
      (layers ((nodes.map (·.id)).map (numberOf (nodes.map (·.id))))
        (numberArcs (nodes.map (·.id)) arcs) sweeps.toNat).flatten :=
  Stack.map_fst_place (isLayering_layers (nodup_map_numberOf hn) _ _).ne_nil

theorem mem_map_fst_arranged {nodes : List (Node ι)} (hn : (nodes.map (·.id)).Nodup) (d : Direction)
    (gaps : Spacing α) (sweeps : Int) (arcs : List (ι × ι)) (number : Nat) :
    number ∈ (arranged s d gaps sweeps nodes arcs).map (·.1) ↔ number < (nodes.map (·.id)).length := by
  rw [map_fst_arranged hn, mem_layers (nodup_map_numberOf hn), map_numberOf hn, List.mem_range]

theorem nodup_map_fst_arranged {nodes : List (Node ι)} (hn : (nodes.map (·.id)).Nodup) (d : Direction)
    (gaps : Spacing α) (sweeps : Int) (arcs : List (ι × ι)) :
    ((arranged s d gaps sweeps nodes arcs).map (·.1)).Nodup := by
  rw [map_fst_arranged hn]
  exact (isLayering_layers (nodup_map_numberOf hn) _ _).nodup

theorem exists_mem_arranged {nodes : List (Node ι)} (hn : (nodes.map (·.id)).Nodup) {n : Node ι}
    {number : Nat} (h : nodes[number]? = some n) (d : Direction) (gaps : Spacing α) (sweeps : Int)
    (arcs : List (ι × ι)) : ∃ p, (number, p) ∈ arranged s d gaps sweeps nodes arcs ∧
      (byId (nodes.map (·.id)) (arranged s d gaps sweeps nodes arcs)).get? n.id = some p := by
  have hi : (nodes.map (·.id))[number]? = some n.id := by
    rw [List.getElem?_map, h]
    rfl
  have hv := (mem_map_fst_arranged (s := s) hn d gaps sweeps arcs number).2
    (List.getElem?_eq_some_iff.1 hi).1
  obtain ⟨⟨k, p⟩, he, rfl⟩ := List.mem_map.1 hv
  exact ⟨p, he, get?_byId hn (nodup_map_fst_arranged hn d gaps sweeps arcs) he hi⟩

variable [NodeId ι]

omit [LawfulBEq ι] in
/-- What a layout computes when everything that it reads can be read. -/
theorem compute_eq_ok {nodes : List (Node ι)} (arcs : List (ι × ι)) {sweeps : Int} {d : Direction}
    {gaps : Spacing α} (hne : nodes ≠ [])
    (hz : ∀ n ∈ nodes, ∃ z : Size α, s.footprint n.kind n.data = .ok z)
    (hid : ∀ n ∈ nodes, (NodeId.toKey n.id == Key.null) = false) (hk : s.crossingSweeps.toIndex = .ok sweeps)
    (hd : s.direction = .ok d) (hg : s.spacing d = .ok gaps) :
    compute s nodes arcs =
      .ok (byId (nodes.map (·.id)) (arranged s d gaps sweeps nodes arcs)) := by
  have he : nodes.isEmpty = false := by simpa using hne
  have hn : (nodes.any fun n => NodeId.toKey n.id == Key.null) = false := by
    simpa using hid
  unfold compute
  simp only [he, sizes_eq_ok _ hz, hn, hk, hd, hg, Bool.false_eq_true, if_false, liftM_ok, ok_bind,
    pure_eq_ok]
  rfl

omit [LawfulBEq ι] [NodeId ι] in
theorem exists_footprint_of_sizes {nodes : List (Node ι)} {t t' : Table ι (Size α)}
    (h : sizes s t nodes = .ok t') : ∀ n ∈ nodes, ∃ z : Size α, s.footprint n.kind n.data = .ok z := by
  induction nodes generalizing t with
  | nil =>
    intro n hn
    cases hn
  | cons m nodes ih =>
    obtain ⟨z, hz, h⟩ := bind_eq_ok.1 h
    intro n hn
    rcases List.mem_cons.1 hn with rfl | hn
    · exact ⟨z, hz⟩
    · exact ih h n hn

/-- A layout that comes to a table has a centre for every node. -/
theorem isSome_get?_of_compute {nodes : List (Node ι)} {arcs : List (ι × ι)} {t : Table ι (Point α)}
    (hn : (nodes.map (·.id)).Nodup) (h : compute s nodes arcs = .ok t) :
    ∀ n ∈ nodes, (t.get? n.id).isSome := by
  intro n hm
  have he : nodes.isEmpty = false := by
    rw [List.isEmpty_eq_false_iff]
    exact List.ne_nil_of_mem hm
  unfold compute at h
  simp only [he, Bool.false_eq_true, if_false] at h
  obtain ⟨zs, hz, h⟩ := bind_eq_ok.1 h
  have hread := exists_footprint_of_sizes (liftM_eq_ok.1 hz)
  obtain rfl := Except.ok.inj ((sizes_eq_ok .empty hread).symm.trans (liftM_eq_ok.1 hz))
  split at h
  · cases h
  · obtain ⟨sweeps, -, h⟩ := bind_eq_ok.1 h
    obtain ⟨d, -, h⟩ := bind_eq_ok.1 h
    obtain ⟨gaps, -, h⟩ := bind_eq_ok.1 h
    obtain rfl := Except.ok.inj h
    obtain ⟨i, hi⟩ := List.getElem?_of_mem hm
    obtain ⟨p, -, ht⟩ := exists_mem_arranged (s := s) hn hi d gaps sweeps arcs
    exact Option.isSome_iff_exists.2 ⟨p, ht⟩

/-- Nodes that a layout does not tell apart: they have the same id and the same footprint. -/
def Alike (α : Type) [Coordinate α] (s : LayoutSettings) (n m : Node ι) : Prop :=
  n.id = m.id ∧ (s.footprint n.kind n.data : Except Fault (Size α)) = s.footprint m.kind m.data

omit [BEq ι] [LawfulBEq ι] [NodeId ι] in
theorem Alike.map_id {nodes nodes' : List (Node ι)} (h : List.Forall₂ (Alike α s) nodes nodes') :
    nodes.map (·.id) = nodes'.map (·.id) := by
  induction h with
  | nil => rfl
  | cons hn _ ih => rw [List.map_cons, List.map_cons, hn.1, ih]

omit [LawfulBEq ι] [NodeId ι] in
theorem Alike.sizes {nodes nodes' : List (Node ι)} (h : List.Forall₂ (Alike α s) nodes nodes')
    (t : Table ι (Size α)) : sizes s t nodes = sizes s t nodes' := by
  induction h generalizing t with
  | nil => rfl
  | cons hn _ ih =>
    rw [RankLayout.sizes, RankLayout.sizes, hn.1, hn.2]
    exact bind_congr fun z => ih _

omit [LawfulBEq ι] in
theorem Alike.compute {nodes nodes' : List (Node ι)} (h : List.Forall₂ (Alike α s) nodes nodes')
    (arcs : List (ι × ι)) : (compute s nodes arcs : Outcome (Table ι (Point α))) = compute s nodes' arcs := by
  have hids : nodes.map (·.id) = nodes'.map (·.id) := Alike.map_id h
  have hempty : nodes.isEmpty = nodes'.isEmpty := by
    rw [← List.isEmpty_map (f := (·.id)), hids, List.isEmpty_map]
  have hnull : (nodes.any fun n => NodeId.toKey n.id == Key.null) =
      nodes'.any fun n => NodeId.toKey n.id == Key.null := by
    have hany : ∀ l : List (Node ι), (l.any fun n => NodeId.toKey n.id == Key.null) =
        (l.map (·.id)).any fun id => NodeId.toKey id == Key.null := fun l => by
      rw [List.any_map]
      rfl
    rw [hany, hany, hids]
  unfold RankLayout.compute
  simp only [hids, hempty, hnull, Alike.sizes h]

end RankLayout

end CellFlow
