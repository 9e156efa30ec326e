import CellFlow.Proofs.Layout.Cycles
import CellFlow.Proofs.Layout.LongestPaths

/-!
A layout without cycles depends on which edges there are, and not on the order in which they are
listed or on how often. Ranks ask which predecessors there are, and means how many and where; only
the search for cycles follows the arcs in their order, and without cycles it changes nothing.
-/

set_option autoImplicit false

namespace CellFlow

namespace Digraph

variable {ι : Type} [DecidableEq ι] {g h : Digraph ι}

/-- The same vertices in the same order, with the same arcs in any order. -/
structure SameArcs (g h : Digraph ι) : Prop where
  vertices : g.vertices = h.vertices
  arcs : g.arcs.Perm h.arcs

namespace SameArcs

theorem predecessors (hs : SameArcs g h) (v : ι) : (g.predecessors v).Perm (h.predecessors v) :=
  hs.arcs.filterMap _

theorem successors (hs : SameArcs g h) (v : ι) : (g.successors v).Perm (h.successors v) :=
  hs.arcs.filterMap _

theorem isFree (hs : SameArcs g h) (rest : List ι) : g.isFree rest = h.isFree rest := by
  funext v
  exact (hs.predecessors v).all_eq

theorem peel (hs : SameArcs g h) (fuel : ℕ) (rest : List ι) : g.peel fuel rest = h.peel fuel rest := by
  induction fuel generalizing rest with
  | zero => rfl
  | succ fuel ih => rw [Digraph.peel, Digraph.peel, hs.isFree, ih]

theorem layersOf (hs : SameArcs g h) (order : List ι) : g.layersOf order = h.layersOf order := by
  rw [Digraph.layersOf, Digraph.layersOf, generations, generations, hs.vertices, hs.peel]

end SameArcs

theorem barycenter_of_perm {ns ms : List ι} (hp : ns.Perm ms) (layers : List (List ι)) (current : ℕ) :
    barycenter layers ns current = barycenter layers ms current := by
  have hsum : (ns.foldr (fun v n => slot layers v + n) 0) = ms.foldr (fun v n => slot layers v + n) 0 :=
    hp.foldr_eq' (fun u _ v _ n => Nat.add_left_comm (slot layers v) (slot layers u) n) 0
  rw [barycenter, barycenter, hp.isEmpty_eq, hp.length_eq, hsum]

theorem reorder_of_perm {near near' : ι → List ι} (hp : ∀ v, (near v).Perm (near' v)) :
    reorder near = reorder near' := by
  funext layers layer
  simp only [reorder, barycenter_of_perm (hp _)]

theorem SameArcs.sweep (hs : SameArcs g h) : g.sweep = h.sweep := by
  have hnear : ∀ downward : Bool, reorder (if downward then g.predecessors else g.successors) =
      reorder (if downward then h.predecessors else h.successors) := by
    intro downward
    cases downward with
    | true => exact reorder_of_perm hs.predecessors
    | false => exact reorder_of_perm hs.successors
  funext layers index
  have hat := hnear (index % 2 == 0)
  simp only [Digraph.sweep]
  congr 1
  funext layers rank
  rw [reorderAt, reorderAt, hat]

theorem SameArcs.sweeps (hs : SameArcs g h) (count : ℕ) (layers : List (List ι)) :
    g.sweeps count layers = h.sweeps count layers := by
  rw [Digraph.sweeps, Digraph.sweeps, hs.sweep]

theorem sameArcs_ofLists {order : List ι} {arcs arcs' : List (ι × ι)}
    (ha : ∀ a, a ∈ (ofLists order arcs).arcs ↔ a ∈ (ofLists order arcs').arcs) :
    SameArcs (ofLists order arcs) (ofLists order arcs') :=
  ⟨rfl, (List.perm_ext_iff_of_nodup (isSimple_ofLists order arcs).nodup_arcs
    (isSimple_ofLists order arcs').nodup_arcs).2 ha⟩

omit [DecidableEq ι] in
theorem SameArcs.isAcyclic (hs : SameArcs g h) (hg : g.IsAcyclic) : h.IsAcyclic := by
  have harc : h.Arc = g.Arc := by
    funext u v
    exact propext hs.arcs.mem_iff.symm
  rw [IsAcyclic, harc]
  exact hg

end Digraph

namespace RankLayout

variable {ι : Type}

/-- Two different nodes of the list with an edge from one to the other. -/
def Joins (ids : List ι) (arcs : List (ι × ι)) (u v : ι) : Prop :=
  (u, v) ∈ arcs ∧ u ≠ v ∧ u ∈ ids ∧ v ∈ ids

theorem joins_iff [DecidableEq ι] {ids : List ι} {arcs : List (ι × ι)} {u v : ι} :
    Joins ids arcs u v ↔ (Digraph.ofLists ids arcs).Arc u v :=
  Digraph.mem_arcs_ofLists.symm

/-- Without cycles, the layers are those of any other list of the same arcs. -/
theorem layers_of_sameArcs [DecidableEq ι] {order : List ι} {arcs arcs' : List (ι × ι)}
    (hg : (Digraph.ofLists order arcs).IsAcyclic)
    (hs : Digraph.SameArcs (Digraph.ofLists order arcs) (Digraph.ofLists order arcs')) :
    layers order arcs = layers order arcs' := by
  funext sweeps
  simp only [layers]
  rw [hg.unwound_eq, (hs.isAcyclic hg).unwound_eq, hs.layersOf, hs.sweeps]

variable [BEq ι] [LawfulBEq ι] {ids : List ι} {arcs arcs' : List (ι × ι)}

/-- The arcs between the numbers of the nodes are the edges between the nodes. -/
theorem arc_numbers_iff (hn : ids.Nodup) {i j : ℕ} :
    (Digraph.ofLists (ids.map (numberOf ids)) (numberArcs ids arcs)).Arc i j ↔
      ∃ u v, ids[i]? = some u ∧ ids[j]? = some v ∧ Joins ids arcs u v := by
  have hnumber : ∀ {id k}, k < ids.length → (numberOf ids id = k ↔ ids[k]? = some id) := by
    intro id k hk
    constructor
    · rintro rfl
      rw [List.getElem?_eq_getElem hk]
      exact congrArg some (beq_iff_eq.1 (List.findIdx_getElem (w := hk)))
    · exact numberOf_of_getElem? hn
  rw [Digraph.Arc, Digraph.mem_arcs_ofLists, map_numberOf hn, List.mem_range, List.mem_range, numberArcs,
    List.mem_filter, List.mem_map]
  constructor
  · rintro ⟨⟨⟨⟨u, v⟩, ha, he⟩, -⟩, hne, hi, hj⟩
    obtain ⟨hu, hv⟩ := Prod.mk.inj he
    have hu := (hnumber hi).1 hu
    have hv := (hnumber hj).1 hv
    refine ⟨u, v, hu, hv, ha, ?_, List.mem_of_getElem? hu, List.mem_of_getElem? hv⟩
    rintro rfl
    exact hne ((numberOf_of_getElem? hn hu).symm.trans (numberOf_of_getElem? hn hv))
  · rintro ⟨u, v, hu, hv, ha, hne, -, -⟩
    have hi := (List.getElem?_eq_some_iff.1 hu).1
    have hj := (List.getElem?_eq_some_iff.1 hv).1
    refine ⟨⟨⟨(u, v), ha, ?_⟩, by simp [hi, hj]⟩, ?_, hi, hj⟩
    · rw [numberOf_of_getElem? hn hu, numberOf_of_getElem? hn hv]
    · intro hij
      obtain rfl : i = j := hij
      exact hne (Option.some.inj (hu.symm.trans hv))

theorem isAcyclic_numbers (hn : ids.Nodup) (h : ∀ v, ¬ Relation.TransGen (Joins ids arcs) v v) :
    (Digraph.ofLists (ids.map (numberOf ids)) (numberArcs ids arcs)).IsAcyclic := by
  -- a way between numbers is a way between the nodes that have them
  have hway : ∀ {i j}, Relation.TransGen
      (Digraph.ofLists (ids.map (numberOf ids)) (numberArcs ids arcs)).Arc i j →
      ∃ u v, ids[i]? = some u ∧ ids[j]? = some v ∧ Relation.TransGen (Joins ids arcs) u v := by
    intro i j hp
    induction hp with
    | single ha =>
      obtain ⟨u, v, hu, hv, hj⟩ := (arc_numbers_iff hn).1 ha
      exact ⟨u, v, hu, hv, .single hj⟩
    | tail _ ha ih =>
      obtain ⟨u, v, hu, hv, hp⟩ := ih
      obtain ⟨v', w, hv', hw, hj⟩ := (arc_numbers_iff hn).1 ha
      obtain rfl := Option.some.inj (hv.symm.trans hv')
      exact ⟨u, w, hu, hw, hp.tail hj⟩
  intro i hi
  obtain ⟨u, v, hu, hv, hp⟩ := hway hi
  obtain rfl := Option.some.inj (hu.symm.trans hv)
  exact h u hp

theorem sameArcs_numbers (hn : ids.Nodup) (h : ∀ u v, Joins ids arcs u v ↔ Joins ids arcs' u v) :
    Digraph.SameArcs (Digraph.ofLists (ids.map (numberOf ids)) (numberArcs ids arcs))
      (Digraph.ofLists (ids.map (numberOf ids)) (numberArcs ids arcs')) := by
  refine Digraph.sameArcs_ofLists fun a => (arc_numbers_iff hn).trans (Iff.trans ?_ (arc_numbers_iff hn).symm)
  simp only [h]

variable {α : Type} [Coordinate α] [NodeId ι]

theorem compute_of_same_joins (s : LayoutSettings) {nodes : List (Node ι)} (hn : (nodes.map (·.id)).Nodup)
    (hsame : ∀ u v, Joins (nodes.map (·.id)) arcs u v ↔ Joins (nodes.map (·.id)) arcs' u v)
    (hac : ∀ v, ¬ Relation.TransGen (Joins (nodes.map (·.id)) arcs) v v) :
    (compute s nodes arcs : Outcome (Table ι (Point α))) = compute s nodes arcs' := by
  have hl := layers_of_sameArcs (isAcyclic_numbers hn hac) (sameArcs_numbers hn hsame)
  simp only [compute, arrange, hl]

/-- Two lists with the same edges between different nodes, and no cycle among them, give the same
layout, in whatever order they list the edges and however often; and they give one whenever sizes,
gaps and sweeps can be read. -/
theorem compute_ignores_arcOrder {α : Type} [Coordinate α] (s : LayoutSettings) {nodes : List CellNode}
    {arcs arcs' : List (String × String)} (hn : (nodes.map (·.id)).Nodup)
    (hsame : ∀ u v, Joins (nodes.map (·.id)) arcs u v ↔ Joins (nodes.map (·.id)) arcs' u v)
    (hac : ∀ v, ¬ Relation.TransGen (Joins (nodes.map (·.id)) arcs) v v) :
    (compute s nodes arcs : Outcome (Table String (Point α))) = compute s nodes arcs' ∧
    ∀ (sweeps : ℤ) (d : Direction) (gaps : Spacing α),
      (∀ n ∈ nodes, ∃ z : Size α, s.footprint n.kind n.data = .ok z) →
      s.crossingSweeps.toIndex = .ok sweeps → s.direction = .ok d → s.spacing d = .ok gaps →
      ∃ t : Table String (Point α), compute s nodes arcs = .ok t ∧ compute s nodes arcs' = .ok t ∧
        t.keys.Perm (nodes.map (·.id)) := by
  have he : (compute s nodes arcs : Outcome (Table String (Point α))) = compute s nodes arcs' :=
    compute_of_same_joins s hn hsame hac
  refine ⟨he, fun sweeps d gaps hz hk hd hg => ?_⟩
  obtain ⟨t, ht, hkeys⟩ := exists_compute_keys_perm arcs hn hz hk hd hg
  exact ⟨t, ht, he ▸ ht, hkeys⟩

/-- Two ways from the first node to the last and a shortcut, listed once in order and once backwards,
doubled, with a loop and with an edge to a node that is not there. -/
theorem compute_ignores_arcOrder_backwards :
    let nodes : List CellNode := ["a", "b", "c", "d"].map fun id => { id, label := .null }
    let arcs := [("a", "b"), ("a", "c"), ("b", "d"), ("c", "d"), ("a", "d")]
    let arcs' := [("d", "d"), ("a", "d"), ("c", "d"), ("b", "d"), ("a", "e"), ("a", "c"), ("c", "d"),
      ("a", "b")]
    (nodes.map (·.id)).Nodup ∧
    (∀ u v, Joins (nodes.map (·.id)) arcs u v ↔ Joins (nodes.map (·.id)) arcs' u v) ∧
    (∀ v, ¬ Relation.TransGen (Joins (nodes.map (·.id)) arcs) v v) ∧
    ∃ t : Table String (Point ℚ), compute {} nodes arcs = .ok t ∧ compute {} nodes arcs' = .ok t ∧
      t.keys.Perm ["a", "b", "c", "d"] := by
  intro nodes arcs arcs'
  have hn : (nodes.map (·.id)).Nodup := by decide
  have hp : ((Digraph.ofLists (nodes.map (·.id)) arcs).arcs).Perm
      (Digraph.ofLists (nodes.map (·.id)) arcs').arcs := by decide
  have hsame : ∀ u v, Joins (nodes.map (·.id)) arcs u v ↔ Joins (nodes.map (·.id)) arcs' u v :=
    fun u v => joins_iff.trans (hp.mem_iff.trans joins_iff.symm)
  have hlt : ∀ a ∈ (Digraph.ofLists (nodes.map (·.id)) arcs).arcs,
      ["a", "b", "c", "d"].idxOf a.1 < ["a", "b", "c", "d"].idxOf a.2 := by decide
  have hac : ∀ v, ¬ Relation.TransGen (Joins (nodes.map (·.id)) arcs) v v := by
    have he : Joins (nodes.map (·.id)) arcs = (Digraph.ofLists (nodes.map (·.id)) arcs).Arc := by
      funext u v
      exact propext joins_iff
    rw [he]
    exact Digraph.isAcyclic_of_lt (["a", "b", "c", "d"].idxOf ·) hlt
  have hz : ∀ n ∈ nodes, ∃ z : Size ℚ, LayoutSettings.footprint {} n.kind n.data = .ok z := by
    intro n hm
    obtain ⟨id, -, rfl⟩ := List.mem_map.1 hm
    exact ⟨⟨100, 40⟩, rfl⟩
  exact ⟨hn, hsame, hac, (compute_ignores_arcOrder {} hn hsame hac).2 4 .topToBottom ⟨20, 20, 50, 50⟩ hz
    rfl rfl rfl⟩

/-- Where there is a cycle, the order of the edges decides which of them is turned round. -/
example : layers ["a", "b", "c"] [("a", "b"), ("a", "c"), ("b", "c"), ("c", "b")] 0 ≠
    layers ["a", "b", "c"] [("a", "c"), ("a", "b"), ("b", "c"), ("c", "b")] 0 := by decide

end RankLayout

end CellFlow
