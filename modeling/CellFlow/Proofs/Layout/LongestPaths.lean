import CellFlow.Proofs.Layout.Breaking
import CellFlow.Proofs.Layout.Computing
import Mathlib.Data.List.Chain
import Mathlib.Order.Bounds.Basic

/-!
Ranks are the lengths of longest paths in the graph without its cycles. They leave no gaps, and at
every point of the sweeps each layer holds the vertices of its rank, so that nothing a sweep or a
stack looks for is missing, and a layout has one point for each node.
-/

set_option autoImplicit false

namespace CellFlow

namespace Digraph

variable {ι : Type} {g : Digraph ι}

/-- Vertices along arcs, ending at a given one. -/
structure IsPathTo (g : Digraph ι) (v : ι) (path : List ι) : Prop where
  arcs : path.IsChain g.Arc
  last : path.getLast? = some v

theorem isPathTo_singleton (v : ι) : g.IsPathTo v [v] := ⟨List.isChain_singleton v, rfl⟩

theorem IsPathTo.concat {u v : ι} {path : List ι} (h : g.IsPathTo u path) (ha : g.Arc u v) :
    g.IsPathTo v (path ++ [v]) := by
  refine ⟨List.isChain_append.2 ⟨h.arcs, List.isChain_singleton v, fun x hx y hy => ?_⟩, by simp⟩
  obtain rfl := Option.some.inj (h.last.symm.trans hx)
  obtain rfl := Option.some.inj hy
  exact ha

/-- A measure that goes up along all arcs bounds the lengths of paths. -/
theorem IsPathTo.length_le {measure : ι → ℕ} (hm : ∀ a ∈ g.arcs, measure a.1 < measure a.2) {v : ι}
    {path : List ι} (h : g.IsPathTo v path) : path.length ≤ measure v + 1 := by
  induction path using List.reverseRecOn generalizing v with
  | nil => exact Nat.zero_le _
  | append_singleton path w ih =>
    obtain rfl : w = v := by simpa using h.last
    obtain ⟨hpath, -, hlast⟩ := List.isChain_append.1 h.arcs
    cases hl : path.getLast? with
    | none =>
      rw [List.getLast?_eq_none_iff.1 hl]
      simp
    | some u =>
      have hlt : measure u < measure w := hm (u, w) (hlast u hl w rfl)
      have hle := ih ⟨hpath, hl⟩
      rw [List.length_append, List.length_singleton]
      omega

variable [DecidableEq ι]

/-- What is peeled off later has a predecessor that is peeled off just before it. -/
theorem exists_mem_peel_pred {fuel : ℕ} {rest : List ι} {v : ι} {i : ℕ} {gen : List ι}
    (hi : (g.peel fuel rest)[i + 1]? = some gen) (hv : v ∈ gen) :
    ∃ u earlier, (g.peel fuel rest)[i]? = some earlier ∧ u ∈ earlier ∧ g.Arc u v := by
  induction fuel generalizing rest i with
  | zero => simp [peel] at hi
  | succ fuel ih =>
    rw [peel] at hi ⊢
    by_cases he : (rest.filter (g.isFree rest)).isEmpty
    · simp [he] at hi
    simp only [he, Bool.false_eq_true, if_false, List.getElem?_cons_succ] at hi ⊢
    cases i with
    | succ i => exact ih hi
    | zero =>
      -- v was not free while some u remained, and is free now that u is gone
      have hgen : gen = (rest.filter fun v => !g.isFree rest v).filter
          (g.isFree (rest.filter fun v => !g.isFree rest v)) := by
        cases fuel with
        | zero => simp [peel] at hi
        | succ fuel =>
          rw [peel] at hi
          split at hi
          · simp at hi
          · exact (Option.some.inj hi).symm
      rw [hgen] at hv
      obtain ⟨hrest, hfree⟩ := List.mem_filter.1 hv
      obtain ⟨hvr, hbound⟩ := List.mem_filter.1 hrest
      have hsome : ∃ u ∈ g.predecessors v, u ∈ rest := by simpa [isFree] using hbound
      obtain ⟨u, hu, hur⟩ := hsome
      have hfreeu : g.isFree rest u = true := by
        simpa [hur] using List.all_eq_true.1 hfree u hu
      exact ⟨u, _, rfl, List.mem_filter.2 ⟨hur, hfreeu⟩, mem_predecessors.1 hu⟩

namespace IsLayering

variable {layers layers' : List (List ι)} {v : ι} {order : List ι}

theorem mem_layer (h : g.IsLayering layers) {k : ℕ} {layer : List ι} (hk : layers[k]? = some layer) :
    v ∈ layer ↔ v ∈ g.vertices ∧ g.rank v = k := by
  constructor
  · intro hv
    exact ⟨(h.mem v).1 (List.mem_flatten_of_mem (List.mem_of_getElem? hk) hv), h.rank k layer hk v hv⟩
  · rintro ⟨hv, rfl⟩
    obtain ⟨l, hl, hv⟩ := List.mem_flatten.1 ((h.mem v).2 hv)
    obtain ⟨j, hj⟩ := List.getElem?_of_mem hl
    rw [h.rank j l hj v hv, hj] at hk
    exact Option.some.inj hk ▸ hv

theorem exists_layer (h : g.IsLayering layers) (hv : v ∈ g.vertices) :
    ∃ layer, layers[g.rank v]? = some layer ∧ v ∈ layer := by
  obtain ⟨l, hl, hm⟩ := List.mem_flatten.1 ((h.mem v).2 hv)
  obtain ⟨j, hj⟩ := List.getElem?_of_mem hl
  rw [h.rank j l hj v hm]
  exact ⟨l, hj, hm⟩

theorem lt_length_iff (h : g.IsLayering layers) (k : ℕ) :
    k < layers.length ↔ ∃ v ∈ g.vertices, g.rank v = k := by
  constructor
  · intro hk
    have hget := List.getElem?_eq_getElem hk
    obtain ⟨v, hv⟩ := List.exists_mem_of_ne_nil _ (h.ne_nil _ (List.mem_of_getElem? hget))
    exact ⟨v, (h.mem_layer hget).1 hv⟩
  · rintro ⟨v, hv, rfl⟩
    obtain ⟨layer, hget, -⟩ := h.exists_layer hv
    exact (List.getElem?_eq_some_iff.1 hget).1

theorem length_eq (h : g.IsLayering layers) (h' : g.IsLayering layers') :
    layers.length = layers'.length :=
  Nat.le_antisymm
    (Nat.le_of_not_lt fun hlt => Nat.lt_irrefl _ ((h'.lt_length_iff _).2 ((h.lt_length_iff _).1 hlt)))
    (Nat.le_of_not_lt fun hlt => Nat.lt_irrefl _ ((h.lt_length_iff _).2 ((h'.lt_length_iff _).1 hlt)))

theorem perm_filter (h : g.IsLayering layers) (hn : order.Nodup)
    (hm : ∀ v, v ∈ order ↔ v ∈ g.vertices) {k : ℕ} {layer : List ι} (hk : layers[k]? = some layer) :
    layer.Perm (order.filter fun v => g.rank v = k) := by
  have hl : layer.Nodup := (List.nodup_flatten.1 h.nodup).1 layer (List.mem_of_getElem? hk)
  refine (List.perm_ext_iff_of_nodup hl (hn.filter _)).2 fun v => ?_
  rw [h.mem_layer hk, List.mem_filter, hm v, decide_eq_true_iff]

/-- The longest paths that end at a vertex have as many arcs as its rank says. -/
theorem isGreatest_rank (h : g.IsLayering g.generations)
    (hj : ∀ a ∈ g.arcs, a.1 ∈ g.vertices ∧ a.2 ∈ g.vertices) (hv : v ∈ g.vertices) :
    IsGreatest {n | ∃ path, g.IsPathTo v path ∧ path.length = n + 1} (g.rank v) := by
  constructor
  · -- a path is built from its end, one rank at a time
    suffices hp : ∀ k gen v, g.generations[k]? = some gen → v ∈ gen →
        ∃ path, g.IsPathTo v path ∧ path.length = k + 1 by
      obtain ⟨gen, hgen, hm⟩ := h.exists_layer hv
      exact hp _ gen v hgen hm
    intro k
    induction k with
    | zero => exact fun _ v _ _ => ⟨[v], isPathTo_singleton v, rfl⟩
    | succ k ih =>
      intro gen v hgen hm
      obtain ⟨u, earlier, hget, hu, ha⟩ := exists_mem_peel_pred hgen hm
      obtain ⟨path, hp, hl⟩ := ih earlier u hget hu
      exact ⟨path ++ [v], hp.concat ha, by rw [List.length_append, hl, List.length_singleton]⟩
  · rintro n ⟨path, hp, hl⟩
    have hle := hp.length_le fun a ha => h.rank_lt ha (hj a ha).1 (hj a ha).2
    omega

end IsLayering

theorem isSome_slotIn? {v : ι} {layer : List ι} (hv : v ∈ layer) : (slotIn? v layer).isSome := by
  induction layer with
  | nil => cases hv
  | cons u layer ih =>
    rw [slotIn?]
    cases hs : slotIn? v layer with
    | some i => rfl
    | none =>
      rcases List.mem_cons.1 hv with rfl | hv
      · simp
      · rw [hs] at ih
        exact absurd (ih hv) (by simp)

/-- A sweep on its way, with some of its ranks put in order. -/
def sweepPart (g : Digraph ι) (index ranks : ℕ) (layers : List (List ι)) : List (List ι) :=
  let downward := index % 2 == 0
  let neighbours := if downward then g.predecessors else g.successors
  ((sweepRanks downward layers.length).take ranks).foldl (reorderAt neighbours) layers

theorem IsLayering.sweepPart {layers : List (List ι)} (h : g.IsLayering layers) (index ranks : ℕ) :
    g.IsLayering (g.sweepPart index ranks layers) :=
  h.foldl (fun _ rank h => h.of_perm (forall₂_perm_modify (reorder_perm _ _) rank _)) _

/-- Layers that hold the vertices of some order by their ranks, so that each layer has a largest
extent, and the neighbours of each vertex have slots. -/
structure HoldsRanks (g : Digraph ι) (order : List ι) (layers : List (List ι)) : Prop where
  length : layers.length = g.generations.length
  perm : ∀ (k : ℕ) (layer : List ι), layers[k]? = some layer →
    layer.Perm (order.filter fun v => g.rank v = k)
  ne_nil : ∀ layer ∈ layers, layer ≠ []
  thick : ∀ layer ∈ layers, ∀ {α : Type} [Coordinate α] (extent : ι → α),
    (Stack.thickness extent layer).isSome
  found : ∀ v ∈ order, ∀ u ∈ g.predecessors v ++ g.successors v,
    (layers.findSome? (slotIn? u)).isSome

theorem IsLayering.holdsRanks {order : List ι} {layers : List (List ι)} (h : g.IsLayering layers)
    (hg : g.IsLayering g.generations) (hj : ∀ a ∈ g.arcs, a.1 ∈ g.vertices ∧ a.2 ∈ g.vertices)
    (hn : order.Nodup) (hm : ∀ v, v ∈ order ↔ v ∈ g.vertices) : g.HoldsRanks order layers := by
  refine ⟨h.length_eq hg, fun k layer hk => h.perm_filter hn hm hk, h.ne_nil,
    fun layer hl _ _ extent => ?_, fun v _ u hu => ?_⟩
  · obtain ⟨t, ht⟩ := Stack.exists_thickness extent (h.ne_nil layer hl)
    rw [ht]
    rfl
  · have hu : u ∈ g.vertices := by
      rcases List.mem_append.1 hu with hu | hu
      · exact (hj _ (mem_predecessors.1 hu)).1
      · exact (hj _ (mem_successors.1 hu)).2
    obtain ⟨layer, hl, hm⟩ := List.mem_flatten.1 ((h.mem u).2 hu)
    exact List.findSome?_isSome_iff.2 ⟨layer, hl, isSome_slotIn? hm⟩

theorem IsSimple.ends_unwound (hs : g.IsSimple) :
    ∀ a ∈ g.unwound.arcs, a.1 ∈ g.unwound.vertices ∧ a.2 ∈ g.unwound.vertices := by
  rintro ⟨u, v⟩ ha
  rw [vertices_unwound]
  rcases ((breaksCycles_unwound hs).adjacent u v).1 (.inl ha) with ha | ha
  · exact (hs.joins _ ha).2
  · exact (hs.joins _ ha).2.symm

end Digraph

namespace RankLayout

variable {ι α : Type}

/-- The layers after some sweeps, and after some ranks of the next one. -/
def layersOnTheWay [DecidableEq ι] (order : List ι) (arcs : List (ι × ι)) (sweeps ranks : ℕ) :
    List (List ι) :=
  (Digraph.ofLists order arcs).unwound.sweepPart sweeps ranks (layers order arcs sweeps)

theorem exists_layersOnTheWay_eq [DecidableEq ι] (order : List ι) (arcs : List (ι × ι)) (sweeps : ℕ) :
    ∃ ranks, layersOnTheWay order arcs sweeps ranks = layers order arcs (sweeps + 1) := by
  refine ⟨(Digraph.sweepRanks (sweeps % 2 == 0) (layers order arcs sweeps).length).length, ?_⟩
  have hnext : layers order arcs (sweeps + 1) =
      (Digraph.ofLists order arcs).unwound.sweep (layers order arcs sweeps) sweeps := by
    simp only [layers, Digraph.sweeps, List.range_succ, List.foldl_append, List.foldl_cons,
      List.foldl_nil]
  rw [hnext, layersOnTheWay, Digraph.sweepPart, List.take_length]
  rfl

/-- When each number has been placed once, the table has each id once. -/
theorem keys_byId_perm [DecidableEq ι] {ids : List ι} (hn : ids.Nodup) {placed : List (ℕ × Point α)}
    (hp : ∀ number, number ∈ placed.map (·.1) ↔ number < ids.length) :
    (byId ids placed).keys.Perm ids := by
  let named : List (ι × Point α) := placed.filterMap fun p => ids[p.1]?.map fun id => (id, p.2)
  have hk : (byId ids placed).keys = (named.map (·.1)).foldl addNew [] := by
    rw [byId_eq]
    exact Table.keys_foldl_put (fun p : ι × Point α => p.1) (fun _ p => p.2) named .empty
  rw [hk]
  refine (List.perm_ext_iff_of_nodup (nodup_foldl_addNew .nil) hn).2 fun id => ?_
  rw [mem_foldl_addNew, map_fst_named, List.mem_filterMap]
  constructor
  · rintro (h | ⟨number, -, hid⟩)
    · cases h
    · exact List.mem_of_getElem? hid
  · intro hid
    obtain ⟨number, hget⟩ := List.getElem?_of_mem hid
    exact .inr ⟨number, (hp number).2 (List.getElem?_eq_some_iff.1 hget).1, hget⟩

variable [Coordinate α] {s : LayoutSettings} {nodes : List CellNode}

/-- A layout that reads all that it needs has one point for each node, and no others. -/
theorem exists_compute_keys_perm (arcs : List (String × String)) {sweeps : ℤ} {d : Direction}
    {gaps : Spacing α} (hn : (nodes.map (·.id)).Nodup)
    (hz : ∀ n ∈ nodes, ∃ z : Size α, s.footprint n.kind n.data = .ok z)
    (hk : s.crossingSweeps.toIndex = .ok sweeps) (hd : s.direction = .ok d)
    (hg : s.spacing d = .ok gaps) :
    ∃ t : Table String (Point α), compute s nodes arcs = .ok t ∧ t.keys.Perm (nodes.map (·.id)) := by
  by_cases hne : nodes = []
  · subst hne
    exact ⟨.empty, rfl, .refl _⟩
  · exact ⟨_, compute_eq_ok arcs hne hz (fun n _ => rfl) hk hd hg,
      keys_byId_perm hn (mem_map_fst_arranged hn d gaps sweeps arcs)⟩

/-- For different vertices and any arcs: each vertex has one rank, which is the number of arcs of a
longest path to it when the cycles are broken; ranks count up from zero without gaps; after any number
of sweeps, and wherever the next one stands, the layers hold the vertices of their ranks. A layout
gives each of its nodes one point. -/
theorem layers_holdRanks {ι : Type} [DecidableEq ι] {order : List ι} (hn : order.Nodup)
    (arcs : List (ι × ι)) :
    let g : Digraph ι := (Digraph.ofLists order arcs).unwound
    g.generations.flatten.Perm order ∧
    (∀ v ∈ order, ∀ k, (∃ gen, g.generations[k]? = some gen ∧ v ∈ gen) ↔ k = g.rank v) ∧
    (∀ v ∈ order, IsGreatest {n | ∃ path, g.IsPathTo v path ∧ path.length = n + 1} (g.rank v)) ∧
    (∀ k, k < g.generations.length ↔ ∃ v ∈ order, g.rank v = k) ∧
    (∀ sweeps, layersOnTheWay order arcs sweeps 0 = layers order arcs sweeps ∧
      (∃ ranks, layersOnTheWay order arcs sweeps ranks = layers order arcs (sweeps + 1)) ∧
      ∀ ranks, g.HoldsRanks order (layersOnTheWay order arcs sweeps ranks)) ∧
    ∀ {α : Type} [Coordinate α] (s : LayoutSettings) (nodes : List CellNode)
      (edges : List (String × String)) (sweeps : ℤ) (d : Direction) (gaps : Spacing α),
      (nodes.map (·.id)).Nodup →
      (∀ n ∈ nodes, ∃ z : Size α, s.footprint n.kind n.data = .ok z) →
      s.crossingSweeps.toIndex = .ok sweeps → s.direction = .ok d → s.spacing d = .ok gaps →
      ∃ t : Table String (Point α), compute s nodes edges = .ok t ∧
        t.keys.Perm (nodes.map (·.id)) := by
  intro g
  have hs := Digraph.isSimple_ofLists order arcs
  have hm : ∀ v, v ∈ order ↔ v ∈ g.vertices := fun v => by
    rw [Digraph.vertices_unwound, Digraph.mem_vertices_ofLists]
  have hg : g.IsLayering g.generations := Digraph.isLayering_generations_unwound hs
  have hl := isLayering_layers hn arcs
  refine ⟨?_, fun v hv k => ⟨?_, ?_⟩, fun v hv => hg.isGreatest_rank hs.ends_unwound ((hm v).1 hv),
    fun k => ?_, fun sweeps => ⟨rfl, exists_layersOnTheWay_eq order arcs sweeps, fun ranks =>
      ((hl sweeps).sweepPart sweeps ranks).holdsRanks hg hs.ends_unwound hn hm⟩,
    fun s nodes edges sweeps d gaps hids hz hk hd hgaps =>
      exists_compute_keys_perm edges hids hz hk hd hgaps⟩
  · refine (List.perm_ext_iff_of_nodup hg.nodup hn).2 fun v => ?_
    rw [hg.mem v, hm v]
  · rintro ⟨gen, hget, hv⟩
    exact (hg.rank k gen hget v hv).symm
  · rintro rfl
    exact hg.exists_layer ((hm v).1 hv)
  · rw [hg.lt_length_iff]
    simp only [hm]

/-- Four vertices with two ways from the second to the last, and an arc back to the first. -/
theorem layers_holdRanks_detour :
    let order := ["a", "b", "c", "d"]
    let arcs := [("a", "b"), ("b", "d"), ("b", "c"), ("c", "d"), ("d", "a")]
    let g := (Digraph.ofLists order arcs).unwound
    let nodes : List CellNode := order.map fun id => { id, label := .null }
    order.Nodup ∧ IsGreatest {n | ∃ path, g.IsPathTo "d" path ∧ path.length = n + 1} 3 ∧
      g.HoldsRanks order [["a"], ["b"], ["c"], ["d"]] ∧
      ∃ t : Table String (Point ℚ), compute {} nodes arcs = .ok t ∧ t.keys.Perm order := by
  intro order arcs g nodes
  have hn : order.Nodup := by decide
  obtain ⟨-, -, hpath, -, hlayers, hcompute⟩ := layers_holdRanks hn arcs
  have hrank : g.rank "d" = 3 := by decide +kernel
  have hlayer : layersOnTheWay order arcs 4 0 = [["a"], ["b"], ["c"], ["d"]] := by decide +kernel
  refine ⟨hn, hrank ▸ hpath "d" (by decide), hlayer ▸ (hlayers 4).2.2 0, ?_⟩
  refine hcompute {} nodes arcs 4 .topToBottom ⟨20, 20, 50, 50⟩ hn (fun n hm => ?_) rfl rfl rfl
  obtain ⟨id, -, rfl⟩ := List.mem_map.1 hm
  exact ⟨⟨100, 40⟩, rfl⟩

end RankLayout

end CellFlow
