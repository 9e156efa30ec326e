import CellFlow.Proofs.Data.Keyed
import CellFlow.Proofs.Layout.Computing

/-!
What stands for the vertices of a graph makes no difference to its layers, as long as different
vertices stay different: cycles are broken, ranks are given and layers are swept alike. So a layout
that numbers its nodes first is the layout of the nodes themselves. Nor does it matter that layers are
sorted by means alone: a longer key would have the slots next, and they are all different.
-/

set_option autoImplicit false

namespace CellFlow

variable {ι κ : Type} {f : ι → κ}

namespace Stack

variable {α : Type} [Coordinate α]

theorem pack_map {extent : κ → α} {extent' : ι → α} (gap main cursor : α) {layer : List ι}
    (h : ∀ v ∈ layer, extent (f v) = extent' v) : pack gap extent main cursor (layer.map f) =
      (pack gap extent' main cursor layer).map (Prod.map f id) := by
  induction layer generalizing cursor with
  | nil => rfl
  | cons v layer ih =>
    rw [List.forall_mem_cons] at h
    rw [List.map_cons, pack, pack, h.1, ih _ h.2]
    rfl

theorem thickness_map {extent : κ → α} {extent' : ι → α} {layer : List ι}
    (h : ∀ v ∈ layer, extent (f v) = extent' v) : thickness extent (layer.map f) = thickness extent' layer := by
  cases layer with
  | nil => rfl
  | cons v layer =>
    rw [List.forall_mem_cons] at h
    rw [List.map_cons, thickness, thickness, h.1, List.map_map]
    exact congrArg (fun l => some (Coordinate.largest _ l)) (List.map_congr_left h.2)

variable {d : Direction} {s : Spacing α} {size : κ → Size α} {size' : ι → Size α}

theorem stack_map (cursor : α) {layers : List (List ι)} (h : ∀ v ∈ layers.flatten, size (f v) = size' v) :
    stack d s size cursor (layers.map (List.map f)) =
      Prod.map (List.map (Prod.map f id)) id (stack d s size' cursor layers) := by
  induction layers generalizing cursor with
  | nil => rfl
  | cons layer layers ih =>
    rw [List.flatten_cons, List.forall_mem_append] at h
    have ht : thickness (fun v => mainExtent d (size v)) (layer.map f) =
        thickness (fun v => mainExtent d (size' v)) layer := thickness_map fun v hv => by rw [h.1 v hv]
    have hp (main : α) : pack s.nodeGap (fun v => crossExtent d (size v)) main s.crossMargin (layer.map f) =
        (pack s.nodeGap (fun v => crossExtent d (size' v)) main s.crossMargin layer).map (Prod.map f id) :=
      pack_map _ _ _ fun v hv => by rw [h.1 v hv]
    rw [List.map_cons, stack, stack, ht]
    cases thickness (fun v => mainExtent d (size' v)) layer with
    | none => exact ih _ h.2
    | some t => simp [hp, ih _ h.2]

theorem place_map {layers : List (List ι)} (h : ∀ v ∈ layers.flatten, size (f v) = size' v) :
    place d s size (layers.map (List.map f)) = (place d s size' layers).map (Prod.map f id) := by
  rw [place, place, stack_map _ h]
  cases hd : d.isReversed with
  | true => simp [turnRound]
  | false => simp

end Stack

variable [DecidableEq ι] [DecidableEq κ]

theorem map_addNew (hf : Function.Injective f) (l : List ι) (a : ι) :
    (addNew l a).map f = addNew (l.map f) (f a) := by
  by_cases ha : a ∈ l
  · rw [addNew_of_mem ha, addNew_of_mem (List.mem_map_of_mem ha)]
  · rw [addNew_of_not_mem ha, addNew_of_not_mem (by rwa [List.mem_map_of_injective hf]), List.map_append]
    rfl

theorem map_foldl_addNew (hf : Function.Injective f) (l m : List ι) :
    (l.foldl addNew m).map f = (l.map f).foldl addNew (m.map f) := by
  rw [List.foldl_map, List.foldl_hom (List.map f) fun m a => (map_addNew hf m a).symm]

namespace Digraph

/-- The graph with other vertices in place of its own. -/
def map (f : ι → κ) (g : Digraph ι) : Digraph κ := ⟨g.vertices.map f, g.arcs.map (Prod.map f f)⟩

theorem ofLists_map (hf : Function.Injective f) (order : List ι) (arcs : List (ι × ι)) :
    ofLists (order.map f) (arcs.map (Prod.map f f)) = (ofLists order arcs).map f := by
  have hvertices : (order.map f).foldl addNew [] = (order.foldl addNew []).map f :=
    (map_foldl_addNew hf order []).symm
  have hjoins (vertices : List ι) : joins (vertices.map f) ∘ Prod.map f f = joins vertices := by
    funext a
    simp [joins, List.mem_map_of_injective hf, hf.eq_iff]
  rw [ofLists, ofLists, map, hvertices, List.filter_map, hjoins, map_foldl_addNew (hf.prodMap hf)]
  rfl

theorem successors_map (hf : Function.Injective f) (g : Digraph ι) (v : ι) :
    (g.map f).successors (f v) = (g.successors v).map f := by
  simp only [successors, map, List.filterMap_map, List.map_filterMap]
  refine List.filterMap_congr fun a _ => ?_
  simp [hf.eq_iff, apply_ite]

theorem predecessors_map (hf : Function.Injective f) (g : Digraph ι) (v : ι) :
    (g.map f).predecessors (f v) = (g.predecessors v).map f := by
  simp only [predecessors, map, List.filterMap_map, List.map_filterMap]
  refine List.filterMap_congr fun a _ => ?_
  simp [hf.eq_iff, apply_ite]

section Walks

def Walk.map (f : ι → κ) (w : Walk ι) : Walk κ := ⟨w.seen.map f, w.back.map (Prod.map f f)⟩

theorem follow_map (hf : Function.Injective f) {next : Walk ι → ι → Walk ι}
    {next' : Walk κ → κ → Walk κ} (hnext : ∀ w v, next' (w.map f) (f v) = (next w v).map f)
    (trail : List ι) (v : ι) (w : Walk ι) (c : ι) :
    follow next' (trail.map f) (f v) (w.map f) (f c) = (follow next trail v w c).map f := by
  have hseen : f c ∈ (w.map f).seen ↔ c ∈ w.seen := List.mem_map_of_injective hf
  have htrail : f c ∈ trail.map f ↔ c ∈ trail := List.mem_map_of_injective hf
  simp only [follow, hseen, htrail]
  split
  · split
    · simp [Walk.map]
    · rfl
  · exact hnext { w with seen := c :: w.seen } c

theorem explore_map (hf : Function.Injective f) (g : Digraph ι) (fuel : ℕ) (trail : List ι) (w : Walk ι)
    (v : ι) :
    (g.map f).explore fuel (trail.map f) (w.map f) (f v) = (g.explore fuel trail w v).map f := by
  induction fuel generalizing trail w v with
  | zero => rfl
  | succ fuel ih =>
    rw [explore, explore, successors_map hf, List.foldl_map]
    exact List.foldl_hom (Walk.map f) fun w c =>
      follow_map hf (fun w c => ih (v :: trail) w c) (v :: trail) v w c

theorem backArcs_map (hf : Function.Injective f) (g : Digraph ι) :
    (g.map f).backArcs = g.backArcs.map (Prod.map f f) := by
  have henter (w : Walk ι) (v : ι) : (g.map f).enter (w.map f) (f v) = (g.enter w v).map f := by
    have hseen : f v ∈ (w.map f).seen ↔ v ∈ w.seen := List.mem_map_of_injective hf
    have hlength : (g.map f).vertices.length = g.vertices.length := List.length_map f
    simp only [enter, hseen, hlength]
    split
    · rfl
    · exact explore_map hf g g.vertices.length [] { w with seen := v :: w.seen } v
  have hwalk (vs : List ι) (w : Walk ι) :
      (vs.map f).foldl (g.map f).enter (w.map f) = (vs.foldl g.enter w).map f := by
    rw [List.foldl_map]
    exact List.foldl_hom (Walk.map f) henter
  exact congrArg Walk.back (hwalk g.vertices ⟨[], []⟩)

theorem turn_map (hf : Function.Injective f) (g : Digraph ι) (a : ι × ι) :
    (g.map f).turn (Prod.map f f a) = (g.turn a).map f := by
  rw [turn, turn, map, map, map_addNew (hf.prodMap hf), List.map_erase (hf.prodMap hf)]
  rfl

theorem unwound_map (hf : Function.Injective f) (g : Digraph ι) : (g.map f).unwound = g.unwound.map f := by
  rw [unwound, unwound, backArcs_map hf, List.foldl_map]
  exact List.foldl_hom (map f) fun g a => turn_map hf g a

end Walks

section Layers

theorem peel_map (hf : Function.Injective f) (g : Digraph ι) (fuel : ℕ) (rest : List ι) :
    (g.map f).peel fuel (rest.map f) = (g.peel fuel rest).map (List.map f) := by
  have hfree (rest : List ι) : (g.map f).isFree (rest.map f) ∘ f = g.isFree rest := by
    funext v
    simp only [isFree, predecessors_map hf, List.all_map, Function.comp_def, List.mem_map_of_injective hf]
  have hbound (rest : List ι) : (fun v => !(g.map f).isFree (rest.map f) v) ∘ f = fun v => !g.isFree rest v :=
    funext fun v => congrArg (!·) (congrFun (hfree rest) v)
  induction fuel generalizing rest with
  | zero => rfl
  | succ fuel ih =>
    simp only [peel, List.filter_map, hfree, hbound, List.isEmpty_map, ih]
    split <;> rfl

theorem layersOf_map (hf : Function.Injective f) (g : Digraph ι) (order : List ι) :
    (g.map f).layersOf (order.map f) = (g.layersOf order).map (List.map f) := by
  have hgenerations : (g.map f).generations = g.generations.map (List.map f) := by
    rw [generations, generations, ← peel_map hf]
    simp [map]
  have hin (gen : List ι) : (fun v => decide (v ∈ gen.map f)) ∘ f = fun v => decide (v ∈ gen) := by
    funext v
    simp only [Function.comp_def, List.mem_map_of_injective hf]
  rw [layersOf, layersOf, hgenerations, List.map_map, List.map_map]
  refine List.map_congr_left fun gen _ => ?_
  rw [Function.comp_apply, Function.comp_apply, List.filter_map, hin]

theorem slot_map (hf : Function.Injective f) (layers : List (List ι)) (v : ι) :
    slot (layers.map (List.map f)) (f v) = slot layers v := by
  have hin (layer : List ι) : slotIn? (f v) (layer.map f) = slotIn? v layer := by
    induction layer with
    | nil => rfl
    | cons u layer ih => simp only [List.map_cons, slotIn?, ih, hf.eq_iff]
  rw [slot, slot, List.findSome?_map]
  simp [Function.comp_def, hin]

theorem reorder_map (hf : Function.Injective f) {near : ι → List ι} {near' : κ → List κ}
    (hnear : ∀ v, near' (f v) = (near v).map f) (layers : List (List ι)) (layer : List ι) :
    reorder near' (layers.map (List.map f)) (layer.map f) = (reorder near layers layer).map f := by
  have hmean (v : ι) (current : ℕ) : barycenter (layers.map (List.map f)) (near' (f v)) current =
      barycenter layers (near v) current := by
    rw [barycenter, barycenter, hnear, List.isEmpty_map, List.length_map, List.foldr_map]
    simp only [slot_map hf]
  have hkeyed : (layer.map f).zipIdx.map (fun p => (barycenter (layers.map (List.map f)) (near' p.1) p.2, p.1)) =
      (layer.zipIdx.map fun p => (barycenter layers (near p.1) p.2, p.1)).map (Prod.map id f) := by
    rw [List.zipIdx_map, List.map_map, List.map_map]
    exact List.map_congr_left fun p _ => Prod.ext (hmean p.1 p.2) rfl
  refine (congrArg (fun keyed => (sortBy (fun a b => a.1.le b.1) keyed).map (·.2)) hkeyed).trans ?_
  rw [sortBy_map fun a b => rfl, List.map_map, reorder, List.map_map]
  rfl

theorem sweeps_map (hf : Function.Injective f) (g : Digraph ι) (count : ℕ) (layers : List (List ι)) :
    (g.map f).sweeps count (layers.map (List.map f)) = (g.sweeps count layers).map (List.map f) := by
  have hat {near : ι → List ι} {near' : κ → List κ} (hnear : ∀ v, near' (f v) = (near v).map f)
      (layers : List (List ι)) (rank : ℕ) :
      reorderAt near' (layers.map (List.map f)) rank = (reorderAt near layers rank).map (List.map f) := by
    refine List.ext_getElem? fun i => ?_
    rw [reorderAt, reorderAt, List.getElem?_modify, List.getElem?_map, List.getElem?_map, List.getElem?_modify]
    cases layers[i]? with
    | none => rfl
    | some layer =>
      by_cases hi : rank = i
      · simp [hi, reorder_map hf hnear]
      · simp [hi]
  have hsweep (layers : List (List ι)) (index : ℕ) :
      (g.map f).sweep (layers.map (List.map f)) index = (g.sweep layers index).map (List.map f) := by
    have hnear (downward : Bool) (v : ι) :
        (if downward then (g.map f).predecessors else (g.map f).successors) (f v) =
          ((if downward then g.predecessors else g.successors) v).map f := by
      cases downward with
      | true => exact predecessors_map hf g v
      | false => exact successors_map hf g v
    rw [sweep, sweep, List.length_map]
    exact List.foldl_hom (List.map (List.map f)) fun layers rank => hat (hnear _) layers rank
  exact List.foldl_hom (List.map (List.map f)) hsweep

end Layers

/-- What a layer could also be sorted by: the mean, then the slot, the number and the vertex itself. -/
structure SlotKey (ι : Type) where
  mean : Mean
  slot : ℕ
  number : ℕ
  vertex : ι

/-- The order of keys part by part, with any order of vertices in the end. -/
def SlotKey.le (before : ι → ι → Bool) (a b : SlotKey ι) : Bool :=
  if a.mean.le b.mean && b.mean.le a.mean then
    if a.slot = b.slot then
      if a.number = b.number then before a.vertex b.vertex else a.number < b.number
    else a.slot < b.slot
  else a.mean.le b.mean

def slotKeys (near : ι → List ι) (number : ι → ℕ) (layers : List (List ι)) (layer : List ι) :
    List (SlotKey ι) :=
  layer.zipIdx.map fun (v, i) => ⟨barycenter layers (near v) i, i, number v, v⟩

theorem pairwise_slot_slotKeys (near : ι → List ι) (number : ι → ℕ) (layers : List (List ι))
    (layer : List ι) : (slotKeys near number layers layer).Pairwise fun a b => a.slot < b.slot := by
  have hslots : (slotKeys near number layers layer).map (·.slot) = List.range' 0 layer.length := by
    rw [slotKeys, List.map_map, ← List.zipIdx_map_snd]
    rfl
  have hlt : ((slotKeys near number layers layer).map (·.slot)).Pairwise (· < ·) := by
    rw [hslots]
    exact List.pairwise_lt_range'
  exact List.pairwise_map.1 hlt

/-- Sorting by the longer key comes to the same: no two vertices of a layer share a slot, and where
means are equal, a stable sort goes by the slots. -/
theorem reorder_eq_sortBy_slotKeys (before : ι → ι → Bool) (number : ι → ℕ) (near : ι → List ι)
    (layers : List (List ι)) (layer : List ι) : reorder near layers layer =
      (sortBy (SlotKey.le before) (slotKeys near number layers layer)).map (·.vertex) := by
  let keys := slotKeys near number layers layer
  have hmeans : sortBy (SlotKey.le before) keys = sortBy (fun a b => a.mean.le b.mean) keys := by
    refine sortBy_congr ((pairwise_slot_slotKeys near number layers layer).imp fun {a b} hslot => ?_)
    unfold SlotKey.le
    split
    · rename_i htie
      rw [if_neg hslot.ne, decide_eq_true hslot, (Bool.and_eq_true_iff.1 htie).1]
    · rfl
  have hkeys : (layer.zipIdx.map fun (v, i) => (barycenter layers (near v) i, v)) =
      keys.map fun k => (k.mean, k.vertex) := by
    dsimp only [keys, slotKeys]
    rw [List.map_map]
    rfl
  have hsort : sortBy (fun a b => a.1.le b.1) (keys.map fun k => (k.mean, k.vertex)) =
      (sortBy (fun a b => a.mean.le b.mean) keys).map fun k => (k.mean, k.vertex) :=
    sortBy_map (fun a b => rfl) keys
  rw [hmeans, reorder, hkeys, hsort, List.map_map]
  rfl

end Digraph

namespace RankLayout

theorem layers_map (hf : Function.Injective f) (order : List ι) (arcs : List (ι × ι)) (sweeps : ℕ) :
    layers (order.map f) (arcs.map (Prod.map f f)) sweeps = (layers order arcs sweeps).map (List.map f) := by
  rw [layers, layers, Digraph.ofLists_map hf, Digraph.unwound_map hf, Digraph.layersOf_map hf,
    Digraph.sweeps_map hf]

/-- The arcs between listed vertices, as arcs of what is listed. -/
def listedArcs (ids : List ι) (arcs : List (ι × ι)) : List ({ id // id ∈ ids } × { id // id ∈ ids }) :=
  arcs.filterMap fun a => if h : a.1 ∈ ids ∧ a.2 ∈ ids then some (⟨a.1, h.1⟩, ⟨a.2, h.2⟩) else none

omit [DecidableEq κ] in
theorem map_listedArcs (ids : List ι) (arcs : List (ι × ι)) (f : ι → κ) :
    (listedArcs ids arcs).map (Prod.map (fun i => f i.1) fun i => f i.1) =
      (arcs.filter fun a => a.1 ∈ ids ∧ a.2 ∈ ids).map (Prod.map f f) := by
  induction arcs with
  | nil => rfl
  | cons a arcs ih =>
    rw [listedArcs] at ih ⊢
    by_cases h : a.1 ∈ ids ∧ a.2 ∈ ids
    · simp [h, ih, Prod.map]
    · simp [h, ih]

/-- Arcs that leave the listed vertices do not count. -/
theorem layers_filter (order : List ι) (arcs : List (ι × ι)) (sweeps : ℕ) :
    layers order (arcs.filter fun a => a.1 ∈ order ∧ a.2 ∈ order) sweeps = layers order arcs sweeps := by
  have hjoins : (arcs.filter fun a => a.1 ∈ order ∧ a.2 ∈ order).filter
      (Digraph.joins (order.foldl addNew [])) = arcs.filter (Digraph.joins (order.foldl addNew [])) := by
    rw [List.filter_filter]
    refine List.filter_congr fun a _ => ?_
    simp only [Digraph.joins, mem_foldl_addNew, List.not_mem_nil, false_or]
    grind
  rw [layers, layers, Digraph.ofLists, Digraph.ofLists, hjoins]

variable [BEq ι] [LawfulBEq ι] {ids : List ι}

omit [DecidableEq ι] in
theorem getElem?_numberOf {id : ι} (h : id ∈ ids) : ids[numberOf ids id]? = some id := by
  have hlt : numberOf ids id < ids.length := List.idxOf_lt_length_iff.2 h
  rw [List.getElem?_eq_getElem hlt]
  exact congrArg some (List.getElem_idxOf hlt)

theorem numberArcs_eq (ids : List ι) (arcs : List (ι × ι)) : numberArcs ids arcs =
    (listedArcs ids arcs).map (Prod.map (fun i => numberOf ids i.1) fun i => numberOf ids i.1) := by
  have hlt (id : ι) : numberOf ids id < ids.length ↔ id ∈ ids := List.idxOf_lt_length_iff
  rw [map_listedArcs, numberArcs, List.filter_map]
  congr 1
  refine List.filter_congr fun a _ => ?_
  simp [hlt]

/-- The layers of the numbers are those of the ids that they stand for. -/
theorem layers_numbered (ids : List ι) (arcs : List (ι × ι)) (sweeps : ℕ) :
    layers (ids.map (numberOf ids)) (numberArcs ids arcs) sweeps =
      (layers ids arcs sweeps).map (List.map (numberOf ids)) := by
  have hinjective : Function.Injective fun i : { id // id ∈ ids } => numberOf ids i.1 := fun i j h => by
    have hi : ids[numberOf ids i.1]? = some i.1 := getElem?_numberOf i.2
    have hj : ids[numberOf ids j.1]? = some j.1 := getElem?_numberOf j.2
    dsimp only at h
    rw [h, hj] at hi
    exact Subtype.ext (Option.some.inj hi).symm
  have hids : layers ids arcs sweeps = (layers ids.attach (listedArcs ids arcs) sweeps).map (List.map (·.1)) := by
    rw [← layers_map Subtype.val_injective, List.attach_map_subtype_val, ← layers_filter]
    congr 1
    exact ((map_listedArcs ids arcs id).trans (List.map_id _)).symm
  have hnumbers : layers (ids.map (numberOf ids)) (numberArcs ids arcs) sweeps =
      (layers ids.attach (listedArcs ids arcs) sweeps).map (List.map fun i => numberOf ids i.1) := by
    rw [← layers_map hinjective, ← numberArcs_eq, List.attach_map_val]
  rw [hids, hnumbers, List.map_map]
  simp [Function.comp_def]

section Computing

variable {α : Type} [Coordinate α] {s : LayoutSettings}

/-- The size of the node with an id; of equal ids the last counts. -/
def sizeById (s : LayoutSettings) (nodes : List (Node ι)) (id : ι) : Size α :=
  (Table.get? (nodes.foldl (fun t n => t.put n.id (sizeOf s n)) .empty) id).getD ⟨0, 0⟩

theorem arranged_eq {nodes : List (Node ι)} (hn : (nodes.map (·.id)).Nodup) (d : Direction) (gaps : Spacing α)
    (sweeps : ℤ) (arcs : List (ι × ι)) : arranged s d gaps sweeps nodes arcs =
      (arrange d gaps (sizeById s nodes) sweeps.toNat (nodes.map (·.id)) arcs).map
        (Prod.map (numberOf (nodes.map (·.id))) id) := by
  rw [arranged, arrange, arrange, layers_numbered]
  refine Stack.place_map fun id hid => ?_
  rw [mem_layers hn] at hid
  rw [sizeByNumber, sizeAt, getElem?_numberOf hid]
  rfl

variable [NodeId ι]

/-- Numbering the nodes is no part of the layout: it is the one of the ids themselves. -/
theorem compute_eq_arrange {nodes : List (Node ι)} (hn : (nodes.map (·.id)).Nodup) (arcs : List (ι × ι))
    {sweeps : ℤ} {d : Direction} {gaps : Spacing α} (hne : nodes ≠ [])
    (hz : ∀ n ∈ nodes, ∃ z : Size α, s.footprint n.kind n.data = .ok z)
    (hid : ∀ n ∈ nodes, (NodeId.toKey n.id == Key.null) = false) (hk : s.crossingSweeps.toIndex = .ok sweeps)
    (hd : s.direction = .ok d) (hg : s.spacing d = .ok gaps) :
    compute s nodes arcs =
      .ok ((arrange d gaps (sizeById s nodes) sweeps.toNat (nodes.map (·.id)) arcs).foldl
        (fun t p => t.put p.1 p.2) .empty) := by
  rw [compute_eq_ok arcs hne hz hid hk hd hg, byId_eq, arranged_eq hn, List.filterMap_map]
  congr 2
  refine (List.filterMap_congr fun p hp => ?_).trans List.filterMap_some
  have hlayers := (isLayering_layers hn arcs sweeps.toNat).ne_nil
  have hfst : (arrange d gaps (sizeById s nodes) sweeps.toNat (nodes.map (·.id)) arcs).map (·.1) =
      (layers (nodes.map (·.id)) arcs sweeps.toNat).flatten := Stack.map_fst_place hlayers
  have hmem : p.1 ∈ nodes.map (·.id) := by
    rw [← mem_layers hn arcs sweeps.toNat, ← hfst]
    exact List.mem_map_of_mem hp
  rw [Function.comp_apply, Prod.map_fst, getElem?_numberOf hmem]
  rfl

end Computing

end RankLayout

end CellFlow
