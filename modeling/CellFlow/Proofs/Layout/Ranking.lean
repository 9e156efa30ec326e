import CellFlow.Layout.Sweep
import CellFlow.Proofs.Layout.Unwinding
import Mathlib.Data.List.Forall2

/-!
Ranks cover an acyclic graph: every vertex stands in exactly one generation, no generation is
empty, and sorting within the layers keeps all this.
-/

set_option autoImplicit false

namespace CellFlow.Digraph

variable {ι : Type} [DecidableEq ι] {g : Digraph ι}

/-- Layers that split the vertices of a graph by their ranks. -/
structure IsLayering (g : Digraph ι) (layers : List (List ι)) : Prop where
  nodup : layers.flatten.Nodup
  mem : ∀ v, v ∈ layers.flatten ↔ v ∈ g.vertices
  rank : ∀ i layer, layers[i]? = some layer → ∀ v ∈ layer, g.rank v = i
  ne_nil : ∀ layer ∈ layers, layer ≠ []

omit [DecidableEq ι] in
theorem IsTopological.mem_before {order : List ι} (h : g.IsTopological order) {as bs : List ι}
    {u v : ι} (ho : order = as ++ v :: bs) (ha : (u, v) ∈ g.arcs) : u ∈ as := by
  have hn : (as ++ v :: bs).Nodup := ho ▸ h.nodup
  have hv : v ∉ bs := fun hm => (List.nodup_cons.1 (List.nodup_append.1 hn).2.1).1 hm
  have hs : [u, v].Sublist (as ++ v :: bs) := ho ▸ h.forward (u, v) ha
  obtain ⟨l₁, l₂, he, h₁, h₂⟩ := List.sublist_append_iff.1 hs
  cases l₁ with
  | nil =>
    rw [List.nil_append] at he
    subst he
    cases h₂ with
    | cons _ h₂ => exact absurd (h₂.subset (List.mem_cons_of_mem u List.mem_cons_self)) hv
    | cons_cons _ h₂ => exact absurd (h₂.subset List.mem_cons_self) hv
  | cons w l₁ =>
    rw [List.cons_append, List.cons.injEq] at he
    rw [he.1]
    exact h₁.subset List.mem_cons_self

theorem IsTopological.exists_isFree {order : List ι} (h : g.IsTopological order) {rest : List ι}
    (hr : ∀ v ∈ rest, v ∈ g.vertices) (hn : rest ≠ []) : ∃ v ∈ rest, g.isFree rest v = true := by
  obtain ⟨w, hw⟩ := List.exists_mem_of_ne_nil rest hn
  cases hf : order.find? fun v => v ∈ rest with
  | none =>
    have := List.find?_eq_none.1 hf w ((h.mem w).2 (hr w hw))
    exact absurd hw (by simpa using this)
  | some v =>
    obtain ⟨hv, as, bs, ho, has⟩ := List.find?_eq_some_iff_append.1 hf
    refine ⟨v, by simpa using hv, List.all_eq_true.2 fun u hu => ?_⟩
    have hm : u ∈ as := h.mem_before ho (mem_predecessors.1 hu)
    simpa using has u hm

theorem IsTopological.flatten_peel {order : List ι} (h : g.IsTopological order) {fuel : Nat}
    {rest : List ι} (hr : ∀ v ∈ rest, v ∈ g.vertices) (hf : rest.length ≤ fuel) :
    (g.peel fuel rest).flatten.Perm rest := by
  induction fuel generalizing rest with
  | zero =>
    rw [List.length_eq_zero_iff.1 (Nat.le_zero.1 hf)]
    exact List.Perm.refl _
  | succ fuel ih =>
    rw [peel]
    by_cases hn : rest = []
    · subst hn
      exact List.Perm.refl _
    · obtain ⟨v, hv, hfree⟩ := h.exists_isFree hr hn
      have hm : v ∈ rest.filter (g.isFree rest) := List.mem_filter.2 ⟨hv, hfree⟩
      have he : (rest.filter (g.isFree rest)).isEmpty = false := by
        rw [List.isEmpty_eq_false_iff]
        exact List.ne_nil_of_mem hm
      have hp := List.filter_append_perm (g.isFree rest) rest
      have hl : (rest.filter fun v => !g.isFree rest v).length ≤ fuel := by
        have hlen := hp.length_eq
        have hpos := List.length_pos_of_mem hm
        rw [List.length_append] at hlen
        omega
      simp only [he, Bool.false_eq_true, if_false, List.flatten_cons]
      exact ((ih (fun u hu => hr u (List.mem_filter.1 hu).1) hl).append_left _).trans hp

theorem ne_nil_of_mem_peel {fuel : Nat} {rest gen : List ι} (h : gen ∈ g.peel fuel rest) :
    gen ≠ [] := by
  induction fuel generalizing rest with
  | zero => cases h
  | succ fuel ih =>
    rw [peel] at h
    by_cases he : (rest.filter (g.isFree rest)).isEmpty
    · simp only [he, if_true] at h
      cases h
    · simp only [he, Bool.false_eq_true, if_false] at h
      rcases List.mem_cons.1 h with rfl | h
      · simpa using he
      · exact ih h

/-- The layer that a vertex stands in, when it stands in one only, is found at its index. -/
theorem findIdx_eq_of_nodup_flatten {layers : List (List ι)} (hn : layers.flatten.Nodup) {i : Nat}
    {layer : List ι} (hi : layers[i]? = some layer) {v : ι} (hv : v ∈ layer) :
    (layers.findIdx fun l => v ∈ l) = i := by
  obtain ⟨hlt, he⟩ := List.getElem?_eq_some_iff.1 hi
  rw [List.findIdx_eq hlt]
  refine ⟨by simpa [he] using hv, fun j hj => ?_⟩
  have hd := List.pairwise_iff_getElem.1 (List.nodup_flatten.1 hn).2 j i (Nat.lt_trans hj hlt) hlt hj
  simpa using fun hm => hd hm (he ▸ hv)

theorem IsTopological.isLayering_generations {order : List ι} (h : g.IsTopological order)
    (hv : g.vertices.Nodup) : g.IsLayering g.generations := by
  have hp : g.generations.flatten.Perm g.vertices :=
    h.flatten_peel (fun v hv => hv) (Nat.le_refl _)
  have hn : g.generations.flatten.Nodup := hp.nodup_iff.2 hv
  refine ⟨hn, fun v => hp.mem_iff, fun i layer hi v hv => ?_, fun layer hl => ne_nil_of_mem_peel hl⟩
  exact findIdx_eq_of_nodup_flatten hn hi hv

theorem isLayering_generations_unwound (h : g.IsSimple) : g.unwound.IsLayering g.unwound.generations := by
  obtain ⟨topological, ht⟩ := exists_isTopological_unwound h
  refine ht.isLayering_generations ?_
  rw [vertices_unwound]
  exact h.nodup_vertices

theorem IsLayering.of_perm {layers layers' : List (List ι)} (h : g.IsLayering layers)
    (hp : List.Forall₂ List.Perm layers' layers) : g.IsLayering layers' := by
  have hf : layers'.flatten.Perm layers.flatten := List.Perm.flatten_congr hp
  have hget : ∀ (i : Nat) (layer : List ι), layers'[i]? = some layer →
      ∃ m, layers[i]? = some m ∧ layer.Perm m := by
    intro i layer hi
    obtain ⟨hlt', rfl⟩ := List.getElem?_eq_some_iff.1 hi
    have hlt : i < layers.length := hp.length_eq ▸ hlt'
    exact ⟨_, List.getElem?_eq_getElem hlt, hp.get hlt' hlt⟩
  refine ⟨hf.nodup_iff.2 h.nodup, fun v => hf.mem_iff.trans (h.mem v), ?_, ?_⟩
  · intro i layer hi v hv
    obtain ⟨m, hm, hpm⟩ := hget i layer hi
    exact h.rank i m hm v (hpm.mem_iff.1 hv)
  · intro layer hl he
    obtain ⟨i, hi⟩ := List.getElem?_of_mem hl
    obtain ⟨m, hm, hpm⟩ := hget i layer hi
    exact h.ne_nil m (List.mem_of_getElem? hm) (List.nil_perm.1 (he ▸ hpm))

theorem IsLayering.layersOf {order : List ι} (h : g.IsLayering g.generations) (hn : order.Nodup)
    (hm : ∀ v ∈ g.vertices, v ∈ order) : g.IsLayering (g.layersOf order) := by
  refine h.of_perm ?_
  rw [Digraph.layersOf, List.forall₂_map_left_iff, List.forall₂_same]
  intro gen hg
  have hgen : gen.Nodup := (List.nodup_flatten.1 h.nodup).1 gen hg
  refine (List.perm_ext_iff_of_nodup (hn.filter _) hgen).2 fun v => ?_
  have hv : v ∈ gen → v ∈ order := fun hv => hm v ((h.mem v).1 (List.mem_flatten_of_mem hg hv))
  simpa using hv

theorem reorder_perm (neighbours : ι → List ι) (layers : List (List ι)) (layer : List ι) :
    (reorder neighbours layers layer).Perm layer := by
  refine ((sortBy_perm _ _).map _).trans ?_
  rw [List.map_map]
  exact List.Perm.of_eq (List.zipIdx_map_fst 0 layer)

omit [DecidableEq ι] in
theorem forall₂_perm_modify {f : List ι → List ι} (hf : ∀ layer, (f layer).Perm layer) (i : Nat)
    (layers : List (List ι)) : List.Forall₂ List.Perm (layers.modify i f) layers := by
  induction layers generalizing i with
  | nil => simp
  | cons layer layers ih =>
    cases i with
    | zero => exact .cons (hf layer) (List.forall₂_same.2 fun l _ => List.Perm.refl l)
    | succ i => exact .cons (List.Perm.refl layer) (ih i)

theorem IsLayering.foldl {β : Type} {f : List (List ι) → β → List (List ι)}
    (step : ∀ layers b, g.IsLayering layers → g.IsLayering (f layers b)) (bs : List β)
    {layers : List (List ι)} (h : g.IsLayering layers) : g.IsLayering (bs.foldl f layers) := by
  induction bs generalizing layers with
  | nil => exact h
  | cons b bs ih => exact ih (step layers b h)

theorem IsLayering.sweep {layers : List (List ι)} (h : g.IsLayering layers) (index : Nat) :
    g.IsLayering (g.sweep layers index) :=
  h.foldl (fun _ rank h => h.of_perm (forall₂_perm_modify (reorder_perm _ _) rank _)) _

theorem IsLayering.sweeps {layers : List (List ι)} (h : g.IsLayering layers) (count : Nat) :
    g.IsLayering (g.sweeps count layers) :=
  h.foldl (fun _ index h => h.sweep index) _

end CellFlow.Digraph
