import CellFlow.Proofs.Chart.Network
import CellFlow.Proofs.Layout.Placing

/-!
Well-formed charts: ids that differ, edges between different ranked nodes and without repetition,
artifacts behind their owners, and a network that says the same. Placing a sound graph gives one.
-/

set_option autoImplicit false

namespace CellFlow

/-- What every chart that was laid out satisfies. -/
structure Chart.IsWellFormed (c : Chart Float) : Prop where
  text_ids : ∀ n ∈ c.nodes, ∃ id, n.id = .text id
  nodup_ids : (c.nodes.map (·.id)).Nodup
  edge_ids : c.edges.map (·.id) = (List.range c.edges.length).map fun i : ℕ => (i : ℤ)
  ends : ∀ e ∈ c.edges, e.source ≠ e.target ∧
    (∃ n ∈ c.nodes, n.kind.isRanked = true ∧ n.id = e.source) ∧
    ∃ n ∈ c.nodes, n.kind.isRanked = true ∧ n.id = e.target
  nodup_pairs : (c.edges.map fun e => (e.source, e.target)).Nodup
  owners : FollowOwners (c.nodes.map ChartNode.tie)
  network : ∃ n, Network.ofChart c = .ok n ∧ n.ids = c.nodes.map (·.id) ∧
    n.ends = c.edges.map fun e => (e.source, e.target)

namespace Placement

theorem map_ends_numberEdges (g : CellGraph) :
    ((numberEdges g.edges).map fun e => (e.source, e.target)) =
      g.links.map fun l => (Value.text l.source, Value.text l.target) := by
  have h : ((numberEdges g.edges).map fun e => (e.source, e.target)) =
      (g.edges.zipIdx.map (·.1)).map fun e => (Value.text e.source, Value.text e.target) := by
    rw [numberEdges, List.map_map, List.map_map]
    rfl
  rw [h, List.zipIdx_map_fst, CellGraph.edges, CellGraph.links, Table.keys, List.map_map, List.map_map]
  rfl

theorem map_id_numberEdges (edges : List (PlainEdge String)) :
    (numberEdges edges).map (·.id) = (List.range (numberEdges edges).length).map fun i : ℕ => (i : ℤ) := by
  rw [numberEdges, List.length_map, List.length_zipIdx, List.range_eq_range', ← List.zipIdx_map_snd 0 edges,
    List.map_map, List.map_map]
  rfl

theorem areNamed_of_mem_numberEdges {g : CellGraph} {e : ChartEdge} (h : e ∈ numberEdges g.edges) :
    Fields.AreNamed Network.takenByEdges e.data := by
  obtain ⟨⟨e, i⟩, he, rfl⟩ := List.mem_map.1 h
  obtain ⟨⟨l, names⟩, -, rfl⟩ := List.mem_map.1 (List.fst_mem_of_mem_zipIdx he)
  exact Fields.areNamed_of_map ["variables"] rfl (by decide)

variable {n : CellNode} {c : ChartNode Float} {nodes : List CellNode} {placed : List (ChartNode Float)}

theorem IsPlacedNode.areNamed (h : IsPlacedNode n c) (hn : Fields.AreNamed Network.takenByNodes n.data) :
    Fields.AreNamed Network.takenByNodes c.data := by
  rw [h.2.2, Fields.setDefault]
  split
  · exact hn
  · intro f hf
    rcases List.mem_append.1 hf with hf | hf
    · exact hn f hf
    · rw [List.mem_singleton.1 hf]
      exact ⟨"label", rfl, by decide⟩

theorem map_eq_of_isPlacedNode {β : Type} {f : ChartNode Float → β} {k : CellNode → β}
    (h : List.Forall₂ IsPlacedNode nodes placed) (hf : ∀ n c, IsPlacedNode n c → f c = k n) :
    placed.map f = nodes.map k := by
  induction h with
  | nil => rfl
  | cons hc _ ih => rw [List.map_cons, List.map_cons, hf _ _ hc, ih]

end Placement

open Placement

namespace CellGraph.IsSound

variable {g : CellGraph} {placed : List (ChartNode Float)}

theorem nodup_placed_ids (hg : g.IsSound) (hp : List.Forall₂ IsPlacedNode g.nodes placed) :
    (placed.map (·.id)).Nodup := by
  have hids : placed.map (·.id) = (g.nodes.map (·.id)).map Value.text := by
    rw [List.map_map]
    exact map_eq_of_isPlacedNode hp fun n c h => h.1
  rw [hids]
  exact hg.nodup_ids.map fun a b h => Value.text.inj h

theorem nodup_pairs (hg : g.IsSound) :
    ((numberEdges g.edges).map fun e => (e.source, e.target)).Nodup := by
  rw [map_ends_numberEdges]
  refine hg.nodup_links.map fun a b h => ?_
  obtain ⟨s, t⟩ := a
  obtain ⟨s', t'⟩ := b
  cases h
  rfl

variable {α : Type} {charted : List (ChartNode α)}

theorem exists_placed_end (hp : List.Forall₂ IsPlacedNode g.nodes charted) {id : String}
    (h : ∃ n ∈ g.nodes, n.kind.isRanked = true ∧ n.id = id) :
    ∃ c ∈ charted, c.kind.isRanked = true ∧ c.id = .text id := by
  obtain ⟨n, hn, hk, rfl⟩ := h
  obtain ⟨c, hc, hi, hk', -⟩ := exists_of_mem_forall₂ hp.flip hn
  exact ⟨c, hc, by rw [hk', hk], hi⟩

theorem placed_ends (hg : g.IsSound) (hp : List.Forall₂ IsPlacedNode g.nodes charted) {e : ChartEdge}
    (he : e ∈ numberEdges g.edges) : e.source ≠ e.target ∧
      (∃ c ∈ charted, c.kind.isRanked = true ∧ c.id = e.source) ∧
      ∃ c ∈ charted, c.kind.isRanked = true ∧ c.id = e.target := by
  have hm : (e.source, e.target) ∈ g.links.map fun l => (Value.text l.source, Value.text l.target) := by
    rw [← map_ends_numberEdges]
    exact List.mem_map_of_mem (f := fun e : ChartEdge => (e.source, e.target)) he
  obtain ⟨l, hl, he⟩ := List.mem_map.1 hm
  obtain ⟨hs, ht⟩ := Prod.mk.inj he
  obtain ⟨hne, hsource, htarget⟩ := hg.ends l hl
  rw [← hs, ← ht]
  exact ⟨fun h => hne (Value.text.inj h), exists_placed_end hp hsource, exists_placed_end hp htarget⟩

/-- Placing a sound graph gives a well-formed chart. -/
theorem isWellFormed (hg : g.IsSound) (hp : List.Forall₂ IsPlacedNode g.nodes placed) (colors : Colors)
    (notes : Fields) : Chart.IsWellFormed ⟨placed, numberEdges g.edges, colors, notes⟩ := by
  have htext : ∀ c ∈ placed, ∃ id, c.id = .text id := by
    intro c hc
    obtain ⟨n, -, hn⟩ := exists_of_mem_forall₂ hp hc
    exact ⟨n.id, hn.1⟩
  refine ⟨htext, hg.nodup_placed_ids hp, map_id_numberEdges _, fun e he => hg.placed_ends hp he,
    hg.nodup_pairs, ?_, ?_⟩
  · rw [map_eq_of_isPlacedNode hp fun n c h => h.tie]
    exact hg.owners
  · refine Network.ofChart_eq_ok (hg.nodup_placed_ids hp) (fun c hc => ⟨htext c hc, ?_⟩) (fun e he => ?_)
      hg.nodup_pairs
    · obtain ⟨n, hn, h⟩ := exists_of_mem_forall₂ hp hc
      exact h.areNamed (hg.named n hn)
    · obtain ⟨-, ⟨a, ha, -, hs⟩, b, hb, -, ht⟩ := hg.placed_ends hp he
      exact ⟨List.mem_map.2 ⟨a, ha, hs⟩, List.mem_map.2 ⟨b, hb, ht⟩, areNamed_of_mem_numberEdges he⟩

end CellGraph.IsSound

end CellFlow
