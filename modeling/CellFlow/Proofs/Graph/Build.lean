import CellFlow.Graph.Build
import CellFlow.Proofs.Data.Outcome
import CellFlow.Proofs.Flow.LatestWriter
import CellFlow.Proofs.Graph.Ids

/-!
What a graph that was built from cells consists of: the node of each cell with those of its
artifacts behind it, and the links of the flow between the cells.
-/

set_option autoImplicit false

namespace CellFlow

namespace BuildRules

theorem checkPositions_eq_ok {ps seen : List Int} :
    checkPositions seen ps = .ok () ↔ ps.Nodup ∧ ∀ p ∈ ps, p ∉ seen := by
  induction ps generalizing seen with
  | nil => simp [checkPositions]
  | cons p ps ih =>
    rw [checkPositions]
    by_cases h : p ∈ seen
    · simp [h]
    · rw [if_neg h, ih]
      simp only [List.nodup_cons, List.mem_cons, not_or, forall_eq_or_imp]
      constructor
      · rintro ⟨hd, hs⟩
        exact ⟨⟨fun hp => (hs p hp).1 rfl, hd⟩, h, fun q hq => (hs q hq).2⟩
      · rintro ⟨⟨hp, hd⟩, -, hs⟩
        refine ⟨hd, fun q hq => ⟨?_, hs q hq⟩⟩
        rintro rfl
        exact hp hq

def tagList (r : BuildRules) (c : Cell) : List Tag :=
  match r.tags c with
  | .ok tags => tags
  | .error _ => []

def namesAt (r : BuildRules) (c : Cell) : Int × CellNames := (c.position, r.names.extract c.source)

def cellNodes (r : BuildRules) (colors : Colors) (c : Cell) : List CellNode :=
  r.cellNode colors c (r.names.extract c.source) :: artifactNodes c (r.tagList c)

theorem nodesOf_eq_ok {r : BuildRules} {colors : Colors} {c : Cell} {n : CellNames}
    {ns : List CellNode} (h : r.nodesOf colors c n = .ok ns) :
    ns = r.cellNode colors c n :: artifactNodes c (r.tagList c) := by
  obtain ⟨ts, ht, hn⟩ := bind_eq_ok.1 h
  rw [tagList, ht]
  exact (Except.ok.inj hn).symm

theorem allNodes_eq_ok {r : BuildRules} {colors : Colors} {cells : List Cell} {ns : List CellNode}
    (h : r.allNodes colors (cells.map fun c => (c, r.names.extract c.source)) = .ok ns) :
    ns = cells.flatMap (r.cellNodes colors) := by
  induction cells generalizing ns with
  | nil => exact (Except.ok.inj h).symm
  | cons c cells ih =>
    rw [List.map_cons, allNodes] at h
    obtain ⟨here, hh, h⟩ := bind_eq_ok.1 h
    obtain ⟨others, ho, h⟩ := bind_eq_ok.1 h
    rw [← Except.ok.inj h, nodesOf_eq_ok hh, ih ho, List.flatMap_cons]
    rfl

theorem zip_names (r : BuildRules) (cells : List Cell) :
    (cells.map (·.position)).zip (cells.map fun c => r.names.extract c.source) = cells.map r.namesAt := by
  rw [List.zip_map']
  rfl

theorem names_of_build {r : BuildRules} {cells : List Cell} {g : CellGraph} (h : r.build cells = .ok g) :
    g.names = cells.map r.namesAt := by
  obtain ⟨⟨⟩, -, h⟩ := bind_eq_ok.1 h
  obtain ⟨colors, -, h⟩ := bind_eq_ok.1 h
  obtain ⟨nodes, -, h⟩ := bind_eq_ok.1 h
  cases h
  exact zip_names r cells

theorem colors_of_build {r : BuildRules} {cells : List Cell} {g : CellGraph}
    (h : r.build cells = .ok g) : Palette.colorsFor cells r.figure.palette = .ok g.colors := by
  obtain ⟨⟨⟩, -, h⟩ := bind_eq_ok.1 h
  obtain ⟨colors, hc, h⟩ := bind_eq_ok.1 h
  obtain ⟨nodes, -, h⟩ := bind_eq_ok.1 h
  cases h
  exact liftM_eq_ok.1 hc

end BuildRules

/-- What a graph has from the cells that it was built from. -/
structure BuiltFrom (r : BuildRules) (cells : List Cell) (g : CellGraph) : Prop where
  positions : (cells.map (·.position)).Nodup
  nodes : g.nodes = cells.flatMap (r.cellNodes g.colors)
  carried : g.carried = (Flow.ofCells (cells.map r.namesAt)).carried.mapValues NameSet.toList

theorem BuildRules.builtFrom {r : BuildRules} {cells : List Cell} {g : CellGraph}
    (h : r.build cells = .ok g) : BuiltFrom r cells g := by
  obtain ⟨⟨⟩, hp, h⟩ := bind_eq_ok.1 h
  obtain ⟨colors, -, h⟩ := bind_eq_ok.1 h
  obtain ⟨nodes, hn, h⟩ := bind_eq_ok.1 h
  rw [zip_names] at h
  cases h
  refine ⟨(checkPositions_eq_ok.1 hp).1, ?_, rfl⟩
  rw [← List.map_prod_left_eq_zip, liftM_eq_ok] at hn
  exact allNodes_eq_ok hn

namespace BuiltFrom

variable {r : BuildRules} {cells : List Cell} {g : CellGraph}

theorem nodup_ids (h : BuiltFrom r cells g) : (cells.map Cell.id).Nodup := by
  have hp : ((cells.map (·.position)).map fun p : Int => toString p).Nodup :=
    h.positions.map fun p q => toString_int_injective
  rwa [List.map_map] at hp

theorem nodup_namesAt (h : BuiltFrom r cells g) : ((cells.map r.namesAt).map (·.1)).Nodup := by
  rw [List.map_map]
  exact h.positions

theorem primary (h : BuiltFrom r cells g) :
    g.primary = cells.map fun c => r.cellNode g.colors c (r.names.extract c.source) := by
  have ha : ∀ c tags, ((BuildRules.artifactNodes c tags).filter fun n => n.kind = .primary) = [] := by
    intro c tags
    rw [List.filter_eq_nil_iff]
    intro n hn
    obtain ⟨⟨tag, i⟩, -, rfl⟩ := List.mem_map.1 hn
    simp [BuildRules.artifactNode]
  rw [CellGraph.primary, CellGraph.ofKind, h.nodes, List.filter_flatMap]
  simp only [BuildRules.cellNodes, List.filter_cons, ha]
  simp [BuildRules.cellNode, ← List.map_eq_flatMap]

theorem links (h : BuiltFrom r cells g) : g.links = (Flow.ofCells (cells.map r.namesAt)).links := by
  rw [CellGraph.links, h.carried, Table.keys_mapValues, Flow.links]

theorem nodup_links (h : BuiltFrom r cells g) : g.links.Nodup := by
  rw [h.links, Flow.links_ofCells]
  exact nodup_eraseDups _

theorem getElem?_namesAt {i : Nat} {d : Int × CellNames} :
    (cells.map r.namesAt)[i]? = some d ↔ ∃ c, cells[i]? = some c ∧ r.namesAt c = d := by
  rw [List.getElem?_map, Option.map_eq_some_iff]

theorem links_forward (h : BuiltFrom r cells g) {l : Link} (hl : l ∈ g.links) :
    ∃ (j i : Nat) (c d : Cell), j < i ∧ cells[j]? = some c ∧ cells[i]? = some d ∧ l = ⟨c.id, d.id⟩ := by
  rw [h.links] at hl
  obtain ⟨name, hn⟩ := Flow.mem_links_ofCells.1 hl
  obtain ⟨j, i, c', d', hc', hd', rfl, -, hw⟩ := Flow.mem_findings.1 hn
  obtain ⟨c, hc, rfl⟩ := getElem?_namesAt.1 hc'
  obtain ⟨d, hd, rfl⟩ := getElem?_namesAt.1 hd'
  exact ⟨j, i, c, d, hw.before, hc, hd, rfl⟩

end BuiltFrom

end CellFlow
