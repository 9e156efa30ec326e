import CellFlow.Proofs.Flow.Findings
import CellFlow.Proofs.Graph.Build
import CellFlow.Proofs.Layout.Renaming

/-!
Numbers of cells do not matter, only which of them are equal: the graph of renumbered cells is
the old graph with new ids.
-/

set_option autoImplicit false

namespace CellFlow

/-- A renaming of ids that goes with new numbers of the cells: it keeps all ids apart, and the ids
of cells and artifacts become those of the new numbers. -/
structure Renumbers (f : Int → Int) (r : String → String) : Prop where
  injective : Function.Injective r
  cell : ∀ p : Int, r (toString p) = toString (f p)
  artifact : ∀ p k : Int, r (artifactId (toString p) k) = artifactId (toString (f p)) k

/-- The id of a cell, or of an artifact of a cell. -/
def idOf : Int ⊕ Int × Int → String :=
  Sum.elim (fun p => toString p) fun a => artifactId (toString a.1) a.2

theorem idOf_injective : Function.Injective idOf := by
  refine Function.Injective.sumElim (fun p q => toString_int_injective) (fun a b h => ?_) fun p a => ?_
  · obtain ⟨ho, hk⟩ := artifactId_injective h
    exact Prod.ext (toString_int_injective ho) hk
  · exact (artifactId_ne_toString a.1 a.2 p).symm

theorem extend_injective {α β : Type} {ids : α → β} (hi : Function.Injective ids) {g : α → α}
    (hg : Function.Injective g) : Function.Injective (Function.extend ids (ids ∘ g) id) := by
  intro s t h
  by_cases hs : ∃ a, ids a = s <;> by_cases ht : ∃ b, ids b = t
  · obtain ⟨a, rfl⟩ := hs
    obtain ⟨b, rfl⟩ := ht
    rw [hi.extend_apply, hi.extend_apply] at h
    rw [hg (hi h)]
  · obtain ⟨a, rfl⟩ := hs
    rw [hi.extend_apply, Function.extend_apply' _ _ _ ht] at h
    exact absurd ⟨g a, h⟩ ht
  · obtain ⟨b, rfl⟩ := ht
    rw [hi.extend_apply, Function.extend_apply' _ _ _ hs] at h
    exact absurd ⟨g b, h.symm⟩ hs
  · rw [Function.extend_apply' _ _ _ hs, Function.extend_apply' _ _ _ ht] at h
    exact h

theorem exists_renumbers {f : Int → Int} (hf : Function.Injective f) : ∃ r, Renumbers f r := by
  have hg : Function.Injective (Sum.map f (Prod.map f (id : Int → Int))) :=
    hf.sumMap (hf.prodMap Function.injective_id)
  refine ⟨Function.extend idOf (idOf ∘ Sum.map f (Prod.map f id)) id, extend_injective idOf_injective hg,
    fun p => ?_, fun p k => ?_⟩
  · exact idOf_injective.extend_apply _ _ (.inl p)
  · exact idOf_injective.extend_apply _ _ (.inr (p, k))

def Cell.renumber (f : Int → Int) (c : Cell) : Cell := { c with position := f c.position }

def Link.renamed (r : String → String) (l : Link) : Link := ⟨r l.source, r l.target⟩

theorem Link.renamed_injective {r : String → String} (hr : Function.Injective r) :
    Function.Injective (Link.renamed r) := by
  rintro ⟨s, t⟩ ⟨s', t'⟩ h
  obtain ⟨hs, ht⟩ := Link.mk.inj h
  exact Link.mk.injEq .. ▸ ⟨hr hs, hr ht⟩

namespace Flow

variable {f : Int → Int} {r : String → String}

theorem writerIn?_map (f : Int → Int) (cells : List (Int × CellNames)) (name : String) :
    writerIn? (cells.map (Prod.map f id)) name = (writerIn? cells name).map f := by
  rw [writerIn?, writerIn?, ← List.map_reverse, List.find?_map, Option.map_map, Option.map_map]
  rfl

theorem findingsAt_map (h : ∀ p, r (toString p) = toString (f p)) (past : List (Int × CellNames))
    (c : Int × CellNames) :
    findingsAt (past.map (Prod.map f id)) (Prod.map f id c) =
      (findingsAt past c).map (Prod.map (Link.renamed r) id) := by
  rw [findingsAt, findingsAt, List.map_filterMap]
  refine List.filterMap_congr fun name _ => ?_
  rw [writerIn?_map, Option.map_map, Option.map_map]
  refine Option.map_congr fun p _ => ?_
  exact Prod.ext (Link.mk.injEq .. ▸ ⟨(h p).symm, (h c.1).symm⟩) rfl

theorem findings_map (h : ∀ p, r (toString p) = toString (f p)) (cells : List (Int × CellNames)) :
    findings (cells.map (Prod.map f id)) = (findings cells).map (Prod.map (Link.renamed r) id) := by
  rw [findings, findings, List.zipIdx_map, List.flatMap_map, List.map_flatMap]
  refine List.flatMap_congr fun c _ => ?_
  rw [← findingsAt_map h, List.map_take]
  rfl

theorem mapKeys_credit {g : Link → Link} (hg : Function.Injective g) (t : Table Link NameSet) (l : Link)
    (names : List String) : (credit t l names).mapKeys g = credit (t.mapKeys g) (g l) names := by
  rw [credit, credit, Table.mapKeys_put hg, Table.get?_mapKeys hg]

theorem mapKeys_foldl_credit {g : Link → Link} (hg : Function.Injective g)
    (found : List (Link × String)) (t : Table Link NameSet) :
    (found.foldl (fun t e => credit t e.1 [e.2]) t).mapKeys g =
      (found.map (Prod.map g id)).foldl (fun t e => credit t e.1 [e.2]) (t.mapKeys g) := by
  induction found generalizing t with
  | nil => rfl
  | cons e found ih =>
    rw [List.foldl_cons, ih, mapKeys_credit hg, List.map_cons, List.foldl_cons]
    rfl

/-- The flow between renumbered cells carries the same names on the renamed links. -/
theorem carried_ofCells_map (hr : Renumbers f r) (cells : List (Int × CellNames)) :
    (ofCells (cells.map (Prod.map f id))).carried = (ofCells cells).carried.mapKeys (Link.renamed r) := by
  rw [(ofCells_eq _).2, (ofCells_eq _).2, findings_map hr.cell,
    mapKeys_foldl_credit (Link.renamed_injective hr.injective), Table.mapKeys_empty]

end Flow

/-- A graph under new numbers: nodes, links and the numbers that the names are kept under change,
and all that they carry stays. -/
def CellGraph.renumber (f : Int → Int) (r : String → String) (g : CellGraph) : CellGraph where
  nodes := g.nodes.map (Node.renamed r)
  carried := g.carried.mapKeys (Link.renamed r)
  names := g.names.map (Prod.map f id)
  colors := g.colors

namespace CellGraph

variable (f : Int → Int) (r : String → String) (g : CellGraph)

theorem edges_renumber : (g.renumber f r).edges = g.edges.map (PlainEdge.renamed r) := by
  rw [edges, edges, renumber, Table.mapKeys, List.map_map, List.map_map]
  rfl

theorem links_renumber : (g.renumber f r).links = g.links.map (Link.renamed r) :=
  Table.keys_mapKeys _ _

theorem ofKind_renumber (k : NodeKind) :
    (g.renumber f r).ofKind k = (g.ofKind k).map (Node.renamed r) :=
  Node.filter_renamed r (fun kind => kind = k) g.nodes

end CellGraph

namespace BuildRules

variable {f : Int → Int} {r : String → String} (rules : BuildRules)

theorem map_position_renumber (f : Int → Int) (cells : List Cell) :
    (cells.map (Cell.renumber f)).map (·.position) = (cells.map (·.position)).map f := by
  rw [List.map_map, List.map_map]
  rfl

theorem colorsFor_renumber (f : Int → Int) (cells : List Cell) (palette : Value) :
    Palette.colorsFor (cells.map (Cell.renumber f)) palette = Palette.colorsFor cells palette := by
  rw [Palette.colorsFor, Palette.colorsFor, List.map_map]
  rfl

theorem checkPositions_renumber (hf : Function.Injective f) {cells : List Cell}
    (hn : (cells.map (·.position)).Nodup) :
    checkPositions [] ((cells.map (Cell.renumber f)).map (·.position)) = .ok () := by
  rw [map_position_renumber]
  exact checkPositions_eq_ok.2 ⟨hn.map hf, fun p _ => List.not_mem_nil⟩

theorem cellNode_renumber (hr : Renumbers f r) (colors : Colors) (c : Cell) (n : CellNames) :
    rules.cellNode colors (c.renumber f) n = (rules.cellNode colors c n).renamed r := by
  simp [cellNode, Node.renamed, Fields.renameIds, Fields.renameAt, Value.renamed, Cell.renumber, Cell.id,
    Cell.sourceText, hr.cell, -Int.toString_eq_repr]

theorem artifactNodes_renumber (hr : Renumbers f r) (c : Cell) (tags : List Tag) :
    artifactNodes (c.renumber f) tags = (artifactNodes c tags).map (Node.renamed r) := by
  rw [artifactNodes, artifactNodes, List.map_map]
  refine List.map_congr_left fun t _ => ?_
  simp [artifactNode, Node.renamed, Fields.renameIds, Fields.renameAt, Value.renamed, Cell.renumber,
    Cell.id, hr.cell, hr.artifact, -Int.toString_eq_repr]

theorem allNodes_renumber (hr : Renumbers f r) (colors : Colors) (cells : List (Cell × CellNames)) :
    rules.allNodes colors (cells.map (Prod.map (Cell.renumber f) id)) =
      List.map (Node.renamed r) <$> rules.allNodes colors cells := by
  induction cells with
  | nil => rfl
  | cons c cells ih =>
    obtain ⟨c, n⟩ := c
    have htags : rules.tags (c.renumber f) = rules.tags c := rfl
    rw [List.map_cons, Prod.map, allNodes, allNodes, ih, nodesOf, nodesOf, htags]
    simp only [bind_map_left, map_bind, bind_assoc, cellNode_renumber rules hr,
      artifactNodes_renumber hr, pure_eq_ok, ok_bind, id]
    refine bind_congr fun tags => bind_congr fun others => ?_
    rw [Except.map_ok, List.map_append, List.map_cons]

theorem map_namesAt_renumber (f : Int → Int) (cells : List Cell) :
    (cells.map (Cell.renumber f)).map rules.namesAt = (cells.map rules.namesAt).map (Prod.map f id) := by
  rw [List.map_map, List.map_map]
  rfl

theorem build_eq (cells : List Cell) : rules.build cells = (do
    checkPositions [] (cells.map (·.position))
    let colors ← Palette.colorsFor cells rules.figure.palette
    let nodes ← rules.allNodes colors (cells.map fun c => (c, rules.names.extract c.source))
    return {
      nodes
      carried := (Flow.ofCells (cells.map rules.namesAt)).carried.mapValues NameSet.toList
      names := cells.map rules.namesAt
      colors } : Outcome CellGraph) := by
  rw [build]
  simp only [zip_names, ← List.map_prod_left_eq_zip]

/-- The graph of renumbered cells is the old graph under the new numbers. -/
theorem build_renumber (hf : Function.Injective f) (hr : Renumbers f r) {cells : List Cell}
    (hn : (cells.map (·.position)).Nodup) :
    rules.build (cells.map (Cell.renumber f)) = CellGraph.renumber f r <$> rules.build cells := by
  have hold : checkPositions [] (cells.map (·.position)) = .ok () :=
    checkPositions_eq_ok.2 ⟨hn, fun p _ => List.not_mem_nil⟩
  have hcells : ((cells.map (Cell.renumber f)).map fun c => (c, rules.names.extract c.source)) =
      (cells.map fun c => (c, rules.names.extract c.source)).map (Prod.map (Cell.renumber f) id) := by
    rw [List.map_map, List.map_map]
    rfl
  rw [build_eq, build_eq, checkPositions_renumber hf hn, hold, ok_bind, ok_bind, colorsFor_renumber, map_bind]
  refine bind_congr fun colors => ?_
  rw [hcells, allNodes_renumber rules hr, map_namesAt_renumber, Flow.carried_ofCells_map hr]
  cases rules.allNodes colors (cells.map fun c => (c, rules.names.extract c.source)) with
  | error e => rfl
  | ok nodes =>
    rw [Except.map_ok, liftM_ok, liftM_ok, ok_bind, ok_bind, pure_eq_ok, pure_eq_ok, Except.map_ok,
      CellGraph.renumber, Table.mapKeys_mapValues]

end BuildRules

end CellFlow
