import CellFlow.Proofs.Graph.Renumbering
import CellFlow.Proofs.Session.Independence

/-!
A notebook whose cells get other numbers is built as before: the same steps report the same, nodes
and edges come in the same order and stand at the same places, and only ids change.
-/

set_option autoImplicit false

namespace CellFlow

def Chart.renamed {α : Type} (r : String → String) (c : Chart α) : Chart α :=
  { c with nodes := c.nodes.map (ChartNode.renamed r), edges := c.edges.map (ChartEdge.renamed r) }

def Result.renumber (f : Int → Int) (r : String → String) (res : Result) : Result where
  cells := res.cells.map (Cell.renumber f)
  groups := res.groups
  graph := res.graph.renumber f r
  chart := res.chart.renamed r

namespace Telling

variable {α β : Type}

theorem ofOutcome_ok_bind (a : α) (t : α → Telling β) : (ofOutcome (.ok a) >>= t) = t a := rfl

theorem ofOutcome_map (g : α → β) (o : Outcome α) : ofOutcome (g <$> o) = g <$> ofOutcome o := by
  cases o <;> rfl

theorem outcome_map (g : α → β) (t : Telling α) : (g <$> t).outcome = g <$> t.outcome := by
  rw [outcome, ExceptT.run_map, StateT.run_map]
  rfl

end Telling

open Telling (tell ofOutcome ofOutcome_ok_bind ofOutcome_map)

namespace Session

variable {f : Int → Int} {r : String → String} (s : Session) {cells : List Cell} {groups : Value}

theorem checkSections_renumber (hf : Function.Injective f) (hn : (cells.map (·.position)).Nodup) :
    s.checkSections (cells.map (Cell.renumber f)) = s.checkSections cells := by
  have hold : BuildRules.checkPositions [] (cells.map (·.position)) = .ok () :=
    BuildRules.checkPositions_eq_ok.2 ⟨hn, fun p _ => List.not_mem_nil⟩
  rw [checkSections, checkSections, BuildRules.checkPositions_renumber hf hn, hold, List.isEmpty_map,
    BuildRules.colorsFor_renumber]

theorem graphOf_renumber (hf : Function.Injective f) (hr : Renumbers f r)
    (hn : (cells.map (·.position)).Nodup) :
    s.graphOf (cells.map (Cell.renumber f)) = CellGraph.renumber f r <$> s.graphOf cells := by
  rw [graphOf, graphOf, checkSections_renumber s hf hn, BuildRules.build_renumber s.rules hf hr hn]
  cases s.instead.entries.isEmpty with
  | true => rfl
  | false =>
    rw [Bool.not_false, if_pos rfl, if_pos rfl, map_bind]

theorem arrange_renumber (hr : Renumbers f r) {g : CellGraph} (hb : BuiltFrom s.rules cells g) :
    s.arrange ⟨cells.map (Cell.renumber f), [], g.renumber f r, g.renumber f r, false⟩ =
      Result.renumber f r <$> s.arrange ⟨cells, [], g, g, false⟩ := by
  have hne : ∀ n ∈ g.nodes, n.kind = .primary → r n.id ≠ "" := by
    intro n hn hk
    obtain ⟨c, -, hc⟩ := hb.mem_nodes.1 hn
    rcases BuildRules.mem_cellNodes.1 hc with rfl | ⟨i, tag, -, rfl⟩
    · exact hr.cell c.position ▸ toString_int_ne_empty (f c.position)
    · cases hk
  have hp := Placement.ofSettings_renamed s.settings.layout hb.isSound hr.injective hne
  unfold arrange
  rw [CellGraph.edges_renumber, show (g.renumber f r).nodes = g.nodes.map (Node.renamed r) from rfl, hp,
    ofOutcome_map, bind_map_left]
  simp only [map_bind]
  refine bind_congr fun placed => bind_congr fun _ => ?_
  rw [Prod.map, List.length_map]
  rfl

/-- A build without groups has nothing to collapse. -/
theorem build_of_no_groups (hg : groups.truthy = false) (collapse : Bool) :
    s.build cells groups collapse = (do
      tell s.isVerbose .banner
      let g ← ofOutcome (s.graphOf cells)
      tell s.isVerbose (.counted g.primary.length g.links.length g.secondary.length)
      tell (s.isVerbose && collapse) .nothingToCollapse
      s.arrange ⟨cells, [], g, g, false⟩) := by
  have hgroups : readGroups groups = .ok [] := by
    rw [readGroups, hg]
    rfl
  have hsilent : ∀ n, tell (s.isVerbose && !List.isEmpty ([] : List Group)) n = pure () := fun n => by
    rw [List.isEmpty_nil, Bool.not_true, Bool.and_false]
    rfl
  unfold build draft
  simp only [hgroups, ofOutcome_ok_bind, hsilent, bind_assoc, pure_bind]
  refine bind_congr fun _ => bind_congr fun g => bind_congr fun _ => ?_
  cases collapse with
  | true => simp [regroup, rankedGraph]
  | false =>
    rw [Bool.and_false]
    rfl

theorem build_renumber (hf : Function.Injective f) (hr : Renumbers f r)
    (hn : (cells.map (·.position)).Nodup) (hg : groups.truthy = false) (collapse : Bool) :
    s.build (cells.map (Cell.renumber f)) groups collapse =
      Result.renumber f r <$> s.build cells groups collapse := by
  rw [build_of_no_groups s hg, build_of_no_groups s hg, graphOf_renumber s hf hr hn, map_bind]
  refine bind_congr fun _ => ?_
  cases h : s.graphOf cells with
  | error e => rfl
  | ok g =>
    have hb : BuiltFrom s.rules cells g := BuildRules.builtFrom (graphOf_eq_ok.1 h).2
    rw [Except.map_ok, ofOutcome_ok_bind, ofOutcome_ok_bind, arrange_renumber s hr hb]
    simp only [map_bind]
    rw [CellGraph.links_renumber, CellGraph.primary, CellGraph.secondary, CellGraph.ofKind_renumber,
      CellGraph.ofKind_renumber, List.length_map, List.length_map, List.length_map]
    rfl

/-- Ids go with the numbers of the cells, and everything else stays as it is: what a build reports,
whether it fails, the order and the kinds of nodes, the edges with their names, and all places. On
any nodes and edges, a layout under other ids is the layout with the ids renamed. -/
theorem build_renumber_and_compute_rename :
    (∀ {f : Int → Int}, Function.Injective f → (∃ r, Renumbers f r) ∧
      ∀ (r : String → String), Renumbers f r →
      ∀ (s : Session) (cells : List Cell) (groups : Value) (collapse : Bool),
        (cells.map (·.position)).Nodup → groups.truthy = false →
        s.build (cells.map (Cell.renumber f)) groups collapse =
          Result.renumber f r <$> s.build cells groups collapse) ∧
    ∀ {α : Type} [Coordinate α] {r : String → String}, Function.Injective r →
      ∀ (settings : LayoutSettings) (nodes : List CellNode) (arcs : List (String × String)),
        (RankLayout.compute settings (nodes.map (Node.rename r)) (arcs.map (Prod.map r r)) :
          Outcome (Table String (Point α))) =
          Table.mapKeys r <$> RankLayout.compute settings nodes arcs :=
  ⟨fun hf => ⟨exists_renumbers hf, fun _ hr s _ _ collapse hn hg => build_renumber s hf hr hn hg collapse⟩,
    fun hr settings nodes arcs => RankLayout.compute_rename settings hr (fun _ => rfl) nodes arcs⟩

/-- Two cells, the first with an output, that swap the numbers 9 and 10: as texts, these come in the
other order. -/
theorem build_renumber_and_compute_rename_swapped :
    let s : Session := { settings := {}, folder := .null, excluded := Names.reserved, exporter := {} }
    let f : Int → Int := fun p => 19 - p
    let cells : List Cell := [
      { position := 9, source := .text "x = 1",
        outputs := [.object [("output_type", .text "display_data")]] },
      { position := 10, source := .text "y = x" }]
    let nodes : List CellNode := [{ id := "9", label := .null }, { id := "10", label := .null }]
    let r : String → String := fun id => "cell " ++ id
    (∃ res r, Renumbers f r ∧ (s.build cells .null false).outcome = .ok res ∧
      (s.build (cells.map (Cell.renumber f)) .null false).outcome = .ok (res.renumber f r)) ∧
    (RankLayout.compute {} (nodes.map (Node.rename r)) [("cell 9", "cell 10")] :
      Outcome (Table String (Point Float))) =
      Table.mapKeys r <$> RankLayout.compute {} nodes [("9", "10")] := by
  intro s f cells nodes r
  have hf : Function.Injective f := fun p q h => by
    simp only [f] at h
    omega
  have hr : Function.Injective r := fun a b h => by
    simpa [r] using h
  obtain ⟨hbuild, hcompute⟩ := build_renumber_and_compute_rename
  obtain ⟨⟨r', hr'⟩, hsame⟩ := hbuild hf
  have hb : (s.graphOf (labelled [] cells)).isOk = true := by decide +kernel
  obtain ⟨g, hgraph⟩ := exists_eq_ok_of_isOk hb
  obtain ⟨res, h⟩ : ∃ res, (s.build cells .null false).outcome = .ok res :=
    exists_outcome false rfl .default (by decide) rfl hgraph
  refine ⟨⟨res, r', hr', h, ?_⟩, hcompute hr {} nodes [("9", "10")]⟩
  rw [hsame r' hr' s cells .null false (by decide) rfl, Telling.outcome_map, h]
  rfl

end Session

end CellFlow
