import CellFlow.Proofs.Graph.Build
import CellFlow.Proofs.Names.LineShapes
import CellFlow.Proofs.Names.Words

/-!
The names that cells have and links carry. However a name gets into a cell, it has the form of a name, and
one that a cell uses is neither assigned there nor left out. So a link carries names only that its first
cell assigns and its second one takes over.
-/

set_option autoImplicit false

namespace CellFlow

/-- The names that no cell uses: the reserved ones, and what the settings name besides. -/
def ParsingSettings.LeavesOut (s : ParsingSettings) (x : String) : Prop :=
  x ∈ Names.reserved ∨ ∃ extra, s.extraExcludedNames.elements = .ok extra ∧ Value.text x ∈ extra

/-- The names that a cell may have under the settings. -/
structure CellNames.AreLegitimate (s : ParsingSettings) (n : CellNames) : Prop where
  assigned : ∀ x ∈ n.assigned, Names.isName x.toList = true
  used : ∀ x ∈ n.used, Names.isName x.toList = true
  disjoint : ∀ x ∈ n.used, x ∉ n.assigned
  kept : ∀ x ∈ n.used, ¬ s.LeavesOut x

namespace Names

variable {s : ParsingSettings} {r : Rules} {x : String}

theorem mem_extraNames {v : Value} {names : List String} (h : extraNames v = .ok names) :
    x ∈ names ↔ ∃ extra, v.elements = .ok extra ∧ Value.text x ∈ extra := by
  obtain ⟨extra, hv, h⟩ := bind_eq_ok.1 h
  obtain ⟨⟨⟩, -, h⟩ := bind_eq_ok.1 h
  cases h
  rw [List.mem_filterMap, hv]
  simp only [Except.ok.injEq, exists_eq_left']
  constructor
  · rintro ⟨v, hv, hx⟩
    split at hx
    · cases hx
      exact hv
    · cases hx
  · intro hx
    exact ⟨_, hx, rfl⟩

theorem Rules.mem_excluded (h : Rules.ofSettings s = .ok r) : x ∈ r.excluded ↔ s.LeavesOut x := by
  obtain ⟨extra, hextra, h⟩ := bind_eq_ok.1 h
  cases h
  rw [List.mem_append, mem_extraNames hextra, ParsingSettings.LeavesOut]

theorem Form.isName_of_mem_targets {f : Form} {t : List Char} (ht : t ∈ f.reading.targets) : isName t = true := by
  cases f with
  | assignment before first more behind rest single =>
    rcases List.mem_cons.1 ht with rfl | ht
    · exact first.isName
    · obtain ⟨further, -, rfl⟩ := List.mem_map.1 ht
      exact further.target.isName
  | augmented before target behind operator ho rest =>
    rw [List.mem_singleton.1 ht]
    exact target.isName
  | definition before async gap name behind rest =>
    rw [List.mem_singleton.1 ht]
    exact name.isName

theorem isName_of_mem_targets {line t : List Char} (ht : t ∈ (readLine line).targets) : isName t = true := by
  by_cases h : ∃ f : Form, f.text = line
  · obtain ⟨f, rfl⟩ := h
    rw [readLine, readBy_text LineShape.mem_all] at ht
    exact f.isName_of_mem_targets ht
  · rw [readLine, readBy_of_no_form fun f hf => h ⟨f, hf⟩] at ht
    cases ht

theorem Rules.areLegitimate_extract (h : Rules.ofSettings s = .ok r) (source : Value) :
    (r.extract source).AreLegitimate s where
  assigned x hx := by
    rw [extract_eq_namesOf, mem_assigned] at hx
    obtain ⟨line, -, -, t, ht, rfl⟩ := hx
    rw [String.toList_ofList]
    exact isName_of_mem_targets ht
  used x hx := by
    obtain ⟨⟨w, -, hname⟩, -⟩ := mem_used_iff_exists_word.1 hx
    exact (exists_of_leadingName? hname).1
  disjoint x hx := (mem_used_iff_exists_word.1 hx).2.1
  kept x hx := (Rules.mem_excluded h).not.1 (mem_used_iff_exists_word.1 hx).2.2

end Names

/-- A name that one cell assigns and another takes over. -/
structure BuildRules.Passes (r : BuildRules) (s : ParsingSettings) (c d : Cell) (x : String) : Prop where
  isName : Names.isName x.toList = true
  assigned : x ∈ (r.names.extract c.source).assigned
  used : x ∈ (r.names.extract d.source).used
  not_assigned : x ∉ (r.names.extract d.source).assigned
  kept : ¬ s.LeavesOut x

/-- An edge from one of the cells to another, with the names that pass on it. -/
def BuildRules.CarriesNames (r : BuildRules) (s : ParsingSettings) (cells : List Cell) (e : PlainEdge String) : Prop :=
  ∃ c ∈ cells, ∃ d ∈ cells, e.source = c.id ∧ e.target = d.id ∧
    ∃ names, e.data = CellGraph.linkData names ∧ names ≠ [] ∧ names.Pairwise (· < ·) ∧
      ∀ x ∈ names, r.Passes s c d x

namespace BuiltFrom

variable {r : BuildRules} {s : ParsingSettings} {cells : List Cell} {g : CellGraph}

theorem mem_edges (h : BuiltFrom r cells g) {e : PlainEdge String} :
    e ∈ g.edges ↔ ∃ l ∈ g.links, e = ⟨l.source, l.target,
      CellGraph.linkData ((Flow.ofCells (cells.map r.namesAt)).namesOn l)⟩ := by
  have hd : (Flow.ofCells (cells.map r.namesAt)).carried.keys.Nodup := by
    rw [← Flow.links, ← h.links]
    exact h.nodup_links
  rw [CellGraph.edges, h.links, h.carried, Table.mapValues, List.map_map, List.mem_map, Flow.links, Table.keys]
  simp only [List.mem_map, exists_exists_and_eq_and]
  refine exists_congr fun p => and_congr_right fun hp => ?_
  rw [Flow.namesOn, (Table.get?_eq_some_iff hd).2 hp]
  exact eq_comm

theorem carriesNames (h : BuiltFrom r cells g) (hr : Names.Rules.ofSettings s = .ok r.names) {e : PlainEdge String}
    (he : e ∈ g.edges) : r.CarriesNames s cells e := by
  obtain ⟨l, hl, rfl⟩ := h.mem_edges.1 he
  obtain ⟨j, i, c, d, -, hc, hd, rfl⟩ := h.links_forward hl
  have htraces := Flow.tracesLatestWriters_ofCells h.nodup_namesAt
  have hc' : (cells.map r.namesAt)[j]? = some (r.namesAt c) := getElem?_namesAt.2 ⟨c, hc, rfl⟩
  have hd' : (cells.map r.namesAt)[i]? = some (r.namesAt d) := getElem?_namesAt.2 ⟨d, hd, rfl⟩
  refine ⟨c, List.mem_of_getElem? hc, d, List.mem_of_getElem? hd, rfl, rfl, _, rfl, ?_, htraces.ascending _,
    fun x hx => ?_⟩
  · rw [h.links] at hl
    obtain ⟨x, hx⟩ := (htraces.mem_links hc' hd').1 hl
    exact List.ne_nil_of_mem ((htraces.mem_namesOn hc' hd' x).2 hx)
  · obtain ⟨⟨d'', hd'', hused⟩, hwriter⟩ := (htraces.mem_namesOn hc' hd' x).1 hx
    obtain ⟨c'', hc'', hassigned⟩ := hwriter.assigns
    cases Option.some.inj (hc''.symm.trans hc')
    cases Option.some.inj (hd''.symm.trans hd')
    have hnames := Names.Rules.areLegitimate_extract hr d.source
    exact ⟨hnames.used x hused, hassigned, hused, hnames.disjoint x hused, hnames.kept x hused⟩

end BuiltFrom

/-- Under any settings, what is read from a source is names, of which the used ones are neither assigned nor
left out; and the edges of a graph carry, in ascending order, names that pass from cell to cell. -/
theorem BuildRules.build_carriesNames {s : Settings} {r : BuildRules} (h : BuildRules.ofSettings s = .ok r) :
    (∀ source, (r.names.extract source).AreLegitimate s.parsing) ∧
    ∀ cells g, r.build cells = .ok g → ∀ e ∈ g.edges, r.CarriesNames s.parsing cells e := by
  obtain ⟨names, hnames, h⟩ := bind_eq_ok.1 h
  cases h
  exact ⟨Names.Rules.areLegitimate_extract hnames, fun cells g hg e he =>
    (BuildRules.builtFrom hg).carriesNames hnames he⟩

/-- Two cells with a magic line and a name that is left out; the text of the second one comes in lines. -/
theorem BuildRules.build_carriesNames_leftOut :
    let s : Settings := { parsing := { extraExcludedNames := .list [.text "df", .int 3] } }
    let r : BuildRules := { names := ⟨true, Names.reserved ++ ["df"]⟩ }
    let cells : List Cell := [{ position := 7, source := .text "%time q = 1\ndf, total, n = load(), 2, 3" },
      { position := 3, source := .list [.text "def f(x):", .text "    n = total + df + q + n"] }]
    BuildRules.ofSettings s = .ok r ∧ (r.names.extract (.int 4)).AreLegitimate s.parsing ∧
      ∃ g, r.build cells = .ok g ∧ g.carried.entries = [(⟨"7", "3"⟩, ["total"])] ∧
        ∀ e ∈ g.edges, r.CarriesNames s.parsing cells e := by
  intro s r cells
  have hr : BuildRules.ofSettings s = .ok r := rfl
  have hl : (r.build cells).toOption.map (·.carried.entries) = some [(⟨"7", "3"⟩, ["total"])] := by decide +kernel
  obtain ⟨hnames, hedges⟩ := build_carriesNames hr
  cases h : r.build cells with
  | error e =>
    rw [h] at hl
    cases hl
  | ok g =>
    rw [h] at hl
    exact ⟨hr, hnames (.int 4), g, rfl, Option.some.inj hl, hedges cells g h⟩

end CellFlow
