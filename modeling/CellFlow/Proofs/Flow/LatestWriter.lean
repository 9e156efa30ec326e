import CellFlow.Proofs.Flow.Findings
import CellFlow.Proofs.Graph.Ids
import Mathlib.Data.List.Nodup

/-!
The links of a flow are those from the latest earlier writers: a link goes from one cell to
another exactly when some name that the second one uses was assigned by the first one and by
no cell between the two, and it carries exactly these names.
-/

set_option autoImplicit false

namespace CellFlow.Flow

/-- Cell `j` is the last one before cell `i` that assigns the name. -/
structure IsLatestWriter (cells : List (Int × CellNames)) (j i : Nat) (name : String) : Prop where
  before : j < i
  assigns : ∃ c, cells[j]? = some c ∧ name ∈ c.2.assigned
  latest : ∀ k c, j < k → k < i → cells[k]? = some c → name ∉ c.2.assigned

def Justifies (cells : List (Int × CellNames)) (j i : Nat) (name : String) : Prop :=
  (∃ c, cells[i]? = some c ∧ name ∈ c.2.used) ∧ IsLatestWriter cells j i name

/-- What the flow between cells says about them, by their places in the list. -/
structure TracesLatestWriters (cells : List (Int × CellNames)) (f : Flow Int) : Prop where
  mem_links : ∀ {j i : Nat} {c d : Int × CellNames}, cells[j]? = some c → cells[i]? = some d →
    ((⟨toString c.1, toString d.1⟩ : Link) ∈ f.links ↔ ∃ name, Justifies cells j i name)
  joins : ∀ l ∈ f.links, ∃ (j i : Nat) (c d : Int × CellNames),
    cells[j]? = some c ∧ cells[i]? = some d ∧ l = ⟨toString c.1, toString d.1⟩
  nodup : f.links.Nodup
  /-- Links stand where the walk through the cells and their used names finds them first. -/
  order : f.links = ((findings cells).map (·.1)).eraseDups
  ascending : ∀ l, (f.namesOn l).Pairwise (· < ·)
  mem_namesOn : ∀ {j i : Nat} {c d : Int × CellNames}, cells[j]? = some c → cells[i]? = some d →
    ∀ name, name ∈ f.namesOn ⟨toString c.1, toString d.1⟩ ↔ Justifies cells j i name
  namesOn_eq_nil : ∀ l, l ∉ f.links → f.namesOn l = []
  covered : ∀ {j i : Nat} {c d : Int × CellNames} {name : String}, cells[j]? = some c →
    cells[i]? = some d → j < i → name ∈ c.2.assigned → name ∈ d.2.used →
    ∃! l, l ∈ f.links ∧ l.target = toString d.1 ∧ name ∈ f.namesOn l

variable {cells : List (Int × CellNames)} {j i : Nat} {name : String}

theorem isLatestWriter_succ {c : Int × CellNames} (hc : cells[i]? = some c) :
    IsLatestWriter cells j (i + 1) name ↔
      if name ∈ c.2.assigned then j = i else IsLatestWriter cells j i name := by
  constructor
  · rintro ⟨before, ⟨d, hd, hn⟩, latest⟩
    by_cases hji : j = i
    · subst hji
      have hcd : c = d := Option.some.inj (hc.symm.trans hd)
      rw [if_pos (hcd ▸ hn)]
    · have hi : name ∉ c.2.assigned := latest i c (by omega) (by omega) hc
      rw [if_neg hi]
      exact ⟨by omega, ⟨d, hd, hn⟩, fun k e hjk hki => latest k e hjk (by omega)⟩
  · split
    · rintro rfl
      exact ⟨by omega, ⟨c, hc, ‹_›⟩, fun k _ hjk hki => by omega⟩
    · rintro ⟨before, assigns, latest⟩
      refine ⟨by omega, assigns, fun k e hjk hki he => ?_⟩
      by_cases hk : k = i
      · subst hk
        rwa [Option.some.inj (he.symm.trans hc)]
      · exact latest k e hjk (by omega) he

theorem writerIn?_take (h : i ≤ cells.length) (p : Int) :
    writerIn? (cells.take i) name = some p ↔
      ∃ j c, cells[j]? = some c ∧ c.1 = p ∧ IsLatestWriter cells j i name := by
  induction i with
  | zero =>
    constructor
    · intro hw
      simp [writerIn?] at hw
    · rintro ⟨j, c, -, -, hl⟩
      exact absurd hl.before (by omega)
  | succ i ih =>
    have hc : cells[i]? = some cells[i] := List.getElem?_eq_getElem h
    rw [List.take_succ_eq_append_getElem h, writerIn?_concat]
    simp only [isLatestWriter_succ hc]
    by_cases hn : name ∈ cells[i].2.assigned
    · simp only [if_pos hn, Option.some.injEq]
      constructor
      · rintro rfl
        exact ⟨i, _, hc, rfl, rfl⟩
      · rintro ⟨j, c, hj, rfl, rfl⟩
        rw [Option.some.inj (hc.symm.trans hj)]
    · simp only [if_neg hn]
      exact ih (by omega)

theorem mem_findings {l : Link} :
    (l, name) ∈ findings cells ↔ ∃ j i c d, cells[j]? = some c ∧ cells[i]? = some d ∧
      l = ⟨toString c.1, toString d.1⟩ ∧ Justifies cells j i name := by
  simp only [findings, findingsAt, List.mem_flatMap, List.mem_filterMap, Option.map_eq_some_iff,
    Prod.mk.injEq]
  constructor
  · rintro ⟨⟨d, i⟩, hi, name, hn, p, hp, rfl, rfl⟩
    have hd : cells[i]? = some d := List.mem_zipIdx_iff_getElem?.1 hi
    have hlt : i < cells.length := (List.getElem?_eq_some_iff.1 hd).1
    obtain ⟨j, c, hc, rfl, hl⟩ := (writerIn?_take (Nat.le_of_lt hlt) p).1 hp
    exact ⟨j, i, c, d, hc, hd, rfl, ⟨d, hd, hn⟩, hl⟩
  · rintro ⟨j, i, c, d, hc, hd, rfl, ⟨e, he, hn⟩, hl⟩
    have hde : d = e := Option.some.inj (hd.symm.trans he)
    have hlt : i < cells.length := (List.getElem?_eq_some_iff.1 hd).1
    exact ⟨(d, i), List.mem_zipIdx_iff_getElem?.2 hd, name, hde ▸ hn, c.1,
      (writerIn?_take (Nat.le_of_lt hlt) c.1).2 ⟨j, c, hc, rfl, hl⟩, rfl, rfl⟩

theorem IsLatestWriter.unique {k : Nat} (hj : IsLatestWriter cells j i name)
    (hk : IsLatestWriter cells k i name) : j = k := by
  obtain ⟨c, hc, hcn⟩ := hj.assigns
  obtain ⟨d, hd, hdn⟩ := hk.assigns
  rcases Nat.lt_trichotomy j k with h | h | h
  · exact absurd hdn (hj.latest k d h hk.before hd)
  · exact h
  · exact absurd hcn (hk.latest j c h hj.before hc)

theorem exists_isLatestWriter {c : Int × CellNames} (hc : cells[j]? = some c)
    (hn : name ∈ c.2.assigned) (hji : j < i) : ∃ k, IsLatestWriter cells k i name := by
  induction i with
  | zero => omega
  | succ i ih =>
    cases hd : cells[i]? with
    | none =>
      have hlt : j < cells.length := (List.getElem?_eq_some_iff.1 hc).1
      have hle : cells.length ≤ i := List.getElem?_eq_none_iff.1 hd
      obtain ⟨k, before, assigns, latest⟩ := ih (by omega)
      refine ⟨k, by omega, assigns, fun m e hkm hmi he => latest m e hkm ?_ he⟩
      have := (List.getElem?_eq_some_iff.1 he).1
      omega
    | some d =>
      simp only [isLatestWriter_succ hd]
      by_cases hdn : name ∈ d.2.assigned
      · exact ⟨i, by rw [if_pos hdn]⟩
      · have hne : j ≠ i := by
          rintro rfl
          exact hdn (Option.some.inj (hc.symm.trans hd) ▸ hn)
        obtain ⟨k, hk⟩ := ih (by omega)
        exact ⟨k, by rwa [if_neg hdn]⟩

theorem eq_of_toString_eq {c d : Int × CellNames} (hp : (cells.map (·.1)).Nodup)
    (hc : cells[j]? = some c) (hd : cells[i]? = some d) (h : toString c.1 = toString d.1) : j = i := by
  have hlt : j < (cells.map (·.1)).length := by
    rw [List.length_map]
    exact (List.getElem?_eq_some_iff.1 hc).1
  apply (List.getElem?_inj hlt hp).1
  rw [List.getElem?_map, List.getElem?_map, hc, hd, Option.map_some, Option.map_some,
    toString_int_injective h]

theorem mem_findings_link {c d : Int × CellNames} (hp : (cells.map (·.1)).Nodup)
    (hc : cells[j]? = some c) (hd : cells[i]? = some d) :
    ((⟨toString c.1, toString d.1⟩ : Link), name) ∈ findings cells ↔ Justifies cells j i name := by
  rw [mem_findings]
  constructor
  · rintro ⟨j', i', c', d', hc', hd', hl, hn⟩
    obtain ⟨hs, ht⟩ := Link.mk.inj hl
    rwa [eq_of_toString_eq hp hc hc' hs, eq_of_toString_eq hp hd hd' ht]
  · intro hn
    exact ⟨j, i, c, d, hc, hd, rfl, hn⟩

theorem tracesLatestWriters_ofCells (hp : (cells.map (·.1)).Nodup) :
    TracesLatestWriters cells (ofCells cells) where
  mem_links hc hd := by
    simp only [mem_links_ofCells, mem_findings_link hp hc hd]
  joins l hl := by
    obtain ⟨name, hn⟩ := mem_links_ofCells.1 hl
    obtain ⟨j, i, c, d, hc, hd, he, -⟩ := mem_findings.1 hn
    exact ⟨j, i, c, d, hc, hd, he⟩
  nodup := by
    rw [links_ofCells]
    exact nodup_eraseDups _
  order := links_ofCells cells
  ascending := (ofCells cells).ascending_namesOn
  mem_namesOn hc hd name := by
    rw [mem_namesOn_ofCells, mem_findings_link hp hc hd]
  namesOn_eq_nil _ hl := namesOn_eq_nil_of_not_mem hl
  covered {j i c d name} hc hd hji hcn hdn := by
    obtain ⟨k, hk⟩ := exists_isLatestWriter hc hcn hji
    obtain ⟨e, he, -⟩ := hk.assigns
    have hn : ((⟨toString e.1, toString d.1⟩ : Link), name) ∈ findings cells :=
      (mem_findings_link hp he hd).2 ⟨⟨d, hd, hdn⟩, hk⟩
    refine ⟨_, ⟨mem_links_ofCells.2 ⟨name, hn⟩, rfl, mem_namesOn_ofCells.2 hn⟩, ?_⟩
    rintro l ⟨-, ht, hl⟩
    obtain ⟨m, i', c', d', hc', hd', rfl, -, hm⟩ := mem_findings.1 (mem_namesOn_ofCells.1 hl)
    have hi : i' = i := eq_of_toString_eq hp hd' hd ht
    subst hi
    have hmk : m = k := hm.unique hk
    subst hmk
    rw [Option.some.inj (hc'.symm.trans he), Option.some.inj (hd'.symm.trans hd)]

theorem length_countedPositions (n : Nat) : (countedPositions n).length = n := by
  simp [countedPositions]

theorem nodup_countedPositions (n : Nat) : (countedPositions n).Nodup := by
  refine List.nodup_range.map fun a b h => ?_
  have hab : (a : Int) + 1 = (b : Int) + 1 := h
  omega

/-- Whatever was built before, a build between results at different positions, or at the counted
ones when none are given, gives the links from the latest earlier writers. -/
theorem rebuild_tracesLatestWriters (old : Flow Int) (results : List CellNames)
    (given : Option (List Int))
    (h : ∀ positions, given = some positions → positions.length = results.length ∧ positions.Nodup) :
    let positions := given.getD (countedPositions results.length)
    ∃ f, rebuild old positions results = (f, .ok f.links) ∧
      TracesLatestWriters (positions.zip results) f := by
  intro positions
  have hp : positions.length = results.length ∧ positions.Nodup := by
    cases given with
    | none => exact ⟨length_countedPositions _, nodup_countedPositions _⟩
    | some ps => exact h ps rfl
  refine ⟨ofCells (positions.zip results), ?_, tracesLatestWriters_ofCells ?_⟩
  · simp [rebuild, build, hp.1]
  · rw [List.map_fst_zip (Nat.le_of_eq hp.1)]
    exact hp.2

/-- Three cells out of numeric order, the second of which assigns again what the first one did. -/
theorem rebuild_tracesLatestWriters_overwritten :
    ∃ f, rebuild .empty [7, -3, 5]
        [⟨.ofList ["x", "y"], .empty⟩, ⟨.ofList ["x"], .ofList ["x"]⟩, ⟨.empty, .ofList ["x", "y"]⟩] =
        (f, .ok f.links) ∧
      TracesLatestWriters ([7, -3, 5].zip [⟨.ofList ["x", "y"], .empty⟩,
        ⟨.ofList ["x"], .ofList ["x"]⟩, ⟨.empty, .ofList ["x", "y"]⟩]) f :=
  rebuild_tracesLatestWriters .empty
    [⟨.ofList ["x", "y"], .empty⟩, ⟨.ofList ["x"], .ofList ["x"]⟩, ⟨.empty, .ofList ["x", "y"]⟩]
    (some [7, -3, 5]) (by rintro _ ⟨⟩; exact ⟨rfl, by decide⟩)

end CellFlow.Flow
