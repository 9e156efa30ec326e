import CellFlow.Graph.Flow
import Mathlib.Data.List.Basic
import Mathlib.Data.List.Induction

/-!
What the walk through the cells finds: for each used name with an earlier writer, the link
that the name goes on. The flow is the table of these findings, in the order of the walk.
-/

set_option autoImplicit false

namespace CellFlow.Flow

def writerIn? (cells : List (Int × CellNames)) (name : String) : Option Int :=
  (cells.reverse.find? fun c => name ∈ c.2.assigned).map (·.1)

/-- The findings at a cell behind others: its used names, in ascending order. -/
def findingsAt (past : List (Int × CellNames)) (c : Int × CellNames) : List (Link × String) :=
  c.2.used.toList.filterMap fun name =>
    (writerIn? past name).map fun p => (⟨toString p, toString c.1⟩, name)

def findings (cells : List (Int × CellNames)) : List (Link × String) :=
  cells.zipIdx.flatMap fun (c, i) => findingsAt (cells.take i) c

theorem writerIn?_concat (cells : List (Int × CellNames)) (c : Int × CellNames) (name : String) :
    writerIn? (cells ++ [c]) name =
      if name ∈ c.2.assigned then some c.1 else writerIn? cells name := by
  unfold writerIn?
  rw [List.reverse_append, List.reverse_singleton, List.singleton_append, List.find?_cons]
  by_cases h : name ∈ c.2.assigned
  · simp [h]
  · simp [h]

theorem findings_concat (cells : List (Int × CellNames)) (c : Int × CellNames) :
    findings (cells ++ [c]) = findings cells ++ findingsAt cells c := by
  unfold findings
  rw [List.zipIdx_append, List.flatMap_append]
  congr 1
  · apply List.flatMap_congr
    rintro ⟨d, i⟩ h
    have hi : i ≤ cells.length := Nat.le_of_lt (List.mem_zipIdx' h).1
    simp only [List.take_append_of_le_length hi]
  · simp

theorem get?_record (w : Writers Int) (names : List String) (p : Int) (name : String) :
    (w.record names p).get? name = if name ∈ names then some p else w.get? name := by
  unfold Writers.record
  induction names generalizing w with
  | nil => simp
  | cons n names ih =>
    rw [List.foldl_cons, ih, Table.get?_put]
    by_cases h : name ∈ names
    · simp [h]
    · by_cases hn : name = n
      · simp [hn]
      · simp [h, hn]

theorem filter_isGiven (o : Option Int) : o.filter Position.isGiven = o := by
  cases o <;> rfl

theorem foldl_use (consumer : String) (names : List String) (f : Flow Int) :
    names.foldl (use consumer) f =
      ⟨f.writers, List.foldl (fun t e => credit t e.1 [e.2]) f.carried
        (names.filterMap fun name =>
          (f.writers.get? name).map fun p => ((⟨toString p, consumer⟩ : Link), name))⟩ := by
  induction names generalizing f with
  | nil => rfl
  | cons name names ih =>
    rw [List.foldl_cons, ih, use, filter_isGiven]
    cases h : f.writers.get? name with
    | none => simp [h]
    | some p => simp [h, Position.text]

/-- The writers are the last ones of the cells gone through, and the table is that of the
findings there. -/
theorem ofCells_eq (cells : List (Int × CellNames)) :
    (∀ name, (ofCells cells).writers.get? name = writerIn? cells name) ∧
      (ofCells cells).carried = (findings cells).foldl (fun t e => credit t e.1 [e.2]) .empty := by
  induction cells using List.reverseRecOn with
  | nil => exact ⟨fun _ => rfl, rfl⟩
  | append_singleton cells c ih =>
    obtain ⟨hw, hc⟩ := ih
    have hs : ofCells (cells ++ [c]) = (ofCells cells).step c.1 c.2 := by simp [ofCells]
    rw [hs, step, foldl_use]
    constructor
    · intro name
      rw [get?_record, hw, writerIn?_concat]
      rfl
    · rw [findings_concat, List.foldl_append, ← hc]
      simp only [hw]
      rfl

section

variable {ε : Type} (link : ε → Link) (names : ε → List String)

theorem keys_foldl_credit (l : List ε) :
    (l.foldl (fun t e => credit t (link e) (names e)) .empty).keys = (l.map link).eraseDups := by
  rw [← foldl_addNew_nil]
  exact Table.keys_foldl_put link _ l .empty

theorem mem_foldl_credit (l : List ε) (t : Table Link NameSet) (k : Link) (name : String) :
    name ∈ ((l.foldl (fun t e => credit t (link e) (names e)) t).get? k).getD .empty ↔
      (∃ e ∈ l, link e = k ∧ name ∈ names e) ∨ name ∈ (t.get? k).getD .empty := by
  induction l generalizing t with
  | nil => simp
  | cons e l ih =>
    rw [List.foldl_cons, ih, credit, Table.get?_put]
    by_cases h : k = link e
    · subst h
      simp only [beq_self_eq_true, if_true, Option.getD_some, NameSet.mem_insertAll, List.mem_cons,
        exists_eq_or_imp, true_and]
      rw [or_left_comm, or_assoc]
    · simp [h, Ne.symm h]

end

theorem links_ofCells (cells : List (Int × CellNames)) :
    (ofCells cells).links = ((findings cells).map (·.1)).eraseDups := by
  rw [links, (ofCells_eq cells).2, keys_foldl_credit]

theorem mem_links_ofCells {cells : List (Int × CellNames)} {l : Link} :
    l ∈ (ofCells cells).links ↔ ∃ name, (l, name) ∈ findings cells := by
  rw [links_ofCells, List.mem_eraseDups, List.mem_map]
  constructor
  · rintro ⟨e, he, rfl⟩
    exact ⟨e.2, he⟩
  · rintro ⟨name, h⟩
    exact ⟨(l, name), h, rfl⟩

theorem mem_namesOn_ofCells {cells : List (Int × CellNames)} {l : Link} {name : String} :
    name ∈ (ofCells cells).namesOn l ↔ (l, name) ∈ findings cells := by
  rw [namesOn, ← NameSet.mem_def, (ofCells_eq cells).2, mem_foldl_credit]
  constructor
  · rintro (⟨e, he, rfl, hn⟩ | hn)
    · rwa [List.mem_singleton.1 hn]
    · simp at hn
  · intro h
    exact .inl ⟨(l, name), h, rfl, List.mem_singleton_self name⟩

theorem ascending_namesOn (f : Flow Int) (l : Link) : (f.namesOn l).Pairwise (· < ·) :=
  ((f.carried.get? l).getD .empty).ascending

theorem namesOn_eq_nil_of_not_mem {cells : List (Int × CellNames)} {l : Link} (h : l ∉ (ofCells cells).links) :
    (ofCells cells).namesOn l = [] := by
  rw [List.eq_nil_iff_forall_not_mem]
  intro name hn
  exact h (mem_links_ofCells.2 ⟨name, mem_namesOn_ofCells.1 hn⟩)

end CellFlow.Flow
