import CellFlow.Proofs.Notebook.Documents
import CellFlow.Proofs.Number.Reading

/-!
Cells of traces: one for each row with a source, with the count that its number stands for.
A number is read as a double first, so a count is the nearest double to what is spelled, and no
count can be made of infinity.
-/

set_option autoImplicit false

namespace CellFlow.Notebook

namespace Trace

variable (header : Text.FieldRow)

def hasSource (row : Text.FieldRow) : Bool := (fieldOf? header row sourceColumn).isSome

def number? (row : Text.FieldRow) : Option String := fieldOf? header row executionColumn

/-- A header with just the columns that are asked for. -/
def columns : Text.FieldRow := [executionColumn, sourceColumn]

/-- The double that a field is read as. -/
def reading? (field : Option String) : Option Float := field.bind fun s => Number.readReal s.toList

def IsEndless (field : Option String) : Prop := ∃ x, reading? field = some x ∧ x.isInf = true

/-- The count that a field stands for: null for what is no number, and else an integer, the double
nearest to the one that is spelled. -/
structure IsCount (field : Option String) (count : Value) : Prop where
  blank : (∀ s, field = some s → ∀ c ∈ s.toList, Text.isBlank c = true) → count = .null
  unread : (∀ x, reading? field = some x → x.isNaN = true) → count = .null
  real : ∀ x, reading? field = some x → x.isFinite = true → count = .int (Number.truncate x)
  integer : ∀ s n, field = some s → Number.spelled? s.toList = some n →
    ∃ k, count = .int k ∧ Number.IsNearestDouble k n ∧ (k = n ↔ Number.IsDouble n)

/-- The cell of a row. -/
structure Holds (row : Text.FieldRow) (c : Cell) : Prop where
  source : ∃ s, fieldOf? header row sourceColumn = some s ∧ c.source = .text s
  count : IsCount (number? header row) c.executionCount
  outputs : c.outputs = []
  label : c.label = .null

/-- The cells of a trace: one for each row that has a source, in their order, numbered from one on. -/
structure AreCellsOf (rows : List Text.FieldRow) (cells : List Cell) : Prop where
  holds : List.Forall₂ (Holds header) (rows.filter (hasSource header)) cells
  numbered : AreNumberedFrom 1 cells

variable {header}

theorem isCount_null {field : Option String} (h : ∀ x, reading? field = some x → x.isNaN = true) :
    IsCount field .null ∧ ¬ IsEndless field := by
  refine ⟨⟨fun _ => rfl, fun _ => rfl, fun x hx hfinite => ?_, fun s n hs hn => ?_⟩, ?_⟩
  · rw [Number.isFinite_eq, h x hx] at hfinite
    cases hfinite
  · obtain ⟨x, hx, hfinite, hinf⟩ := Number.readReal_of_spelled hn
    have hnan := h x (by rw [hs]; exact hx)
    rcases Nat.lt_or_ge n.natAbs Number.limit with hlt | hle
    · have := (hfinite hlt).1
      rw [Number.isFinite_eq, hnan] at this
      cases this
    · cases hnan.symm.trans (Number.isNaN_of_isInf (hinf hle))
  · rintro ⟨x, hx, hinf⟩
    cases (h x hx).symm.trans (Number.isNaN_of_isInf hinf)

theorem isCount_int {field : Option String} {x : Float} (hx : reading? field = some x) (hfinite : x.isFinite = true) :
    IsCount field (.int (Number.truncate x)) ∧ ¬ IsEndless field := by
  have hnan : ¬ x.isNaN = true ∧ ¬ x.isInf = true := by
    rw [Number.isFinite_eq, Bool.and_eq_true, Bool.not_eq_true', Bool.not_eq_true'] at hfinite
    exact ⟨Bool.eq_false_iff.1 hfinite.1, Bool.eq_false_iff.1 hfinite.2⟩
  refine ⟨⟨fun hblank => ?_, fun hn => absurd (hn x hx) hnan.1, fun y hy _ => ?_, fun s n hs hn => ?_⟩, ?_⟩
  · obtain ⟨s, hs, hr⟩ := Option.bind_eq_some_iff.1 hx
    cases hr.symm.trans (Number.readReal_of_isBlank (hblank s hs))
  · rw [Option.some.inj (hx.symm.trans hy)]
  · obtain ⟨y, hy, hnearest, hinf⟩ := Number.readReal_of_spelled hn
    obtain rfl : x = y := by
      rw [hs] at hx
      exact Option.some.inj (hx.symm.trans hy)
    have h := (hnearest (Nat.not_le.1 fun hle => hnan.2 (hinf hle))).2
    exact ⟨_, rfl, h, h.eq_iff⟩
  · rintro ⟨y, hy, hinf⟩
    rw [Option.some.inj (hx.symm.trans hy)] at hnan
    exact hnan.2 hinf

theorem executionCount_cases (field : Option String) :
    (∃ count, executionCount field = .ok count ∧ IsCount field count ∧ ¬ IsEndless field) ∨
    executionCount field = .error .integerOfInfinity ∧ IsEndless field := by
  have hcount : executionCount field = (reading? field).elim (.ok .null) fun x =>
      if x.isNaN then .ok .null else (Value.float x).toInteger.map .int := by
    cases field with
    | none => rfl
    | some s =>
      rw [executionCount, reading?, Option.bind_some]
      cases Number.readReal s.toList <;> rfl
  rw [hcount]
  cases hx : reading? field with
  | none => exact .inl ⟨.null, rfl, isCount_null fun x h => nomatch hx.symm.trans h⟩
  | some x =>
    simp only [Option.elim_some, Value.toInteger]
    by_cases hnan : x.isNaN = true
    · refine .inl ⟨.null, if_pos hnan, isCount_null fun y hy => ?_⟩
      rwa [← Option.some.inj (hx.symm.trans hy)]
    · rw [if_neg hnan, if_neg hnan]
      by_cases hinf : x.isInf = true
      · exact .inr ⟨by rw [if_pos hinf]; rfl, x, hx, hinf⟩
      · have hfinite : x.isFinite = true := by
          rw [Number.isFinite_eq, Bool.eq_false_iff.2 hnan, Bool.eq_false_iff.2 hinf]
          rfl
        exact .inl ⟨_, by rw [if_neg hinf]; rfl, isCount_int hx hfinite⟩

/-- An integer is read as infinity exactly from the limit on. -/
theorem isEndless_spelled {s : String} {n : ℤ} (h : Number.spelled? s.toList = some n) :
    IsEndless (some s) ↔ Number.limit ≤ n.natAbs := by
  obtain ⟨x, hx, hfinite, hinf⟩ := Number.readReal_of_spelled h
  refine ⟨fun ⟨y, hy, hy'⟩ => ?_, fun hle => ⟨x, hx, hinf hle⟩⟩
  obtain rfl : x = y := Option.some.inj (hx.symm.trans hy)
  refine Nat.not_lt.1 fun hlt => ?_
  have := (hfinite hlt).1
  rw [Number.isFinite_eq, hy', Bool.not_true, Bool.and_false] at this
  cases this

/-- All rows before the first that has an infinite number give cells; without such a row all do. -/
theorem cellsFrom_cases (position : Int) (rows : List Text.FieldRow) :
    (∃ cells, cellsFrom header position rows = .ok cells ∧
      List.Forall₂ (Holds header) (rows.filter (hasSource header)) cells ∧ AreNumberedFrom position cells ∧
      ∀ row ∈ rows, hasSource header row = true → ¬ IsEndless (number? header row)) ∨
    cellsFrom header position rows = .error .integerOfInfinity ∧
      ∃ row ∈ rows, hasSource header row = true ∧ IsEndless (number? header row) := by
  induction rows generalizing position with
  | nil => exact .inl ⟨[], rfl, .nil, rfl, fun row h => nomatch h⟩
  | cons row rows ih =>
    rw [cellsFrom]
    cases hs : fieldOf? header row sourceColumn with
    | none =>
      have hno : ¬ hasSource header row = true := by simp [hasSource, hs]
      rw [List.filter_cons_of_neg hno]
      rcases ih position with ⟨cells, hcells, hall, hnumbered, hrows⟩ | ⟨hcells, w, hw, hinf⟩
      · refine .inl ⟨cells, hcells, hall, hnumbered, List.forall_mem_cons.2 ⟨fun h => absurd h hno, hrows⟩⟩
      · exact .inr ⟨hcells, w, List.mem_cons_of_mem row hw, hinf⟩
    | some source =>
      have hyes : hasSource header row = true := by simp [hasSource, hs]
      rw [List.filter_cons_of_pos hyes]
      simp only
      rcases executionCount_cases (number? header row) with ⟨count, hc, hcount, hfinite⟩ | ⟨hc, hinf⟩
      · rw [number?] at hc
        rw [hc, ok_bind]
        rcases ih (position + 1) with ⟨cells, hcells, hall, hnumbered, hrows⟩ | ⟨hcells, w, hw, hinf⟩
        · refine .inl ⟨_, by rw [hcells]; rfl, .cons ⟨⟨source, hs, rfl⟩, hcount, rfl, rfl⟩ hall, ?_,
            List.forall_mem_cons.2 ⟨fun _ => hfinite, hrows⟩⟩
          exact AreNumberedFrom.cons hnumbered
        · exact .inr ⟨by rw [hcells]; rfl, w, List.mem_cons_of_mem row hw, hinf⟩
      · rw [number?] at hc
        exact .inr ⟨by rw [hc]; rfl, row, List.mem_cons_self, hyes, hinf⟩

end Trace

/-- The bytes of a trace: their text splits into a header with both columns and rows, none of them
with a field that is too long to be read. -/
structure HoldsTrace (bytes : ByteArray) (header : Text.FieldRow) (rows : List Text.FieldRow) : Prop where
  exists_text : ∃ text, decode bytes = .ok text ∧ Text.Records.read text.toList = header :: rows
  short : ∀ row ∈ header :: rows, Text.Records.isTooLong row = false
  columns : Trace.missingColumns header = []

section Reading

variable {path : String} {bytes : ByteArray} {header : Text.FieldRow} {rows : List Text.FieldRow}

theorem forM_checkRecord (h : ∀ row ∈ rows, Text.Records.isTooLong row = false) :
    rows.forM (checkRecord path) = .ok () := by
  refine forM_eq_ok_iff.2 fun row hrow => ?_
  rw [checkRecord, h row hrow, if_neg Bool.false_ne_true]

theorem readTrace_eq (path : String) (h : HoldsTrace bytes header rows) :
    readTrace path (.ok bytes) = liftM (Trace.cells header rows) := by
  obtain ⟨⟨text, ht, hr⟩, hshort, hcolumns⟩ := h
  rw [List.forall_mem_cons] at hshort
  have hheader : checkRecord path header = .ok () := by
    rw [checkRecord, hshort.1, if_neg Bool.false_ne_true]
  have htext : reporting path (fun _ => true) (decode bytes) = .ok text := by
    rw [ht]
    rfl
  simp only [readTrace, htext, ok_bind, hr, List.headD_cons, List.tail_cons, hheader, hcolumns, List.isEmpty_nil,
    Bool.not_true, Bool.false_eq_true, if_false, forM_checkRecord hshort.2]

/-- A trace loads as a cell for each row with a source unless one of these rows has a number that is read
as infinity. Integers are read so from a limit on, and from the smaller ones those are kept that are doubles. -/
theorem readTrace_verdict (path : String) (h : HoldsTrace bytes header rows) :
    ((∃ cells, readTrace path (.ok bytes) = .ok cells ∧ Trace.AreCellsOf header rows cells ∧
        ∀ row ∈ rows, Trace.hasSource header row = true → ¬ Trace.IsEndless (Trace.number? header row)) ∨
      readTrace path (.ok bytes) = .error (.fault .integerOfInfinity) ∧
        ∃ row ∈ rows, Trace.hasSource header row = true ∧ Trace.IsEndless (Trace.number? header row)) ∧
    ∀ (s : String) (n : ℤ), Number.spelled? s.toList = some n →
      (Trace.IsEndless (some s) ↔ Number.limit ≤ n.natAbs) := by
  refine ⟨?_, fun s n => Trace.isEndless_spelled⟩
  rw [readTrace_eq path h, Trace.cells]
  rcases Trace.cellsFrom_cases 1 rows with ⟨cells, hcells, hall, hnumbered, hrows⟩ | ⟨hcells, hrow⟩
  · exact .inl ⟨cells, by rw [hcells]; rfl, ⟨hall, hnumbered⟩, hrows⟩
  · exact .inr ⟨by rw [hcells]; rfl, hrow⟩

end Reading

theorem holdsTrace_toUTF8 {text : String} {header : Text.FieldRow} {rows : List Text.FieldRow}
    (h : Text.Records.read text.toList = header :: rows)
    (hshort : ∀ row ∈ header :: rows, Text.Records.isTooLong row = false)
    (hcolumns : Trace.missingColumns header = []) : HoldsTrace text.toUTF8 header rows :=
  ⟨⟨text, by rw [decode, fromUTF8?_toUTF8], h⟩, hshort, hcolumns⟩

theorem readTrace_verdict_short :
    let rows := [["7", "x = 1"], ["8"], ["9007199254740993", "y = x"]]
    let bytes := "execution_number,cell_content\n7,x = 1\n8\n9007199254740993,y = x\n".toUTF8
    HoldsTrace bytes Trace.columns rows ∧ ∃ cells, readTrace "t.csv" (.ok bytes) = .ok cells ∧
      Trace.AreCellsOf Trace.columns rows cells := by
  intro rows bytes
  have h : HoldsTrace bytes Trace.columns rows :=
    holdsTrace_toUTF8 (by decide +kernel) (by decide +kernel) (by decide +kernel)
  obtain ⟨hcells, hendless⟩ := readTrace_verdict "t.csv" h
  refine ⟨h, ?_⟩
  rcases hcells with ⟨cells, hcells, hall, -⟩ | ⟨-, row, hrow, hsource, hinf⟩
  · exact ⟨cells, hcells, hall⟩
  · simp only [rows, List.mem_cons, List.not_mem_nil, or_false] at hrow
    rcases hrow with rfl | rfl | rfl
    · exact absurd ((hendless "7" 7 (by decide +kernel)).1 hinf) (by decide +kernel)
    · exact absurd hsource (by decide +kernel)
    · exact absurd ((hendless "9007199254740993" 9007199254740993 (by decide +kernel)).1 hinf) (by decide +kernel)

/-- An infinite number stops the loading, and an integer of 54 bits is not kept. -/
theorem not_readTrace_total_nor_exact :
    (¬ ∀ (path : String) (bytes : ByteArray) (header : Text.FieldRow) (rows : List Text.FieldRow),
      HoldsTrace bytes header rows → ∃ cells, readTrace path (.ok bytes) = .ok cells) ∧
    ¬ ∀ (path : String) (bytes : ByteArray) (header : Text.FieldRow) (rows : List Text.FieldRow) (cells : List Cell),
      HoldsTrace bytes header rows → readTrace path (.ok bytes) = .ok cells →
        List.Forall₂ (fun row c => ∀ s n, Trace.number? header row = some s → Number.spelled? s.toList = some n →
          c.executionCount = .int n) (rows.filter (Trace.hasSource header)) cells := by
  constructor
  · intro hall
    have h : HoldsTrace "execution_number,cell_content\ninf,x = 1\n".toUTF8 Trace.columns [["inf", "x = 1"]] :=
      holdsTrace_toUTF8 (by decide +kernel) (by decide +kernel) (by decide +kernel)
    obtain ⟨cells, hcells⟩ := hall "t.csv" _ _ _ h
    have hinf : Trace.cells Trace.columns [["inf", "x = 1"]] = .error .integerOfInfinity := by rfl
    rw [readTrace_eq _ h, hinf] at hcells
    cases hcells
  · intro hall
    let row : Text.FieldRow := ["9007199254740993", "y = x"]
    have h : HoldsTrace "execution_number,cell_content\n9007199254740993,y = x\n".toUTF8 Trace.columns [row] :=
      holdsTrace_toUTF8 (by decide +kernel) (by decide +kernel) (by decide +kernel)
    have hs : Number.spelled? "9007199254740993".toList = some 9007199254740993 := by decide +kernel
    have hfield : Trace.number? Trace.columns row = some "9007199254740993" := by decide +kernel
    have hfilter : [row].filter (Trace.hasSource Trace.columns) = [row] := by decide +kernel
    have hread := readTrace_eq "t.csv" h
    rcases Trace.cellsFrom_cases 1 [row] with ⟨cells, hcells, hholds, -, -⟩ | ⟨-, w, hw, -, hinf⟩
    · have hexact := hall "t.csv" _ _ _ cells h (by rw [hread, Trace.cells, hcells]; rfl)
      rw [hfilter] at hexact hholds
      cases hholds with
      | cons hc _ =>
        cases hexact with
        | cons he _ =>
          obtain ⟨k, hk, -, hkn⟩ := hc.count.integer _ _ hfield hs
          have hn : k = 9007199254740993 := Value.int.inj (hk.symm.trans (he _ _ hfield hs))
          exact Number.not_isDouble_two_pow_add_one (hkn.1 hn)
    · obtain rfl := List.mem_singleton.1 hw
      rw [hfield, Trace.isEndless_spelled hs] at hinf
      exact absurd hinf (by decide +kernel)

end CellFlow.Notebook
