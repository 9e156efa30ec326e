import CellFlow.Graph.Group
import CellFlow.Proofs.Data.First
import CellFlow.Proofs.Data.Outcome
import CellFlow.Proofs.Number.Bits

/-!
Records of groups: which group a record describes, and what is wrong with a record that describes
none. The first such record ends the reading and is named, unless what ends it is a bound without
end: this failure is not one of those that are reported with their record.
-/

set_option autoImplicit false

namespace CellFlow

namespace Value

/-- The whole numbers that are given as such: integers, and texts that read as one. -/
inductive IsWhole : Value → Int → Prop where
  | int (n : Int) : IsWhole (.int n) n
  | text {s : String} {n : Int} (h : Number.readInteger s.toList = .value n) : IsWhole (.text s) n

/-- What is taken for a whole number: one that is given as such, a truth value as zero or one, and
a finite real without what stands behind its point. -/
inductive StandsFor : Value → Int → Prop where
  | whole {v : Value} {n : Int} (h : v.IsWhole n) : StandsFor v n
  | bool (b : Bool) : StandsFor (.bool b) (ofBool b)
  | real {x : Float} (hn : x.isNaN = false) (hi : x.isInf = false) : StandsFor (.float x) (Number.truncate x)

def IsInfinite (v : Value) : Prop := ∃ x : Float, v = .float x ∧ x.isInf = true

variable {v : Value} {n : Int} {f : Fault}

/-- A value gives the whole number that it stands for, or a failure that tells infinities apart. -/
theorem toInteger_cases (v : Value) : (∃ n, v.toInteger = .ok n ∧ v.StandsFor n) ∨
    (v.toInteger = .error .integerOfInfinity ∧ v.IsInfinite) ∨
    ∃ f, v.toInteger = .error f ∧ (f.category = .type ∨ f.category = .value) ∧ ¬ v.IsInfinite := by
  cases v with
  | null => exact .inr (.inr ⟨_, rfl, .inl rfl, fun ⟨_, h, _⟩ => by cases h⟩)
  | bool b => exact .inl ⟨_, rfl, .bool b⟩
  | int n => exact .inl ⟨_, rfl, .whole (.int n)⟩
  | float x =>
    rw [toInteger]
    by_cases hi : x.isInf = true
    · rw [if_neg (by rw [Number.isNaN_of_isInf hi]; exact Bool.false_ne_true), if_pos hi]
      exact .inr (.inl ⟨rfl, x, rfl, hi⟩)
    · by_cases hn : x.isNaN = true
      · rw [if_pos hn]
        exact .inr (.inr ⟨_, rfl, .inr rfl, fun ⟨_, h, h'⟩ => hi (by cases h; exact h')⟩)
      · rw [if_neg hn, if_neg hi]
        exact .inl ⟨_, rfl, .real (Bool.eq_false_iff.2 hn) (Bool.eq_false_iff.2 hi)⟩
  | text s =>
    have hs : ¬ (text s).IsInfinite := fun ⟨_, h, _⟩ => by cases h
    rw [toInteger]
    cases hr : Number.readInteger s.toList with
    | value n => exact .inl ⟨n, rfl, .whole (.text hr)⟩
    | tooLong n => exact .inr (.inr ⟨_, rfl, .inr rfl, hs⟩)
    | malformed => exact .inr (.inr ⟨_, rfl, .inr rfl, hs⟩)
  | list xs => exact .inr (.inr ⟨_, rfl, .inl rfl, fun ⟨_, h, _⟩ => by cases h⟩)
  | object fs => exact .inr (.inr ⟨_, rfl, .inl rfl, fun ⟨_, h, _⟩ => by cases h⟩)

theorem StandsFor.toInteger (h : v.StandsFor n) : v.toInteger = .ok n := by
  cases h with
  | whole h =>
    cases h with
    | int => rfl
    | text h => simp only [Value.toInteger, h]
  | bool b => rfl
  | real hn hi => rw [Value.toInteger, hn, hi, if_neg Bool.false_ne_true, if_neg Bool.false_ne_true]

theorem StandsFor.unique {m : Int} (h : v.StandsFor m) (h' : v.StandsFor n) : m = n :=
  Except.ok.inj (h.toInteger.symm.trans h'.toInteger)

theorem IsInfinite.not_standsFor (h : v.IsInfinite) (n : Int) : ¬ v.StandsFor n := by
  obtain ⟨x, rfl, hi⟩ := h
  intro h
  cases h with
  | whole h => cases h
  | real _ h => exact Bool.false_ne_true (h.symm.trans hi)

end Value

namespace Group

/-- The group that a record describes, for a rule that says which numbers bounds stand for. -/
def Describes (bound : Value → Int → Prop) (record : Value) (g : Group) : Prop :=
  ∃ fs label first last, record = .object fs ∧ Fields.get? fs "label" = some label ∧
    Fields.get? fs "cell_start" = some first ∧ Fields.get? fs "cell_end" = some last ∧
    g.label = label.shown ∧ bound first g.first ∧ bound last g.last

def fieldNames : List String := ["label", "cell_start", "cell_end"]

def boundNames : List String := ["cell_start", "cell_end"]

/-- What can be wrong with a record. -/
inductive Offends (bound : Value → Int → Prop) : Value → Prop where
  | notObject {record : Value} (h : ∀ fs, record ≠ .object fs) : Offends bound record
  | lacks {fs : Fields} {name : String} (hn : name ∈ fieldNames) (h : Fields.get? fs name = none) :
    Offends bound (.object fs)
  | notWhole {fs : Fields} {name : String} {v : Value} (hn : name ∈ boundNames)
    (hv : Fields.get? fs name = some v) (h : ∀ n, ¬ bound v n) : Offends bound (.object fs)
  | backward {fs : Fields} {first last : Value} {m n : Int} (hf : Fields.get? fs "cell_start" = some first)
    (hl : Fields.get? fs "cell_end" = some last) (hm : bound first m) (hn : bound last n) (h : n < m) :
    Offends bound (.object fs)

/-- The bound that a reading of the record ends at is infinite. -/
def IsEndless (record : Value) : Prop :=
  ∃ fs label first, record = .object fs ∧ Fields.get? fs "label" = some label ∧
    Fields.get? fs "cell_start" = some first ∧
    (first.IsInfinite ∨ ∃ m last, first.StandsFor m ∧ Fields.get? fs "cell_end" = some last ∧ last.IsInfinite)

theorem isRecordFailure_fault {f : Fault} (h : f.category = .type ∨ f.category = .value ∨ f.category = .key) :
    isRecordFailure (.fault f) = true := by
  have hk : (Failure.fault f).kindName = f.category.name := rfl
  unfold isRecordFailure Failure.isValueFailure
  rw [hk]
  rcases h with h | h | h <;> rw [h] <;> decide

/-- What a reading of a record ends with. -/
inductive Reads (record : Value) : Outcome Group → Prop where
  | described {g : Group} (h : Describes Value.StandsFor record g) : Reads record (.ok g)
  | endless (h : IsEndless record) (ho : Offends Value.StandsFor record) :
    Reads record (.error (.fault .integerOfInfinity))
  | offending {f : Failure} (h : ¬ IsEndless record) (ho : Offends Value.StandsFor record)
    (hf : isRecordFailure f = true) : Reads record (.error f)

section Reading

variable {fs : Fields} {label first last : Value} {m n : Int}

theorem not_isEndless_of_ne_object {record : Value} (h : ∀ fs, record ≠ .object fs) : ¬ IsEndless record := by
  rintro ⟨fs, _, _, rfl, -⟩
  exact h fs rfl

theorem isEndless_iff (hl : Fields.get? fs "label" = some label) (hf : Fields.get? fs "cell_start" = some first) :
    IsEndless (.object fs) ↔ first.IsInfinite ∨
      ∃ m last, first.StandsFor m ∧ Fields.get? fs "cell_end" = some last ∧ last.IsInfinite := by
  constructor
  · rintro ⟨gs, label', first', he, hl', hf', h⟩
    cases he
    obtain rfl := Option.some.inj (hf.symm.trans hf')
    exact h
  · intro h
    exact ⟨fs, label, first, rfl, hl, hf, h⟩

theorem reads_last (hl : Fields.get? fs "label" = some label) (hf : Fields.get? fs "cell_start" = some first)
    (hm : first.StandsFor m) : Reads (.object fs) (ofRecord (.object fs)) := by
  have hendless : IsEndless (.object fs) ↔ ∃ last, Fields.get? fs "cell_end" = some last ∧ last.IsInfinite := by
    rw [isEndless_iff hl hf]
    constructor
    · rintro (h | ⟨_, last, _, h⟩)
      · exact absurd hm (h.not_standsFor m)
      · exact ⟨last, h⟩
    · rintro ⟨last, h⟩
      exact .inr ⟨m, last, hm, h⟩
  simp only [ofRecord, Value.field, hl, hf, hm.toInteger, liftM_ok, ok_bind]
  cases hs : Fields.get? fs "cell_end" with
  | none =>
    refine .offending (fun h => ?_) (.lacks (by decide) hs) (isRecordFailure_fault (.inr (.inr rfl)))
    obtain ⟨last, h, -⟩ := hendless.1 h
    cases hs.symm.trans h
  | some last =>
    rcases last.toInteger_cases with ⟨n, hr, hn⟩ | ⟨hr, hi⟩ | ⟨f, hr, hc, hi⟩
    · have hfinite : ¬ IsEndless (.object fs) := by
        rintro h
        obtain ⟨last', h, h'⟩ := hendless.1 h
        obtain rfl := Option.some.inj (hs.symm.trans h)
        exact h'.not_standsFor n hn
      simp only [hr, liftM_ok, ok_bind, make]
      split
      · exact .described ⟨fs, label, first, last, rfl, hl, hf, hs, rfl, hm, hn⟩
      · exact .offending hfinite (.backward hf hs hm hn (by omega)) rfl
    · simp only [hr, liftM_ok, ok_bind]
      exact .endless (hendless.2 ⟨last, hs, hi⟩) (.notWhole (by decide) hs hi.not_standsFor)
    · simp only [hr, liftM_ok, ok_bind]
      refine .offending (fun h => ?_) (.notWhole (by decide) hs fun n hn => ?_)
        (isRecordFailure_fault (by tauto))
      · obtain ⟨last', h, h'⟩ := hendless.1 h
        obtain rfl := Option.some.inj (hs.symm.trans h)
        exact hi h'
      · cases hr.symm.trans hn.toInteger

/-- Reading a record gives the group that it describes, or says what is wrong with it. -/
theorem reads_ofRecord (record : Value) : Reads record (ofRecord record) := by
  by_cases ho : ∃ fs, record = .object fs
  · obtain ⟨fs, rfl⟩ := ho
    cases hl : Fields.get? fs "label" with
    | none =>
      simp only [ofRecord, Value.field, hl]
      refine .offending ?_ (.lacks (by decide) hl) (isRecordFailure_fault (.inr (.inr rfl)))
      rintro ⟨_, label, _, he, h, -⟩
      cases he
      cases hl.symm.trans h
    | some label =>
      cases hf : Fields.get? fs "cell_start" with
      | none =>
        simp only [ofRecord, Value.field, hl, hf, liftM_ok, ok_bind]
        refine .offending ?_ (.lacks (by decide) hf) (isRecordFailure_fault (.inr (.inr rfl)))
        rintro ⟨_, _, first, he, _, h, -⟩
        cases he
        cases hf.symm.trans h
      | some first =>
        rcases first.toInteger_cases with ⟨m, -, hm⟩ | ⟨hr, hi⟩ | ⟨f, hr, hc, hi⟩
        · exact reads_last hl hf hm
        · simp only [ofRecord, Value.field, hl, hf, hr, liftM_ok, ok_bind]
          exact .endless ((isEndless_iff hl hf).2 (.inl hi)) (.notWhole (by decide) hf hi.not_standsFor)
        · simp only [ofRecord, Value.field, hl, hf, hr, liftM_ok, ok_bind]
          have hno : ∀ n, ¬ first.StandsFor n := fun n hn => by cases hr.symm.trans hn.toInteger
          refine .offending ?_ (.notWhole (by decide) hf hno) (isRecordFailure_fault (by tauto))
          rw [isEndless_iff hl hf]
          rintro (h | ⟨m, _, h, -⟩)
          · exact hi h
          · exact hno m h
  · have hno : ∀ fs, record ≠ .object fs := fun fs h => ho ⟨fs, h⟩
    have hendless := not_isEndless_of_ne_object hno
    cases record with
    | object fs => exact absurd rfl (hno fs)
    | null => exact .offending hendless (.notObject hno) (isRecordFailure_fault (.inl rfl))
    | bool b => exact .offending hendless (.notObject hno) (isRecordFailure_fault (.inl rfl))
    | int n => exact .offending hendless (.notObject hno) (isRecordFailure_fault (.inl rfl))
    | float x => exact .offending hendless (.notObject hno) (isRecordFailure_fault (.inl rfl))
    | text s => exact .offending hendless (.notObject hno) (isRecordFailure_fault (.inl rfl))
    | list xs => exact .offending hendless (.notObject hno) (isRecordFailure_fault (.inl rfl))

end Reading

theorem read_cases (record : Value) : (∃ g, read record = .ok g ∧ Describes Value.StandsFor record g) ∨
    Offends Value.StandsFor record ∧ (IsEndless record ∧ read record = .error (.fault .integerOfInfinity) ∨
      ¬ IsEndless record ∧ ∃ cause, read record = .error (.invalidGroup record cause)) := by
  have h := reads_ofRecord record
  unfold read
  cases hr : ofRecord record with
  | ok g =>
    rw [hr] at h
    cases h with
    | described h => exact .inl ⟨g, rfl, h⟩
  | error f =>
    rw [hr] at h
    cases h with
    | endless h ho => exact .inr ⟨ho, .inl ⟨h, rfl⟩⟩
    | offending h ho hf => exact .inr ⟨ho, .inr ⟨h, f, by simp only [hf, if_true]⟩⟩

section Describing

variable {bound bound' : Value → Int → Prop} {record : Value} {g g' : Group}

/-- No value stands for two numbers. -/
def IsFunctional (bound : Value → Int → Prop) : Prop := ∀ v m n, bound v m → bound v n → m = n

theorem isFunctional_standsFor : IsFunctional Value.StandsFor := fun _ _ _ hm hn => hm.unique hn

theorem isFunctional_isWhole : IsFunctional Value.IsWhole := fun _ _ _ hm hn =>
  Value.StandsFor.unique (.whole hm) (.whole hn)

theorem Describes.mono (h : Describes bound record g) (hb : ∀ v n, bound v n → bound' v n) :
    Describes bound' record g := by
  obtain ⟨fs, label, first, last, rfl, hl, hf, hs, hg, hm, hn⟩ := h
  exact ⟨fs, label, first, last, rfl, hl, hf, hs, hg, hb _ _ hm, hb _ _ hn⟩

theorem Describes.unique (hb : IsFunctional bound) (h : Describes bound record g)
    (h' : Describes bound record g') : g = g' := by
  obtain ⟨fs, label, first, last, rfl, hl, hf, hs, hg, hm, hn⟩ := h
  obtain ⟨fs', label', first', last', he, hl', hf', hs', hg', hm', hn'⟩ := h'
  cases he
  obtain rfl := Option.some.inj (hl.symm.trans hl')
  obtain rfl := Option.some.inj (hf.symm.trans hf')
  obtain rfl := Option.some.inj (hs.symm.trans hs')
  obtain ⟨lab, m, n, _⟩ := g
  obtain ⟨lab', m', n', _⟩ := g'
  obtain rfl : lab = lab' := hg.trans hg'.symm
  obtain rfl : m = m' := hb _ _ _ hm hm'
  obtain rfl : n = n' := hb _ _ _ hn hn'
  rfl

theorem describes_or_offends (bound : Value → Int → Prop) (record : Value) :
    (∃ g, Describes bound record g) ∨ Offends bound record := by
  by_cases ho : ∃ fs, record = .object fs
  · obtain ⟨fs, rfl⟩ := ho
    by_cases hfields : ∀ name ∈ fieldNames, (Fields.get? fs name).isSome
    · obtain ⟨label, hl⟩ := Option.isSome_iff_exists.1 (hfields "label" (by decide))
      obtain ⟨first, hf⟩ := Option.isSome_iff_exists.1 (hfields "cell_start" (by decide))
      obtain ⟨last, hs⟩ := Option.isSome_iff_exists.1 (hfields "cell_end" (by decide))
      by_cases hm : ∃ m, bound first m
      · by_cases hn : ∃ n, bound last n
        · obtain ⟨m, hm⟩ := hm
          obtain ⟨n, hn⟩ := hn
          by_cases hmn : m ≤ n
          · exact .inl ⟨⟨label.shown, m, n, hmn⟩, fs, label, first, last, rfl, hl, hf, hs, rfl, hm, hn⟩
          · exact .inr (.backward hf hs hm hn (by omega))
        · exact .inr (.notWhole (by decide : "cell_end" ∈ boundNames) hs (not_exists.1 hn))
      · exact .inr (.notWhole (by decide : "cell_start" ∈ boundNames) hf (not_exists.1 hm))
    · obtain ⟨name, hn, h⟩ := not_forall₂.1 hfields
      exact .inr (.lacks hn (Option.not_isSome_iff_eq_none.1 h))
  · exact .inr (.notObject fun fs h => ho ⟨fs, h⟩)

theorem Offends.not_describes (hb : IsFunctional bound) (h : Offends bound record) (g : Group) :
    ¬ Describes bound record g := by
  rintro ⟨fs, label, first, last, rfl, hl, hf, hs, -, hm, hn⟩
  cases h with
  | notObject h => exact h fs rfl
  | lacks hname h =>
    simp only [fieldNames, List.mem_cons, List.not_mem_nil, or_false] at hname
    rcases hname with rfl | rfl | rfl <;> simp_all
  | notWhole hname hv h =>
    simp only [boundNames, List.mem_cons, List.not_mem_nil, or_false] at hname
    rcases hname with rfl | rfl
    · obtain rfl := Option.some.inj (hf.symm.trans hv)
      exact h _ hm
    · obtain rfl := Option.some.inj (hs.symm.trans hv)
      exact h _ hn
  | backward hf' hs' hm' hn' h =>
    obtain rfl := Option.some.inj (hf.symm.trans hf')
    obtain rfl := Option.some.inj (hs.symm.trans hs')
    have := g.first_le_last
    have := hb _ _ _ hm hm'
    have := hb _ _ _ hn hn'
    omega

theorem offends_iff (hb : IsFunctional bound) : Offends bound record ↔ ¬ ∃ g, Describes bound record g :=
  ⟨fun h ⟨g, hg⟩ => h.not_describes hb g hg, (describes_or_offends bound record).resolve_left⟩

end Describing

/-- The verdict on a list of records: the groups that they describe, in their order, or the first
record that describes none. -/
def IsVerdict (bound : Value → Int → Prop) (records : List Value) (o : Outcome (List Group)) : Prop :=
  (∃ groups, o = .ok groups ∧ List.Forall₂ (Describes bound) records groups) ∨
  ∃ before record after cause, records = before ++ record :: after ∧
    (∀ r ∈ before, ∃ g, Describes bound r g) ∧ Offends bound record ∧
    o = .error (.invalidGroup record cause)

theorem describes_of_read {record : Value} {g : Group} (h : read record = .ok g) :
    Describes Value.StandsFor record g := by
  rcases read_cases record with ⟨g', hr, hg⟩ | ⟨-, ⟨-, hr⟩ | ⟨-, cause, hr⟩⟩
  · obtain rfl := Except.ok.inj (h.symm.trans hr)
    exact hg
  · cases h.symm.trans hr
  · cases h.symm.trans hr

theorem readAll_cases (records : List Value) :
    (∃ groups, readAll (.list records) = .ok groups ∧
      List.Forall₂ (Describes Value.StandsFor) records groups) ∨
    ∃ before record after, records = before ++ record :: after ∧
      (∀ r ∈ before, ∃ g, Describes Value.StandsFor r g) ∧ Offends Value.StandsFor record ∧
      (IsEndless record ∧ readAll (.list records) = .error (.fault .integerOfInfinity) ∨
        ¬ IsEndless record ∧ ∃ cause, readAll (.list records) = .error (.invalidGroup record cause)) := by
  have hall : readAll (.list records) = records.mapM read := rfl
  rw [hall]
  rcases mapM_cases read records with ⟨groups, hm, h⟩ | ⟨before, record, after, f, he, hb, hr, hm⟩
  · exact .inl ⟨groups, hm, h.imp fun _ _ => describes_of_read⟩
  · rw [hm]
    refine .inr ⟨before, record, after, he, fun r h => (hb r h).imp fun _ => describes_of_read, ?_⟩
    rcases read_cases record with ⟨g, hg, -⟩ | ⟨ho, ⟨h, hg⟩ | ⟨h, cause, hg⟩⟩
    · cases hr.symm.trans hg
    · exact ⟨ho, .inl ⟨h, congrArg _ (Except.error.inj (hr.symm.trans hg))⟩⟩
    · exact ⟨ho, .inr ⟨h, cause, congrArg _ (Except.error.inj (hr.symm.trans hg))⟩⟩

theorem forall₂_isWhole {records : List Value} {groups : List Group}
    (h : List.Forall₂ (Describes Value.StandsFor) records groups)
    (hw : ∀ r ∈ records, ∃ g, Describes Value.IsWhole r g) :
    List.Forall₂ (Describes Value.IsWhole) records groups := by
  induction h with
  | nil => exact .nil
  | @cons r g rs gs hr _ ih =>
    obtain ⟨g', hg⟩ := hw r List.mem_cons_self
    obtain rfl := hr.unique isFunctional_standsFor (hg.mono fun _ _ => .whole)
    exact .cons hg (ih fun r hr => hw r (List.mem_cons_of_mem _ hr))

/-- Reading ends with all groups or with the first record that describes none, where truth values and
finite reals count as bounds; that record is named unless the bound that fails is infinite. So the
verdict is the one for bounds that are given as integers or their texts, just when the first record
that breaks this rule breaks the wider one as well, by another bound than an infinite one. -/
theorem readAll_verdict (records : List Value) :
    ((∃ groups, readAll (.list records) = .ok groups ∧
      List.Forall₂ (Describes Value.StandsFor) records groups) ∨
    ∃ before record after, records = before ++ record :: after ∧
      (∀ r ∈ before, ∃ g, Describes Value.StandsFor r g) ∧ Offends Value.StandsFor record ∧
      (IsEndless record ∧ readAll (.list records) = .error (.fault .integerOfInfinity) ∨
        ¬ IsEndless record ∧ ∃ cause, readAll (.list records) = .error (.invalidGroup record cause))) ∧
    (IsVerdict Value.IsWhole records (readAll (.list records)) ↔
      ∀ before record after, records = before ++ record :: after →
        (∀ r ∈ before, ∃ g, Describes Value.IsWhole r g) → Offends Value.IsWhole record →
        Offends Value.StandsFor record ∧ ¬ IsEndless record) := by
  refine ⟨readAll_cases records, ?_, ?_⟩
  · intro hv before record after he hb ho
    have hno := (offends_iff isFunctional_isWhole).1 ho
    rcases hv with ⟨groups, -, hall⟩ | ⟨before', record', after', cause, he', hb', ho', herr⟩
    · obtain ⟨g, -, hg⟩ := exists_of_mem_forall₂ hall.flip (by rw [he]; simp : record ∈ records)
      exact absurd ⟨g, hg⟩ hno
    · obtain rfl := eq_of_first (he.symm.trans he') hb hno hb' ((offends_iff isFunctional_isWhole).1 ho')
      rcases readAll_cases records with ⟨groups, hok, -⟩ | ⟨_, record, _, _, _, ho, ⟨_, h⟩ | ⟨hn, _, h⟩⟩
      · cases herr.symm.trans hok
      · cases herr.symm.trans h
      · cases herr.symm.trans h
        exact ⟨ho, hn⟩
  · intro h
    rcases readAll_cases records with ⟨groups, hok, hall⟩ | ⟨before, record, after, he, hb, ho, hr⟩
    · refine .inl ⟨groups, hok, forall₂_isWhole hall ?_⟩
      by_contra hw
      obtain ⟨before, record, after, he, hb, hn⟩ := exists_first_not hw
      obtain ⟨ho, -⟩ := h before record after he hb ((offends_iff isFunctional_isWhole).2 hn)
      obtain ⟨g, -, hg⟩ := exists_of_mem_forall₂ hall.flip (by rw [he]; simp : record ∈ records)
      exact ho.not_describes isFunctional_standsFor g hg
    · have hno := (offends_iff isFunctional_standsFor).1 ho
      have hmono : ∀ r, (∃ g, Describes Value.IsWhole r g) → ∃ g, Describes Value.StandsFor r g :=
        fun r hr => hr.imp fun g hg => hg.mono fun _ _ => .whole
      have hw : ¬ ∀ r ∈ records, ∃ g, Describes Value.IsWhole r g := fun hw =>
        hno (hmono record (hw record (by rw [he]; simp)))
      obtain ⟨before', record', after', he', hb', hn'⟩ := exists_first_not hw
      have how := (offends_iff isFunctional_isWhole).2 hn'
      obtain ⟨ho', hendless⟩ := h before' record' after' he' hb' how
      obtain rfl := eq_of_first (he.symm.trans he') hb hno (fun r hr => hmono r (hb' r hr))
        ((offends_iff isFunctional_standsFor).1 ho')
      rcases hr with ⟨hr, -⟩ | ⟨-, cause, hr⟩
      · exact absurd hr hendless
      · exact .inr ⟨before', record, after', cause, he', hb', how, hr⟩

/-- An infinite bound ends the reading with a failure that names no record. -/
theorem not_isVerdict_readAll :
    ¬ ∀ records, IsVerdict Value.IsWhole records (readAll (.list records)) := by
  intro h
  let record : Value :=
    .object [("label", .text "a"), ("cell_start", .int 1), ("cell_end", .float (1.0 / 0.0))]
  have hr : readAll (.list [record]) = .error (.fault .integerOfInfinity) := by rfl
  rcases h [record] with ⟨groups, hok, -⟩ | ⟨_, _, _, _, -, -, -, herr⟩
  · cases hr.symm.trans hok
  · cases hr.symm.trans herr

end Group

end CellFlow
