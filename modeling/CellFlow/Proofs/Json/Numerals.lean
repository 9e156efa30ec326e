import CellFlow.Json.Reader
import CellFlow.Json.Writer
import CellFlow.Proofs.Data.Outcome
import Mathlib.Data.List.TakeWhile

/-!
Numbers in JSON: what follows a number does not change how the number is read, and what is
written for an integer reads as that integer.
-/

set_option autoImplicit false

namespace CellFlow.Json

/-- What stands behind a value that was written. -/
inductive EndsValue : List Char → Prop
  | nil : EndsValue []
  | comma (t : List Char) : EndsValue (',' :: t)
  | bracket (t : List Char) : EndsValue (']' :: t)
  | brace (t : List Char) : EndsValue ('\x7d' :: t)
  | line (t : List Char) : EndsValue ('\n' :: t)

section

variable {rest : List Char}

theorem takeWhile_append_ends {p : Char → Bool} (h : ∀ c ∈ rest.head?, p c = false) (s : List Char) :
    (s ++ rest).takeWhile p = s.takeWhile p := by
  induction s with
  | nil =>
    cases rest with
    | nil => rfl
    | cons c t =>
      have hc : p c = false := h c rfl
      simp [hc]
  | cons c s ih =>
    rw [List.cons_append, List.takeWhile_cons, List.takeWhile_cons, ih]

theorem dropWhile_append_ends {p : Char → Bool} (h : ∀ c ∈ rest.head?, p c = false) (s : List Char) :
    (s ++ rest).dropWhile p = s.dropWhile p ++ rest := by
  induction s with
  | nil =>
    cases rest with
    | nil => rfl
    | cons c t =>
      have hc : p c = false := h c rfl
      simp [hc]
  | cons c s ih =>
    rw [List.cons_append, List.dropWhile_cons, List.dropWhile_cons, ih]
    split <;> rfl

theorem EndsValue.not_digit (h : EndsValue rest) : ∀ c ∈ rest.head?, c.isDigit = false := by
  cases h <;> simp

theorem asciiDigits_append (hr : EndsValue rest) (s : List Char) :
    asciiDigits (s ++ rest) = ((asciiDigits s).1, (asciiDigits s).2 ++ rest) := by
  rw [asciiDigits, takeWhile_append_ends hr.not_digit, dropWhile_append_ends hr.not_digit, asciiDigits]

theorem readFraction_append (hr : EndsValue rest) (s : List Char) :
    readFraction (s ++ rest) = (readFraction s).map fun p => (p.1, p.2 ++ rest) := by
  cases s with
  | nil => cases hr <;> rfl
  | cons c s =>
    by_cases hc : c = '.'
    · subst hc
      rw [List.cons_append, readFraction, readFraction, asciiDigits_append hr]
      obtain ⟨ds, r⟩ := asciiDigits s
      cases ds <;> rfl
    · have hn (t : List Char) : readFraction (c :: t) = none := by
        rw [readFraction]
        simp [hc]
      rw [List.cons_append, hn, hn]
      rfl

theorem takeSign_append (hr : EndsValue rest) (s : List Char) :
    Number.takeSign (s ++ rest) = ((Number.takeSign s).1, (Number.takeSign s).2 ++ rest) := by
  cases s with
  | nil => cases hr <;> rfl
  | cons c s =>
    by_cases hm : c = '-'
    · subst hm
      rfl
    · by_cases hp : c = '+'
      · subst hp
        rfl
      · simp [Number.takeSign, hm, hp]

theorem readExponent_append (hr : EndsValue rest) (s : List Char) :
    readExponent (s ++ rest) = (readExponent s).map fun p => (p.1, p.2 ++ rest) := by
  cases s with
  | nil => cases hr <;> rfl
  | cons c s =>
    rw [List.cons_append, readExponent, readExponent]
    split
    · rw [takeSign_append hr]
      obtain ⟨negative, r⟩ := Number.takeSign s
      simp only [asciiDigits_append hr]
      obtain ⟨ds, r'⟩ := asciiDigits r
      cases ds <;> rfl
    · rfl

/-- The digits before the fraction: a zero in front stands alone. -/
def wholeDigits (s : List Char) : List Nat × List Char :=
  match s with
  | '0' :: r => ([0], r)
  | _ => asciiDigits s

def fractionDigits (s : List Char) : Option (List Nat) × List Char :=
  match readFraction s with
  | some (ds, r) => (some ds, r)
  | none => (none, s)

def power (s : List Char) : Option Int × List Char :=
  match readExponent s with
  | some (e, r) => (some e, r)
  | none => (none, s)

/-- The number that its parts make, with the text behind it. -/
def assemble (negative : Bool) (whole : List Nat) (fraction : Option (List Nat)) (exponent : Option Int)
    (rest : List Char) : Step Value :=
  match fraction, exponent with
  | none, none =>
    if Number.maxDigits < whole.length then .error (.tooManyDigits whole.length)
    else
      let n : Int := Number.digitsValue whole
      .ok (.int (if negative then -n else n), rest)
  | _, _ =>
    let ds := fraction.getD []
    let x := Number.ofDecimal (whole ++ ds) (exponent.getD 0 - ds.length)
    .ok (.float (if negative then -x else x), rest)

theorem readNumber_eq (negative : Bool) (start s : List Char) :
    readNumber negative start s =
      if (wholeDigits s).1.isEmpty then complain .value start
      else assemble negative (wholeDigits s).1 (fractionDigits (wholeDigits s).2).1
        (power (fractionDigits (wholeDigits s).2).2).1 (power (fractionDigits (wholeDigits s).2).2).2 := rfl

theorem wholeDigits_append (hr : EndsValue rest) (s : List Char) :
    wholeDigits (s ++ rest) = ((wholeDigits s).1, (wholeDigits s).2 ++ rest) := by
  cases s with
  | nil => cases hr <;> rfl
  | cons c s =>
    by_cases hc : c = '0'
    · subst hc
      rfl
    · have hn (t : List Char) : wholeDigits (c :: t) = asciiDigits (c :: t) := by
        rw [wholeDigits]
        simp [hc]
      rw [List.cons_append, hn, hn, ← List.cons_append, asciiDigits_append hr]

theorem fractionDigits_append (hr : EndsValue rest) (s : List Char) :
    fractionDigits (s ++ rest) = ((fractionDigits s).1, (fractionDigits s).2 ++ rest) := by
  rw [fractionDigits, fractionDigits, readFraction_append hr]
  cases readFraction s <;> rfl

theorem power_append (hr : EndsValue rest) (s : List Char) :
    power (s ++ rest) = ((power s).1, (power s).2 ++ rest) := by
  rw [power, power, readExponent_append hr]
  cases readExponent s <;> rfl

theorem assemble_append {negative : Bool} {whole : List Nat} {fraction : Option (List Nat)} {exponent : Option Int}
    {s r : List Char} {v : Value} (h : assemble negative whole fraction exponent s = .ok (v, r)) :
    assemble negative whole fraction exponent (s ++ rest) = .ok (v, r ++ rest) := by
  cases fraction with
  | some ds =>
    obtain ⟨rfl, rfl⟩ := Prod.mk.inj (Except.ok.inj h)
    rfl
  | none =>
    cases exponent with
    | some e =>
      obtain ⟨rfl, rfl⟩ := Prod.mk.inj (Except.ok.inj h)
      rfl
    | none =>
      rw [assemble] at h ⊢
      split at h
      · cases h
      · rename_i hw
        obtain ⟨rfl, rfl⟩ := Prod.mk.inj (Except.ok.inj h)
        rw [if_neg hw]

/-- What ends a number does not change it. -/
theorem readNumber_append {negative : Bool} {start start' s r : List Char} {v : Value} (hr : EndsValue rest)
    (h : readNumber negative start s = .ok (v, r)) :
    readNumber negative start' (s ++ rest) = .ok (v, r ++ rest) := by
  rw [readNumber_eq] at h ⊢
  simp only [wholeDigits_append hr, fractionDigits_append hr, power_append hr]
  split at h
  · cases h
  · rename_i hw
    rw [if_neg hw]
    exact assemble_append h

end

/-! Integers -/

theorem exists_toDigits_cons (n : Nat) :
    ∃ c t, Nat.toDigits 10 n = c :: t ∧ c.isDigit = true ∧ (c = '0' → n = 0) := by
  induction n using Nat.strongRecOn with
  | ind n ih =>
    by_cases hn : n < 10
    · have he : Nat.toDigits 10 n = [n.digitChar] := Nat.toDigits_of_lt_base hn
      refine ⟨n.digitChar, [], he, ?_, ?_⟩
      · have hm : n.digitChar ∈ Nat.toDigits 10 n := by simp [he]
        exact Nat.isDigit_of_mem_toDigits (by decide) (by decide) hm
      · have hd : ∀ m < 10, m.digitChar = '0' → m = 0 := by decide
        exact hd n hn
    · obtain ⟨c, t, ht, hc, h0⟩ := ih (n / 10) (by omega)
      refine ⟨c, t ++ [(n % 10).digitChar], ?_, hc, fun h => ?_⟩
      · rw [Nat.toDigits_of_base_le (by decide) (by omega), ht, List.cons_append]
      · have := h0 h
        omega

theorem digitsValue_toDigits (n : Nat) :
    Number.digitsValue ((Nat.toDigits 10 n).map fun c => c.toNat - 48) = n := by
  have h : Nat.ofDigitChars 10 (Nat.toDigits 10 n) 0 = n := Nat.ofDigitChars_ten_toDigits
  rw [Nat.ofDigitChars_eq_foldl] at h
  rw [Number.digitsValue, List.foldl_map]
  exact h

theorem wholeDigits_toDigits (n : Nat) :
    wholeDigits (Nat.toDigits 10 n) = ((Nat.toDigits 10 n).map fun c => c.toNat - 48, []) := by
  have hd : ∀ c ∈ Nat.toDigits 10 n, c.isDigit = true := fun c hc =>
    Nat.isDigit_of_mem_toDigits (by decide) (by decide) hc
  have ha : asciiDigits (Nat.toDigits 10 n) = ((Nat.toDigits 10 n).map fun c => c.toNat - 48, []) := by
    rw [asciiDigits, List.takeWhile_eq_self_iff.2 hd, List.dropWhile_eq_nil_iff.2 hd]
  obtain ⟨c, t, ht, -, h0⟩ := exists_toDigits_cons n
  by_cases hc : c = '0'
  · rw [h0 hc]
    rfl
  · rw [← ha, ht]
    simp [wholeDigits, hc]

theorem readNumber_toDigits (negative : Bool) (start : List Char) {n : Nat}
    (hn : (Nat.toDigits 10 n).length ≤ Number.maxDigits) :
    readNumber negative start (Nat.toDigits 10 n) = .ok (.int (if negative then -(n : Int) else n), []) := by
  have hne : (wholeDigits (Nat.toDigits 10 n)).1.isEmpty = false := by
    rw [wholeDigits_toDigits]
    obtain ⟨c, t, ht, -, -⟩ := exists_toDigits_cons n
    rw [ht]
    rfl
  rw [readNumber_eq, hne, wholeDigits_toDigits]
  show (if _ < _ then _ else _) = _
  rw [if_neg (by rw [List.length_map]; omega)]
  simp only [digitsValue_toDigits]
  rfl

/-! Values -/

theorem ne_of_isDigit {c d : Char} (hc : c.isDigit = true) (hd : d.isDigit = false) : d ≠ c := by
  rintro rfl
  rw [hc] at hd
  cases hd

theorem readWord?_of_digit {c : Char} (hc : c.isDigit = true) (r : List Char) : readWord? (c :: r) = none := by
  have hne {d : Char} (hd : d.isDigit = false) : d ≠ c := ne_of_isDigit hc hd
  simp [readWord?, words, hne (d := 'n') rfl, hne (d := 't') rfl, hne (d := 'f') rfl, hne (d := 'N') rfl,
    hne (d := 'I') rfl, hne (d := '-') rfl]

theorem readWord?_of_minus {c : Char} (hc : c.isDigit = true) (r : List Char) :
    readWord? ('-' :: c :: r) = none := by
  have hne : 'I' ≠ c := ne_of_isDigit hc rfl
  simp [readWord?, words, hne]

variable (fuel depth : Nat)

theorem readValue_of_digit {c : Char} (hc : c.isDigit = true) (r : List Char) :
    readValue (fuel + 1) depth (c :: r) = readNumber false (c :: r) (c :: r) := by
  have hq : c ≠ '"' := (ne_of_isDigit hc rfl).symm
  have hl : c ≠ '[' := (ne_of_isDigit hc rfl).symm
  have ho : c ≠ '\x7b' := (ne_of_isDigit hc rfl).symm
  have hm : c ≠ '-' := (ne_of_isDigit hc rfl).symm
  rw [readValue, if_neg hq, if_neg hl, if_neg ho, readWord?_of_digit hc, if_neg hm]

theorem readValue_of_minus {c : Char} (hc : c.isDigit = true) (r : List Char) :
    readValue (fuel + 1) depth ('-' :: c :: r) = readNumber true ('-' :: c :: r) (c :: r) := by
  rw [readValue, readWord?_of_minus hc]
  rfl

theorem readValue_word {w : List Char} {v : Value} (hw : (w, v) ∈ words) (rest : List Char) :
    readValue (fuel + 1) depth (w ++ rest) = .ok (v, rest) := by
  simp only [words, List.mem_cons, List.not_mem_nil, or_false, Prod.mk.injEq] at hw
  rcases hw with ⟨rfl, rfl⟩ | ⟨rfl, rfl⟩ | ⟨rfl, rfl⟩ | ⟨rfl, rfl⟩ | ⟨rfl, rfl⟩ | ⟨rfl, rfl⟩ <;> rfl

theorem toList_toString (n : Int) :
    (toString n).toList = if 0 ≤ n then Nat.toDigits 10 n.natAbs else '-' :: Nat.toDigits 10 n.natAbs := by
  rw [Int.toString_eq_repr, Int.repr_eq_if]
  split
  · rename_i hn
    have ha : n.toNat = n.natAbs := by omega
    rw [Nat.repr_eq_ofList_toDigits, String.toList_ofList, ha]
  · rename_i hn
    have ha : (-n).toNat = n.natAbs := by omega
    rw [String.toList_append, Nat.repr_eq_ofList_toDigits, ha]
    simp

/-- Digits, with or without a sign, are read as the number that they make. -/
theorem readValue_signed {negative : Bool} {c : Char} {t rest : List Char} {v : Value} (hc : c.isDigit = true)
    (hr : EndsValue rest) (start : List Char) (h : readNumber negative start (c :: t) = .ok (v, [])) :
    readValue (fuel + 1) depth ((if negative then '-' :: c :: t else c :: t) ++ rest) = .ok (v, rest) := by
  cases negative with
  | true =>
    show readValue (fuel + 1) depth ('-' :: c :: (t ++ rest)) = _
    rw [readValue_of_minus fuel depth hc]
    exact readNumber_append hr h
  | false =>
    show readValue (fuel + 1) depth (c :: (t ++ rest)) = _
    rw [readValue_of_digit fuel depth hc]
    exact readNumber_append hr h

theorem readValue_int {n : Int} (hn : (Nat.toDigits 10 n.natAbs).length ≤ Number.maxDigits) {rest : List Char}
    (hr : EndsValue rest) : readValue (fuel + 1) depth ((toString n).toList ++ rest) = .ok (.int n, rest) := by
  obtain ⟨c, t, ht, hc, -⟩ := exists_toDigits_cons n.natAbs
  rw [toList_toString]
  split
  · rename_i h
    have hd := readNumber_toDigits false [] hn
    have hv : (n.natAbs : Int) = n := by omega
    rw [ht, if_neg Bool.false_ne_true, hv] at hd
    rw [ht]
    exact readValue_signed fuel depth hc hr [] hd
  · rename_i h
    have hd := readNumber_toDigits true [] hn
    have hv : -(n.natAbs : Int) = n := by omega
    rw [ht, if_pos rfl, hv] at hd
    rw [ht]
    exact readValue_signed fuel depth hc hr [] hd

theorem exists_layout_cons (d : Number.Decimal) : ∃ c t, d.layout = c :: t ∧ c.isDigit = true := by
  obtain ⟨c, t, ht, hc, -⟩ := exists_toDigits_cons d.digits
  rw [Number.Decimal.layout, ht]
  simp only
  split
  · split
    · exact ⟨c, _, rfl, hc⟩
    · split
      · exact ⟨c, _, rfl, hc⟩
      · exact ⟨'0', _, rfl, rfl⟩
  · exact ⟨c, _, rfl, hc⟩

/-- What is written for a double is a word, or digits with or without a sign in front. -/
theorem text_cases (x : Float) :
    (∃ v, ((numbers.text x).toList, v) ∈ words) ∨
    ∃ (negative : Bool) (c : Char) (t : List Char), c.isDigit = true ∧
      (numbers.text x).toList = if negative then '-' :: c :: t else c :: t := by
  have hsign (s : String) : ((if Number.isNegative x then "-" else "") ++ s).toList =
      if Number.isNegative x then '-' :: s.toList else s.toList := by
    split <;> simp
  rw [Number.Spelling.text]
  split
  · exact .inl ⟨.float (0.0 / 0.0), by simp [words, numbers]⟩
  · split
    · refine .inl ?_
      rw [hsign]
      split
      · exact ⟨.float (-(1.0 / 0.0)), by simp [words, numbers]⟩
      · exact ⟨.float (1.0 / 0.0), by simp [words, numbers]⟩
    · refine .inr ⟨Number.isNegative x, ?_⟩
      simp only
      split
      · exact ⟨'0', ".0".toList, rfl, by rw [hsign]; rfl⟩
      · obtain ⟨c, t, ht, hc⟩ := exists_layout_cons (Number.stripZeros 17 (Number.magnitude x).shortest)
        exact ⟨c, t, hc, by rw [hsign, ht, String.toList_ofList]⟩

/-- The text of a double alone reads as the double. -/
def readsFloat (x : Float) : Bool :=
  match readValue 1 0 (numbers.text x).toList with
  | .ok (.float y, []) => decide (y = x)
  | _ => false

theorem readValue_of_readsFloat {x : Float} (h : readsFloat x = true) :
    readValue 1 0 (numbers.text x).toList = .ok (.float x, []) := by
  rw [readsFloat] at h
  split at h
  · rename_i y he
    rw [he, of_decide_eq_true h]
  · cases h

theorem readValue_float {x : Float} (h : readsFloat x = true) {rest : List Char} (hr : EndsValue rest) :
    readValue (fuel + 1) depth ((numbers.text x).toList ++ rest) = .ok (.float x, rest) := by
  have h := readValue_of_readsFloat h
  rcases text_cases x with ⟨v, hv⟩ | ⟨negative, c, t, hc, ht⟩
  · have hw := readValue_word 0 0 hv []
    rw [List.append_nil, h] at hw
    obtain ⟨rfl, -⟩ := Prod.mk.inj (Except.ok.inj hw)
    exact readValue_word fuel depth hv rest
  · rw [ht] at h ⊢
    cases negative with
    | true =>
      have hn : readNumber true ('-' :: c :: t) (c :: t) = .ok (.float x, []) := by
        rw [← readValue_of_minus 0 0 hc]
        exact h
      exact readValue_signed fuel depth hc hr _ hn
    | false =>
      have hn : readNumber false (c :: t) (c :: t) = .ok (.float x, []) := by
        rw [← readValue_of_digit 0 0 hc]
        exact h
      exact readValue_signed fuel depth hc hr _ hn

end CellFlow.Json
