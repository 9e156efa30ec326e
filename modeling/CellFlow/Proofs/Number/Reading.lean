import CellFlow.Proofs.Number.Rounding

/-!
Texts that spell integers, and what they are read as when reals are expected: the nearest double,
or infinity. Blanks are no number.
-/

set_option autoImplicit false

namespace CellFlow.Number

open CellFlow.Text
open Float.Model (UnpackedFloat)

/-- The integer that a text spells, of any length. -/
def spelled? (s : List Char) : Option ℤ :=
  let (negative, r) := takeSign (withoutMargins s)
  match takeDigits r with
  | (d :: ds, []) => some (if negative then -(digitsValue (d :: ds) : ℤ) else digitsValue (d :: ds))
  | _ => none

section Words

variable {c : Char} {r w : List Char}

theorem lowerAscii_ne (hw : w.head?.any Char.isAlpha = true) (hr : r.head?.all fun c => !c.isAlpha) :
    lowerAscii r ≠ w := by
  rintro rfl
  cases r with
  | nil => cases hw
  | cons c r =>
    have hc : c.toLower.isAlpha = true := hw
    rw [Char.isAlpha_toLower_eq_isAlpha] at hc
    simp [hc] at hr

/-- Where no word can begin, a magnitude is read. -/
theorem readReal_of_not_isAlpha {s : List Char} {negative : Bool} (h : takeSign (withoutMargins s) = (negative, r))
    (hr : r.head?.all fun c => !c.isAlpha) :
    readReal s = (match takeMagnitude r with
      | some (x, []) => some x
      | _ => none).map fun x => if negative then -x else x := by
  have hi : lowerAscii r ≠ "inf".toList := lowerAscii_ne (by decide) hr
  have hi' : lowerAscii r ≠ "infinity".toList := lowerAscii_ne (by decide) hr
  have hn : lowerAscii r ≠ "nan".toList := lowerAscii_ne (by decide) hr
  rw [readReal, h]
  exact congrArg (Option.map _) ((if_neg (not_or.2 ⟨hi, hi'⟩)).trans (if_neg hn))

theorem isAlpha_of_digitValue? {d : ℕ} (h : digitValue? c = some d) : c.isAlpha = false := by
  by_contra hc
  rw [Bool.not_eq_false] at hc
  have hascii : c.toNat < 0x80 := by
    simp only [Char.isAlpha, Char.isUpper, Char.isLower, Bool.or_eq_true, decide_eq_true_eq,
      Bool.and_eq_true] at hc
    rcases hc with hc | hc
    · exact lt_of_le_of_lt (UInt32.le_iff_toNat_le.1 hc.2) (by decide)
    · exact lt_of_le_of_lt (UInt32.le_iff_toNat_le.1 hc.2) (by decide)
  have hnone : ∀ n < 0x80, (Char.ofNat n).isAlpha = true → digitValue? (Char.ofNat n) = none := by decide
  have := hnone c.toNat hascii
  rw [Char.ofNat_toNat] at this
  cases h.symm.trans (this hc)

/-- What holds of the blanks in each range holds of every blank. -/
theorem forall_isBlank (P : Char → Prop) (h : ∀ r ∈ blankRanges, ∀ i < r.2 + 1 - r.1, P (Char.ofNat (r.1 + i)))
    (hc : isBlank c = true) : P c := by
  obtain ⟨r, hr, hlow, hhigh⟩ := (Ranges.has_iff _ _).1 hc
  have := h r hr (c.toNat - r.1) (by omega)
  rwa [Nat.add_sub_cancel' hlow, Char.ofNat_toNat] at this

theorem no_number_of_isBlank (hc : isBlank c = true) :
    digitValue? c = none ∧ c ≠ '+' ∧ c ≠ '-' ∧ c ≠ '.' ∧ c.isAlpha = false :=
  forall_isBlank (fun c => digitValue? c = none ∧ c ≠ '+' ∧ c ≠ '-' ∧ c ≠ '.' ∧ c.isAlpha = false)
    (by decide) hc

theorem withoutMargins_subset (s : List Char) : withoutMargins s ⊆ s := by
  intro c hc
  have hc := (List.dropWhile_suffix isMargin).subset (List.mem_reverse.1 hc)
  exact (List.dropWhile_suffix isMargin).subset (List.mem_reverse.1 hc)

theorem readReal_of_isBlank {s : List Char} (h : ∀ c ∈ s, isBlank c = true) : readReal s = none := by
  have hr : ∀ c ∈ withoutMargins s, isBlank c = true := fun c hc => h c (withoutMargins_subset s hc)
  cases hs : withoutMargins s with
  | nil =>
    have hsign : takeSign (withoutMargins s) = (false, []) := by rw [hs]; rfl
    rw [readReal_of_not_isAlpha hsign rfl]
    rfl
  | cons c r =>
    obtain ⟨hd, hplus, hminus, hdot, ha⟩ := no_number_of_isBlank (hr c (hs ▸ List.mem_cons_self))
    have hsign : takeSign (withoutMargins s) = (false, c :: r) := by
      rw [hs, takeSign]
      · rintro t he
        exact hminus (List.cons.inj he).1
      · rintro t he
        exact hplus (List.cons.inj he).1
    have hmag : takeMagnitude (c :: r) = none := by
      have hdigits : takeDigits (c :: r) = ([], c :: r) := by rw [takeDigits, hd]
      simp [takeMagnitude, hdigits, hdot]
    rw [readReal_of_not_isAlpha hsign (by simp [ha]), hmag]
    rfl

end Words

section Signs

variable {x : Float} {n v : ℕ}

theorem truncate_signed (negative : Bool) (h : IsInteger .positive v x.toModel.unpack) (hv : IsNearestDouble v n) :
    (if negative then -x else x).isFinite = true ∧
      IsNearestDouble (truncate (if negative then -x else x)) (if negative then -(n : ℤ) else n) := by
  cases negative with
  | false => exact ⟨h.isFinite, by rwa [if_neg Bool.false_ne_true, if_neg Bool.false_ne_true, h.truncate_eq]⟩
  | true => exact ⟨h.neg.isFinite, by rw [if_pos rfl, if_pos rfl, h.neg.truncate_eq]; exact hv.neg⟩

theorem isInf_signed (negative : Bool) (h : x.toModel.unpack = .infinity .positive) :
    (if negative then -x else x).isInf = true := by
  cases negative with
  | false =>
    change x.toModel.unpack.isInf = true
    rw [h]
    rfl
  | true =>
    change (UnpackedFloat.unpack .binary64 (UnpackedFloat.pack .binary64 x.toModel.unpack.neg)).isInf = true
    rw [h]
    rfl

end Signs

/-- Integers of any length are read as the double nearest to them, or as infinity. -/
theorem readReal_of_spelled {s : List Char} {n : ℤ} (h : spelled? s = some n) : ∃ x, readReal s = some x ∧
    (n.natAbs < limit → x.isFinite = true ∧ IsNearestDouble (truncate x) n) ∧
    (limit ≤ n.natAbs → x.isInf = true) := by
  rcases hs : takeSign (withoutMargins s) with ⟨negative, r⟩
  rcases hd : takeDigits r with ⟨ds, rest⟩
  simp only [spelled?, hs, hd] at h
  cases ds with
  | nil => cases h
  | cons d ds =>
    cases rest with
    | cons c rest => cases h
    | nil =>
      have hhead : r.head?.all fun c => !c.isAlpha := by
        cases r with
        | nil => rfl
        | cons c r =>
          cases hc : digitValue? c with
          | none =>
            rw [takeDigits, hc] at hd
            cases hd
          | some d' => simp [isAlpha_of_digitValue? hc]
      have hmag : takeMagnitude r = some (ofDecimal (d :: ds) 0, []) := by
        simp [takeMagnitude, hd, takeExponent]
      have hreal := readReal_of_not_isAlpha hs hhead
      rw [hmag] at hreal
      obtain ⟨hfinite, hinf⟩ := ofDecimal_integer (d :: ds)
      have hn : n = if negative then -(digitsValue (d :: ds) : ℤ) else digitsValue (d :: ds) :=
        (Option.some.inj h).symm
      have hsize : n.natAbs = digitsValue (d :: ds) := by
        rw [hn]
        cases negative with
        | false => rfl
        | true => exact Int.natAbs_neg _
      refine ⟨_, hreal, fun hlt => ?_, fun hle => isInf_signed negative (hinf (hsize ▸ hle))⟩
      obtain ⟨v, hv, hnearest⟩ := hfinite (hsize ▸ hlt)
      rw [hn]
      exact truncate_signed negative hv hnearest

end CellFlow.Number
