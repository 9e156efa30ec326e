import CellFlow.Number.Literal
import CellFlow.Proofs.Number.Bits

/-!
Integers of any size read as doubles: the double that is read is the nearest one, the even one
of two that are as near, and whatever this rule takes beyond the largest double is infinite.
-/

set_option autoImplicit false

namespace CellFlow.Number

open Float.Model
open Float.Model.UnpackedFloat (packComponents packedInfinity shiftToTargetExponent roundWithAccuracy
  shiftToExponent ExtendedMantissa Accuracy Sign unpackMantissa unpackExponent unpackSign
  unpackMantissa_packComponents unpackExponent_packComponents)

/-- A mantissa with its residual bits is that of a / d: the bits tell where in between two mantissas
the quotient lies. -/
def IsQuotient (em : ExtendedMantissa) (a d : ℕ) : Prop :=
  match em.roundBit, em.stickyBit with
  | false, false => a = em.mantissa * d
  | false, true => em.mantissa * d < a ∧ 2 * a < 2 * (em.mantissa * d) + d
  | true, false => 2 * a = 2 * (em.mantissa * d) + d
  | true, true => 2 * (em.mantissa * d) + d < 2 * a ∧ a < em.mantissa * d + d

/-- The integer nearest to a / d, and the even one of two. -/
structure IsRounded (r a d : ℕ) : Prop where
  le : 2 * (r * d) ≤ 2 * a + d
  ge : 2 * a ≤ 2 * (r * d) + d
  even_of_tie : 2 * (r * d) = 2 * a + d ∨ 2 * a = 2 * (r * d) + d → r % 2 = 0

theorem IsQuotient.shiftRightOne {em : ExtendedMantissa} {a d : ℕ} (h : IsQuotient em a d) (hd : 0 < d) :
    IsQuotient em.shiftRightOne a (2 * d) := by
  obtain ⟨m, round, sticky⟩ := em
  have hm : m * d = 2 * (m / 2 * d) + m % 2 * d := by
    conv_lhs => rw [← Nat.div_add_mod m 2]
    ring
  have hq : m / 2 * (2 * d) = 2 * (m / 2 * d) := by ring
  -- what is shifted out becomes the bit behind the mantissa
  rcases Nat.mod_two_eq_zero_or_one m with hb | hb
  · rw [hb] at hm
    cases round <;> cases sticky <;>
      simp only [IsQuotient, ExtendedMantissa.shiftRightOne, hb, hq, hm, bne_self_eq_false, Bool.or_false,
        Bool.or_true] at h ⊢ <;> omega
  · rw [hb] at hm
    have hne : ((1 : ℕ) != 0) = true := rfl
    cases round <;> cases sticky <;>
      simp only [IsQuotient, ExtendedMantissa.shiftRightOne, hb, hq, hm, hne, Bool.or_false,
        Bool.or_true] at h ⊢ <;> omega

theorem isQuotient_shiftRight (a k : ℕ) :
    IsQuotient (ExtendedMantissa.ofMantissaAndAccuracy a .exact >>> k) a (2 ^ k) := by
  induction k with
  | zero => exact (Nat.mul_one a).symm
  | succ k ih =>
    rw [pow_succ']
    exact ih.shiftRightOne (Nat.two_pow_pos k)

theorem IsQuotient.isRounded {em : ExtendedMantissa} {a d : ℕ} (h : IsQuotient em a d) (hd : 0 < d) :
    IsRounded em.roundedMantissa a d := by
  obtain ⟨m, round, sticky⟩ := em
  have hs : (m + 1) * d = m * d + d := Nat.succ_mul m d
  cases round <;> cases sticky <;>
    simp only [IsQuotient, ExtendedMantissa.roundedMantissa, ExtendedMantissa.accuracy,
      Accuracy.roundToNearestEven] at h ⊢
  · constructor <;> omega
  · constructor <;> omega
  · rcases Nat.mod_two_eq_zero_or_one m with hb | hb
    · rw [hb, Nat.add_zero]
      constructor <;> omega
    · rw [hb]
      constructor <;> omega
  · constructor <;> omega

theorem shiftToTargetExponent_eq {a j : ℕ} {e : ℤ} (hl : a.log2 = 52 + j) (he : -1074 ≤ e + j) :
    shiftToTargetExponent .binary64 a e .exact =
      (ExtendedMantissa.ofMantissaAndAccuracy a .exact >>> j, e + j) := by
  have ht : Format.binary64.targetExponent (totalExponent a e) = e + j := by
    rw [targetExponent_binary64, totalExponent, hl]
    omega
  have hj : (e + j - e).toNat = j := by omega
  simp only [shiftToTargetExponent, shiftToExponent, ht, hj]

theorem IsRounded.bounds {r a j : ℕ} (h : IsRounded r a (2 ^ j)) (ha : 0 < a) (hl : a.log2 = 52 + j) :
    2 ^ 52 ≤ r ∧ r ≤ 2 ^ 53 := by
  obtain ⟨hlow, hhigh⟩ := le_of_log2_eq hl ha
  obtain ⟨hle, hge, -⟩ := h
  constructor
  · have hr : 2 * (2 ^ 52 * 2 ^ j) < 2 * ((r + 1) * 2 ^ j) := by
      rw [← pow_add, add_one_mul r]
      have := Nat.two_pow_pos j
      omega
    have := Nat.lt_of_mul_lt_mul_right (Nat.lt_of_mul_lt_mul_left hr)
    omega
  · have hr : r * 2 ^ j < (2 ^ 53 + 1) * 2 ^ j := by
      rw [add_one_mul, ← pow_add]
      have hk : 52 + j + 1 = 53 + j := by omega
      rw [hk] at hhigh
      omega
    have := Nat.lt_of_mul_lt_mul_right hr
    omega

/-- A mantissa of 53 bits and more is rounded to 53 bits, and stands for a power of two
if that takes one bit more. -/
theorem roundWithAccuracy_eq (s : Sign) {a j : ℕ} {e : ℤ} (ha : 0 < a) (hl : a.log2 = 52 + j)
    (he : -1074 ≤ e + j) : ∃ m c : ℕ, ∃ hm : 0 < m,
      roundWithAccuracy .binary64 s a e .exact = .finite s m (e + j + c) hm ∧ m.log2 = 52 ∧
        IsRounded (m * 2 ^ c) a (2 ^ j) := by
  have hr := (isQuotient_shiftRight a j).isRounded (Nat.two_pow_pos j)
  generalize hrr : (ExtendedMantissa.ofMantissaAndAccuracy a .exact >>> j).roundedMantissa = r at hr
  obtain ⟨hlow, hhigh⟩ := hr.bounds ha hl
  rcases Nat.lt_or_eq_of_le hhigh with hlt | rfl
  · have hlog := log2_eq_of_le hlow hlt
    refine ⟨r, 0, by omega, ?_, hlog, by rwa [pow_zero, Nat.mul_one]⟩
    have hz : ¬ r = 0 := by omega
    have h0 := shiftToTargetExponent_eq (j := 0) (e := e + j) hlog (by omega)
    simp only [roundWithAccuracy, shiftToTargetExponent_eq hl he, hrr, h0]
    exact dif_neg hz
  · refine ⟨2 ^ 52, 1, by decide, ?_, Nat.log2_two_pow, hr⟩
    have h1 := shiftToTargetExponent_eq (a := 2 ^ 53) (j := 1) (e := e + j) Nat.log2_two_pow (by omega)
    simp only [roundWithAccuracy, shiftToTargetExponent_eq hl he, hrr, h1]
    rfl

theorem IsRounded.of_mul {r a d t : ℕ} (ht : 0 < t) (h : IsRounded r (a * t) (d * t)) : IsRounded r a d := by
  have hr : r * (d * t) = r * d * t := (Nat.mul_assoc r d t).symm
  obtain ⟨hle, hge, heven⟩ := h
  rw [hr] at hle hge heven
  refine ⟨?_, ?_, ?_⟩
  · exact Nat.le_of_mul_le_mul_right (by linarith) ht
  · exact Nat.le_of_mul_le_mul_right (by linarith) ht
  · rintro (hc | hc)
    · exact heven (.inl (by linear_combination t * hc))
    · exact heven (.inr (by linear_combination t * hc))

theorem IsRounded.eq {r a : ℕ} (h : IsRounded r a 1) : r = a := by
  obtain ⟨hle, hge, -⟩ := h
  omega

theorem isRounded_self (a : ℕ) : IsRounded a a 1 := ⟨by omega, by omega, by omega⟩

/-- What a natural number is rounded to: the multiple nearest to it of the step between doubles
of its size, and the even one of two. -/
def RoundsTo (n v : ℕ) : Prop :=
  ∃ r, v = r * 2 ^ (n.log2 - 52) ∧ IsRounded r n (2 ^ (n.log2 - 52))

theorem roundsTo_self {n : ℕ} (h : n.log2 ≤ 52) : RoundsTo n n := by
  refine ⟨n, ?_, ?_⟩ <;> rw [Nat.sub_eq_zero_of_le h, pow_zero]
  · exact (Nat.mul_one n).symm
  · exact isRounded_self n

theorem log2_mul_two_pow {n : ℕ} (hn : n ≠ 0) (k : ℕ) : (n * 2 ^ k).log2 = n.log2 + k := by
  induction k with
  | zero => rw [pow_zero, Nat.mul_one, Nat.add_zero]
  | succ k ih =>
    have hk : n * 2 ^ k ≠ 0 := Nat.mul_ne_zero hn (Nat.two_pow_pos k).ne'
    rw [pow_succ', Nat.mul_left_comm, Nat.log2_two_mul hk, ih, Nat.add_assoc]

/-- A number that is written out with enough bits behind it is rounded where 53 bits end. -/
theorem unpack_pack_round (s : Sign) {n k : ℕ} (hn : 0 < n) (hk : 52 ≤ n.log2 + k) :
    ∃ v, RoundsTo n v ∧
      let u := UnpackedFloat.unpack .binary64 (UnpackedFloat.pack .binary64
        (roundWithAccuracy .binary64 s (n * 2 ^ k) (-k) .exact))
      (v < 2 ^ 1024 → IsInteger s v u) ∧ (2 ^ 1024 ≤ v → u = .infinity s) := by
  obtain ⟨j, hj⟩ := Nat.exists_eq_add_of_le hk
  have ha : 0 < n * 2 ^ k := Nat.mul_pos hn (Nat.two_pow_pos k)
  have hl : (n * 2 ^ k).log2 = 52 + j := (log2_mul_two_pow hn.ne' k).trans hj
  obtain ⟨m, c, hm, hr, hml, hrounded⟩ := roundWithAccuracy_eq s (e := -k) ha hl (by omega)
  have he : -(k : ℤ) + j + c = (n.log2 - 52 : ℤ) + c := by omega
  have hup : ((n.log2 : ℤ) - 52).toNat = n.log2 - 52 := by omega
  have hdown : (-((n.log2 : ℤ) - 52)).toNat = 52 - n.log2 := by omega
  rw [hr, he]
  rcases Nat.le_total 52 n.log2 with hbig | hsmall
  · have hp : 2 ^ j = 2 ^ (n.log2 - 52) * 2 ^ k := by
      rw [← pow_add]
      congr 1
      omega
    rw [hp] at hrounded
    refine ⟨_, ⟨m * 2 ^ c, rfl, hrounded.of_mul (Nat.two_pow_pos k)⟩, ?_⟩
    refine unpack_pack_integer s hm hml (by omega) (.add ?_)
    rw [IsScaled, hup, hdown, Nat.sub_eq_zero_of_le hbig, pow_zero, Nat.mul_one]
  · -- the number has no more than 53 bits, so nothing of it is rounded
    have hp : n * 2 ^ k = n * 2 ^ (52 - n.log2) * 2 ^ j := by
      rw [Nat.mul_assoc, ← pow_add]
      congr 2
      omega
    have hexact : IsRounded (m * 2 ^ c) (n * 2 ^ (52 - n.log2)) 1 := by
      refine .of_mul (Nat.two_pow_pos j) ?_
      rwa [Nat.one_mul, ← hp]
    refine ⟨n, roundsTo_self hsmall, unpack_pack_integer s hm hml (by omega) (.add ?_)⟩
    rw [IsScaled, hup, hdown, hexact.eq, Nat.sub_eq_zero_of_le hsmall, pow_zero, Nat.mul_one]

theorem RoundsTo.eq_of_lt {n v : ℕ} (h : RoundsTo n v) (hn : n < 2 ^ 53) : v = n := by
  obtain ⟨r, rfl, hr⟩ := h
  have hl : n.log2 - 52 = 0 := by
    rcases Nat.eq_zero_or_pos n with rfl | hp
    · rfl
    · have := (Nat.log2_lt hp.ne').2 hn
      omega
  rw [hl, pow_zero] at hr ⊢
  rw [hr.eq, Nat.mul_one]

theorem unpackedOfNat_eq {n : ℕ} (hp : 0 < n) (hn : n < 2 ^ 53) : UnpackedFloat.ofNat .binary64 n =
    roundWithAccuracy .binary64 .positive (n * 2 ^ (52 - n.log2)) (-(52 - n.log2 : ℕ)) .exact := by
  have hl : n.log2 < 53 := (Nat.log2_lt hp.ne').2 hn
  have hk : (-Format.binary64.targetExponent (totalExponent n 0)).toNat = 52 - n.log2 := by
    rw [targetExponent_binary64, totalExponent]
    omega
  have hc : compare (n : ℤ) 0 = .gt := Int.compare_eq_gt.2 (by omega)
  simp only [UnpackedFloat.ofNat, UnpackedFloat.ofInt, UnpackedFloat.normalize, hc, UnpackedFloat.round,
    UnpackedFloat.decreaseExponent, Int.toNat_natCast, Int.zero_sub, hk, Nat.shiftLeft_eq]

theorem isInteger_toFloat {n : ℕ} (hp : 0 < n) (hn : n < 2 ^ 53) :
    IsInteger .positive n n.toUInt64.toFloat.toModel.unpack := by
  have hu : n.toUInt64.toNat = n := by
    rw [Nat.toUInt64_eq, UInt64.toNat_ofNat', Nat.mod_eq_of_lt (by omega)]
  have hx : n.toUInt64.toFloat.toModel.unpack =
      UnpackedFloat.unpack .binary64 (UnpackedFloat.pack .binary64 (UnpackedFloat.ofNat .binary64 n)) :=
    congrArg (fun i => UnpackedFloat.unpack .binary64 (UnpackedFloat.pack .binary64
      (UnpackedFloat.ofNat .binary64 i))) hu
  obtain ⟨v, hv, hlt, -⟩ := unpack_pack_round .positive (k := 52 - n.log2) hp (by omega)
  rw [hv.eq_of_lt hn] at hlt
  rw [hx, unpackedOfNat_eq hp hn]
  exact hlt (by omega)

theorem unpack_one : (Float.ofBits 0x3FF0000000000000).toModel.unpack =
    .finite .positive (2 ^ 52) (-52) (by decide) := by
  have hone : (0x3FF0000000000000 : UInt64).toBitVec =
      packComponents .binary64 .positive 1023#11 0#52 := by decide
  have hx : (Float.ofBits 0x3FF0000000000000).toModel.unpack = UnpackedFloat.unpack .binary64
      (UnpackedFloat.pack .binary64 (UnpackedFloat.unpack .binary64 (0x3FF0000000000000 : UInt64).toBitVec)) := rfl
  rw [hx, hone, unpack_packComponents .positive _ (by decide) (by decide)]
  exact unpack_pack_finite .positive _ Nat.log2_two_pow (by decide) (by decide)

theorem mul_positive {m m' : ℕ} {e e' : ℤ} (hm : 0 < m) (hm' : 0 < m') :
    UnpackedFloat.mul .binary64 (.finite .positive m e hm) (.finite .positive m' e' hm') =
      roundWithAccuracy .binary64 .positive (m * m') (e + e') .exact := rfl

theorem IsInteger.mul_one {v : ℕ} {x : Float} (h : IsInteger .positive v x.toModel.unpack) (hv : 0 < v) :
    IsInteger .positive v (x * Float.ofBits 0x3FF0000000000000).toModel.unpack := by
  have hx : (x * Float.ofBits 0x3FF0000000000000).toModel.unpack =
      UnpackedFloat.unpack .binary64 (UnpackedFloat.pack .binary64 (UnpackedFloat.mul .binary64
        x.toModel.unpack (Float.ofBits 0x3FF0000000000000).toModel.unpack)) := rfl
  have hlt := h.lt
  rw [hx, unpack_one]
  generalize x.toModel.unpack = u at h
  cases h with
  | zero hz => omega
  | @finite m e hm hl he he' hme =>
    have hl' : (m * 2 ^ 52).log2 = 52 + 52 := by rw [log2_mul_two_pow hm.ne', hl]
    obtain ⟨m', c, hm', hr, hml, hrounded⟩ := roundWithAccuracy_eq .positive (e := e + -52)
      (Nat.mul_pos hm (Nat.two_pow_pos 52)) hl' (by omega)
    have hmc : m' * 2 ^ c = m := (IsRounded.of_mul (Nat.two_pow_pos 52) (by rwa [Nat.one_mul])).eq
    have he'' : e + -52 + (52 : ℕ) + c = e + c := by omega
    rw [mul_positive, hr, he'']
    exact (unpack_pack_integer .positive hm' hml (by omega) (.add (by rwa [hmc]))).1 hlt

/-- A natural number is read as the double that it rounds to. -/
theorem ofScientific_rounds {n : ℕ} (hn : 0 < n) : ∃ v, RoundsTo n v ∧
    (v < 2 ^ 1024 → IsInteger .positive v (Float.ofScientific n false 0).toModel.unpack) ∧
    (2 ^ 1024 ≤ v → (Float.ofScientific n false 0).toModel.unpack = .infinity .positive) := by
  by_cases hsmall : n < 2 ^ 53
  · have hx : Float.ofScientific n false 0 = n.toUInt64.toFloat * Float.ofBits 0x3FF0000000000000 :=
      dif_pos ⟨hsmall, by decide⟩
    have hl : n.log2 < 53 := (Nat.log2_lt hn.ne').2 hsmall
    have h := (isInteger_toFloat hn hsmall).mul_one hn
    rw [hx]
    exact ⟨n, roundsTo_self (by omega), fun _ => h, fun hbig => absurd h.lt (Nat.not_lt.2 hbig)⟩
  · have hp : 0 < n <<< 53 := by
      rw [Nat.shiftLeft_eq]
      omega
    have hx : Float.ofScientific n false 0 = .ofModel (.ofScientific n 0) := dif_neg fun h => hsmall h.1
    have hu : (Float.ofModel (.ofScientific n 0)).toModel.unpack = UnpackedFloat.unpack .binary64
        (UnpackedFloat.pack .binary64 (UnpackedFloat.ofScientific .binary64 n 0)) := rfl
    have he : (-53 : ℤ) + 0 = -(53 : ℕ) := rfl
    rw [hx, hu, ofScientific_eq_mul hn.ne' hp, mul_positive, Nat.mul_one, Nat.shiftLeft_eq, he]
    exact unpack_pack_round .positive hn (by omega)

/-- An integer that is a double: 53 bits, at any place below the largest exponent. -/
def IsDouble (n : ℤ) : Prop := ∃ m e : ℕ, m < 2 ^ 53 ∧ e ≤ 971 ∧ n.natAbs = m * 2 ^ e

/-- The first integer that is no double. -/
theorem not_isDouble_two_pow_add_one : ¬ IsDouble (2 ^ 53 + 1) := by
  rintro ⟨m, e, hm, -, h⟩
  have hn : ((2 : ℤ) ^ 53 + 1).natAbs = 2 ^ 53 + 1 := rfl
  rw [hn] at h
  cases e with
  | zero => omega
  | succ e =>
    have heven : m * 2 ^ (e + 1) = 2 * (m * 2 ^ e) := by ring
    omega

/-- No double is nearer to the integer than this one. -/
structure IsNearestDouble (k n : ℤ) : Prop where
  isDouble : IsDouble k
  nearest : ∀ d, IsDouble d → (k - n).natAbs ≤ (d - n).natAbs

/-- Half a step above the largest double: from here on integers round to infinity. -/
def limit : ℕ := (2 ^ 54 - 1) * 2 ^ 970

theorem IsInteger.isDouble {s : Sign} {v : ℕ} {u : UnpackedFloat} (h : IsInteger s v u) : IsDouble v := by
  cases h with
  | zero hv => exact ⟨0, 0, by decide, by decide, by simp [hv]⟩
  | @finite m e hm hl he he' hv =>
    have hm' := (le_of_log2_eq hl hm).2
    rcases Int.le_total 0 e with hpos | hneg
    · exact ⟨m, e.toNat, hm', by omega, (hv.of_nonneg hpos).symm⟩
    · have hle : v ≤ m := hv.of_nonpos hneg ▸ Nat.le_mul_of_pos_right v (Nat.two_pow_pos _)
      exact ⟨v, 0, by omega, by decide, by simp⟩

namespace IsNearestDouble

variable {k n : ℤ}

theorem eq_iff (h : IsNearestDouble k n) : k = n ↔ IsDouble n := by
  refine ⟨fun he => he ▸ h.isDouble, fun hn => ?_⟩
  have := h.nearest n hn
  omega

theorem neg (h : IsNearestDouble k n) : IsNearestDouble (-k) (-n) := by
  have hneg {d : ℤ} (hd : IsDouble d) : IsDouble (-d) := by
    rwa [IsDouble, Int.natAbs_neg]
  refine ⟨hneg h.isDouble, fun d hd => ?_⟩
  have := h.nearest (-d) (hneg hd)
  omega

end IsNearestDouble

namespace RoundsTo

variable {n v : ℕ}

/-- No multiple of the step between doubles is nearer. -/
theorem le_of_dvd (h : RoundsTo n v) {d : ℕ} (hd : 2 ^ (n.log2 - 52) ∣ d) :
    ((v : ℤ) - n).natAbs ≤ ((d : ℤ) - n).natAbs := by
  obtain ⟨r, rfl, hr⟩ := h
  obtain ⟨q, rfl⟩ := hd
  generalize 2 ^ (n.log2 - 52) = t at hr
  have hle := hr.le
  have hge := hr.ge
  rw [Nat.mul_comm t q]
  rcases Nat.lt_trichotomy q r with hlt | rfl | hlt
  · have := Nat.mul_le_mul_right t (Nat.succ_le_of_lt hlt)
    rw [Nat.succ_mul] at this
    omega
  · exact Nat.le_refl _
  · have := Nat.mul_le_mul_right t (Nat.succ_le_of_lt hlt)
    rw [Nat.succ_mul] at this
    omega

theorem isNearestDouble (h : RoundsTo n v) (hn : 0 < n) (hv : IsDouble v) : IsNearestDouble v n := by
  refine ⟨hv, fun d hd => ?_⟩
  obtain ⟨m, e, hm, -, hd⟩ := hd
  have hlow := Nat.log2_self_le hn.ne'
  have hd' : ((v : ℤ) - n).natAbs ≤ ((m * 2 ^ e : ℕ) - n : ℤ).natAbs := by
    rcases le_or_gt (n.log2 - 52) e with he | he
    · exact h.le_of_dvd ((pow_dvd_pow 2 he).mul_left m)
    · -- the double lies below the last power of two, which is nearer
      have hp := h.le_of_dvd (pow_dvd_pow 2 (Nat.sub_le n.log2 52))
      have hlt : m * 2 ^ e < 2 ^ n.log2 := by
        calc m * 2 ^ e < 2 ^ 53 * 2 ^ e := Nat.mul_lt_mul_of_pos_right hm (Nat.two_pow_pos e)
          _ = 2 ^ (53 + e) := (pow_add 2 53 e).symm
          _ ≤ 2 ^ n.log2 := Nat.pow_le_pow_right (by decide) (by omega)
      omega
  omega

theorem two_pow_log2_le (h : RoundsTo n v) (hn : 0 < n) : 2 ^ n.log2 ≤ v := by
  have hp := h.le_of_dvd (pow_dvd_pow 2 (Nat.sub_le n.log2 52))
  have := Nat.log2_self_le hn.ne'
  omega

/-- The last number below the limit rounds to the largest double; the limit itself is as near to that
as to the power of two above, which is even. -/
theorem lt_iff (h : RoundsTo n v) (hn : 0 < n) : v < 2 ^ 1024 ↔ n < limit := by
  have hpow := h.two_pow_log2_le hn
  obtain ⟨r, hv, hr⟩ := h
  have htop : (2 : ℕ) ^ 1024 = 2 ^ 54 * 2 ^ 970 := by rw [← pow_add]
  have hstep : (2 : ℕ) ^ 971 = 2 * 2 ^ 970 := by rw [← pow_succ']
  have hlow : (2 : ℕ) ^ 1023 = 2 ^ 53 * 2 ^ 970 := by rw [← pow_add]
  rw [limit]
  constructor
  · intro hlt
    by_contra hbig
    have hl : 1023 ≤ n.log2 := (Nat.le_log2 hn.ne').2 (by omega)
    rcases Nat.lt_or_eq_of_le hl with hl | hl
    · have : 2 ^ 1024 ≤ 2 ^ n.log2 := by gcongr <;> omega
      omega
    · have hd : n.log2 - 52 = 971 := by omega
      rw [hd, hstep] at hv hr
      have hlt' : r < 2 ^ 53 := by
        refine Nat.lt_of_mul_lt_mul_right (a := 2 * 2 ^ 970) ?_
        omega
      have hle := Nat.mul_le_mul_right (2 * 2 ^ 970) (Nat.le_sub_one_of_lt hlt')
      have hge := hr.ge
      have htie : r = 2 ^ 53 - 1 := by
        refine Nat.eq_of_mul_eq_mul_right (by positivity : 0 < 2 * 2 ^ 970) ?_
        omega
      have := hr.even_of_tie (.inr (by omega))
      omega
  · intro hlt
    have hl : n.log2 < 1024 := (Nat.log2_lt hn.ne').2 (by omega)
    have hd : 2 ^ (n.log2 - 52) ≤ 2 * 2 ^ 970 := by
      rw [← hstep]
      gcongr <;> omega
    have := hr.le
    omega

end RoundsTo

theorem digitsValue_dropWhile (ds : List ℕ) : digitsValue (ds.dropWhile (· == 0)) = digitsValue ds := by
  induction ds with
  | nil => rfl
  | cons d ds ih =>
    rw [List.dropWhile_cons]
    split
    · rename_i hd
      rw [ih, beq_iff_eq.1 hd]
      rfl
    · rfl

theorem le_foldl_digits (ds : List ℕ) (n : ℕ) :
    n * 10 ^ ds.length ≤ ds.foldl (fun n d => 10 * n + d) n := by
  induction ds generalizing n with
  | nil => exact (Nat.mul_one n).le
  | cons d ds ih =>
    rw [List.length_cons, pow_succ', List.foldl_cons]
    refine le_trans ?_ (ih (10 * n + d))
    rw [← Nat.mul_assoc, Nat.mul_comm n 10]
    exact Nat.mul_le_mul_right _ (Nat.le_add_right _ _)

theorem pow_le_digitsValue {d k : ℕ} {ds : List ℕ} (hd : 1 ≤ d) (hk : k ≤ ds.length) :
    10 ^ k ≤ digitsValue (d :: ds) := by
  rw [digitsValue, List.foldl_cons, Nat.mul_zero, Nat.zero_add]
  calc 10 ^ k ≤ 10 ^ ds.length := Nat.pow_le_pow_right (by decide) hk
    _ ≤ d * 10 ^ ds.length := Nat.le_mul_of_pos_left _ hd
    _ ≤ _ := le_foldl_digits ds d

/-- Digits are read as the double nearest to their value; infinity stands for all that is beyond the
limit. -/
theorem ofDecimal_integer (ds : List ℕ) :
    (digitsValue ds < limit → ∃ v : ℕ, IsInteger .positive v (ofDecimal ds 0).toModel.unpack ∧
      IsNearestDouble v (digitsValue ds)) ∧
    (limit ≤ digitsValue ds → (ofDecimal ds 0).toModel.unpack = .infinity .positive) := by
  have hlead := List.head?_dropWhile_not (· == 0) ds
  rw [← digitsValue_dropWhile ds]
  simp only [ofDecimal]
  cases hds : ds.dropWhile (· == 0) with
  | nil =>
    have hz : IsInteger .positive 0 (0.0 : Float).toModel.unpack := .zero rfl
    have hlimit : ¬ limit ≤ digitsValue [] := by decide +kernel
    exact ⟨fun _ => ⟨0, hz, hz.isDouble, fun d _ => Nat.zero_le _⟩, fun h => absurd h hlimit⟩
  | cons d es =>
    rw [hds] at hlead
    have hd : 1 ≤ d := Nat.one_le_iff_ne_zero.2 fun hc => by
      simp [hc] at hlead
    have hn : 0 < digitsValue (d :: es) := pow_le_digitsValue hd (Nat.zero_le _)
    have hin : ¬ ((d :: es).isEmpty || decide (0 + ((d :: es).length : ℤ) < -400)) = true := by
      simp
      omega
    rw [if_neg hin]
    by_cases hlong : 400 < 0 + ((d :: es).length : ℤ)
    · rw [if_pos hlong]
      have hbig : limit ≤ digitsValue (d :: es) := by
        have hlimit : limit ≤ 10 ^ 400 := by decide +kernel
        have hlen : 400 ≤ es.length := by
          rw [List.length_cons] at hlong
          omega
        exact hlimit.trans (pow_le_digitsValue hd hlen)
      have hinf : ((1.0 : Float) / 0.0).toModel.unpack = .infinity .positive := rfl
      exact ⟨fun h => absurd hbig (Nat.not_le.2 h), fun _ => hinf⟩
    · rw [if_neg hlong]
      obtain ⟨v, hv, hlt, hbeyond⟩ := ofScientific_rounds hn
      refine ⟨fun h => ?_, fun h => hbeyond (Nat.not_lt.1 fun hc => Nat.not_lt.2 h ((hv.lt_iff hn).1 hc))⟩
      have hi := hlt ((hv.lt_iff hn).2 h)
      exact ⟨v, hi, hv.isNearestDouble hn hi.isDouble⟩

end CellFlow.Number
