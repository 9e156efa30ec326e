import CellFlow.Number.Binary
import Mathlib

/-!
Integers that are far from the largest double have a nearest double: no step of the conversion
leaves the range of exponents.
-/

set_option autoImplicit false

namespace CellFlow.Number

open Float.Model
open Float.Model.UnpackedFloat (packComponents shiftToTargetExponent roundWithAccuracy shiftToExponent
  ExtendedMantissa Accuracy Sign unpackMantissa_packComponents unpackExponent_packComponents)

/-- Zero, or a finite number with bounds for its mantissa and its exponent. -/
inductive IsBelow (k : ℕ) (b : ℤ) : UnpackedFloat → Prop where
  | zero (s : Sign) : IsBelow k b (.zero s)
  | finite {s : Sign} {m : ℕ} {e : ℤ} {hm : 0 < m} (h : m < 2 ^ k) (he : e ≤ b) :
    IsBelow k b (.finite s m e hm)

theorem isInf_of_isBelow {k : ℕ} {b : ℤ} {x : UnpackedFloat} (h : IsBelow k b x) : x.isInf = false := by
  cases h with
  | zero s => rfl
  | finite h he => rfl

theorem targetExponent_binary64 (e : ℤ) :
    Format.binary64.targetExponent e = max (e - 53) (-1074) := rfl

theorem mantissa_shiftRight_le (em : ExtendedMantissa) (n : ℕ) : (em >>> n).mantissa ≤ em.mantissa := by
  induction n with
  | zero => exact Nat.le_refl _
  | succ n ih =>
    have h : (em >>> (n + 1)).mantissa = (em >>> n).mantissa / 2 := rfl
    rw [h]
    exact (Nat.div_le_self _ _).trans ih

theorem roundedMantissa_le (em : ExtendedMantissa) : em.roundedMantissa ≤ em.mantissa + 1 := by
  obtain ⟨m, round, sticky⟩ := em
  cases round <;> cases sticky <;>
    simp only [ExtendedMantissa.roundedMantissa, ExtendedMantissa.accuracy,
      Accuracy.roundToNearestEven] <;> omega

theorem log2_le {m k : ℕ} (h : m < 2 ^ k) : m.log2 ≤ k := by
  by_cases hm : m = 0
  · subst hm
    simp
  · exact Nat.le_of_lt ((Nat.log2_lt hm).2 h)

theorem shiftToTargetExponent_le {m a : ℕ} {e b : ℤ} (hm : m < 2 ^ a) (he : e ≤ b) (hb : -1074 ≤ b) :
    (shiftToTargetExponent .binary64 m e .exact).1.mantissa ≤ m ∧
      (shiftToTargetExponent .binary64 m e .exact).2 ≤ a + b := by
  refine ⟨mantissa_shiftRight_le _ _, ?_⟩
  have hl : (m.log2 : ℤ) ≤ a := by exact_mod_cast log2_le hm
  simp only [shiftToTargetExponent, shiftToExponent, targetExponent_binary64, totalExponent]
  omega

theorem isBelow_roundWithAccuracy (s : Sign) {m a : ℕ} {e b : ℤ} (hm : m < 2 ^ a) (he : e ≤ b)
    (hb : -1074 ≤ b) :
    IsBelow (a + 1) (2 * a + 1 + b) (roundWithAccuracy .binary64 s m e .exact) := by
  obtain ⟨hm₁, he₁⟩ := shiftToTargetExponent_le hm he hb
  have hr : (shiftToTargetExponent .binary64 m e .exact).1.roundedMantissa < 2 ^ (a + 1) := by
    have := roundedMantissa_le (shiftToTargetExponent .binary64 m e .exact).1
    rw [Nat.pow_succ]
    omega
  obtain ⟨hm₂, he₂⟩ := shiftToTargetExponent_le hr he₁ (by omega)
  simp only [roundWithAccuracy]
  split
  · exact .zero s
  · exact .finite (by omega) (by push_cast at he₂; omega)

theorem isBelow_round (s : Sign) {m a : ℕ} (hm : m < 2 ^ a) :
    IsBelow (a + 54) (2 * a + 107) (UnpackedFloat.round .binary64 s m 0) := by
  have hk : ((0 : ℤ) - Format.binary64.targetExponent (totalExponent m 0)).toNat ≤ 53 := by
    rw [targetExponent_binary64, totalExponent]
    omega
  have hs : m <<< ((0 : ℤ) - Format.binary64.targetExponent (totalExponent m 0)).toNat < 2 ^ (a + 53) := by
    rw [Nat.shiftLeft_eq, Nat.pow_add]
    exact Nat.mul_lt_mul_of_lt_of_le hm (Nat.pow_le_pow_right (by decide) hk) (by decide)
  have he : (0 : ℤ) - ((0 : ℤ) - Format.binary64.targetExponent (totalExponent m 0)).toNat ≤ 0 := by
    omega
  have h := isBelow_roundWithAccuracy s hs he (by decide)
  have hc : (2 : ℤ) * ((a + 53 : ℕ) : ℤ) + 1 + 0 = 2 * a + 107 := by
    push_cast
    omega
  rw [hc] at h
  exact h

theorem exponentBias_binary64 : Format.binary64.exponentBias = 1023 := rfl

theorem isBelow_unpack_packComponents {b : ℤ} (s : Sign) {e : BitVec 11} (m : BitVec 52)
    (he : (e.toNat : ℤ) - 1075 ≤ b) (hb : -1074 ≤ b) (hn : e ≠ -1#11) :
    IsBelow 53 b (UnpackedFloat.unpack .binary64 (packComponents .binary64 s e m)) := by
  have hm : (1#1 ++ m).toNat < 2 ^ 53 := (1#1 ++ m).isLt
  have hm' : m.toNat < 2 ^ 53 := m.isLt.trans (by decide)
  simp only [UnpackedFloat.unpack, unpackMantissa_packComponents, unpackExponent_packComponents,
    if_neg hn, exponentBias_binary64]
  split
  · rename_i hz
    split
    · exact .zero _
    · refine .finite hm' ?_
      rw [hz]
      simp
      omega
  · exact .finite hm (by omega)

theorem exists_pack_finite (s : Sign) {m : ℕ} {e b : ℤ} (hm : 0 < m) (he : e ≤ b) (hb : -1074 ≤ b)
    (hb' : b ≤ 900) : ∃ (x : BitVec 11) (f : BitVec 52), (x.toNat : ℤ) - 1075 ≤ b ∧ x ≠ -1#11 ∧
      UnpackedFloat.pack .binary64 (.finite s m e hm) = packComponents .binary64 s x f := by
  unfold UnpackedFloat.pack
  dsimp only
  rw [exponentBias_binary64]
  split
  · rename_i h
    have h' : 2048 ≤ (e + 1023 + 52).toNat + 1 := h
    omega
  · split
    · have hx : (BitVec.ofNat 11 (e + 1023 + 52).toNat).toNat = (e + 1023 + 52).toNat := by
        rw [BitVec.toNat_ofNat, Nat.mod_eq_of_lt (by omega)]
      refine ⟨BitVec.ofNat 11 (e + 1023 + 52).toNat, _, by rw [hx]; omega, fun hc => ?_, rfl⟩
      have ht : (e + 1023 + 52).toNat = 2047 := hx.symm.trans (congrArg BitVec.toNat hc)
      omega
    · exact ⟨0#11, _, by simp; omega, by decide, rfl⟩

/-- Packing keeps numbers below the largest double finite. -/
theorem isBelow_unpack_pack {x : UnpackedFloat} {k : ℕ} {b : ℤ} (h : IsBelow k b x) (hb : -1074 ≤ b)
    (hb' : b ≤ 900) : IsBelow 53 b (UnpackedFloat.unpack .binary64 (UnpackedFloat.pack .binary64 x)) := by
  cases h with
  | zero s =>
    have hp : UnpackedFloat.pack .binary64 (.zero s) = packComponents .binary64 s 0 0 := rfl
    rw [hp]
    exact isBelow_unpack_packComponents s 0 (by simp; omega) hb (by decide)
  | @finite s m e hm h he =>
    obtain ⟨x, f, hx, hn, hp⟩ := exists_pack_finite s hm he hb hb'
    rw [hp]
    exact isBelow_unpack_packComponents s f hx hb hn

theorem isBelow_mul {x y : UnpackedFloat} {k l : ℕ} {b c : ℤ} (hx : IsBelow k b x) (hy : IsBelow l c y)
    (hb : -1074 ≤ b + c) :
    IsBelow (k + l + 1) (2 * (k + l : ℕ) + 1 + (b + c)) (x.mul .binary64 y) := by
  cases hx with
  | zero s =>
    cases hy with
    | zero s => exact .zero _
    | finite h he => exact .zero _
  | finite hx hbx =>
    cases hy with
    | zero s => exact .zero _
    | finite hy hby =>
      refine isBelow_roundWithAccuracy _ ?_ (Int.add_le_add hbx hby) hb
      rw [Nat.pow_add]
      exact Nat.mul_lt_mul'' hx hy

theorem isBelow_unpackedOfNat {n a : ℕ} (hn : n < 2 ^ a) :
    IsBelow (a + 54) (2 * a + 107) (UnpackedFloat.ofNat .binary64 n) := by
  unfold UnpackedFloat.ofNat UnpackedFloat.ofInt UnpackedFloat.normalize
  split
  · rename_i hc
    have hlt := Int.compare_eq_lt.1 hc
    omega
  · exact .zero _
  · exact isBelow_round .positive hn

theorem isInf_mul_one {n : ℕ} (hn : n < 2 ^ 53) :
    (n.toUInt64.toFloat * Float.ofBits 0x3FF0000000000000).isInf = false := by
  have hu : n.toUInt64.toNat < 2 ^ 53 := by
    rw [Nat.toUInt64_eq, UInt64.toNat_ofNat']
    exact (Nat.mod_le _ _).trans_lt hn
  have hx : IsBelow 53 213 n.toUInt64.toFloat.toModel.unpack :=
    isBelow_unpack_pack (isBelow_unpackedOfNat hu) (by decide) (by decide)
  have hone : (0x3FF0000000000000 : UInt64).toBitVec =
      packComponents .binary64 .positive 1023#11 0#52 := by decide
  have hb : IsBelow 53 0 (UnpackedFloat.unpack .binary64 (0x3FF0000000000000 : UInt64).toBitVec) := by
    rw [hone]
    exact isBelow_unpack_packComponents .positive 0#52 (by decide) (by decide) (by decide)
  have hy : IsBelow 53 0 (Float.ofBits 0x3FF0000000000000).toModel.unpack :=
    isBelow_unpack_pack hb (by decide) (by decide)
  exact isInf_of_isBelow (isBelow_unpack_pack (isBelow_mul hx hy (by decide)) (by decide) (by decide))

theorem ofScientific_eq_mul {n : ℕ} (hz : n ≠ 0) (hp : 0 < n <<< 53) :
    UnpackedFloat.ofScientific .binary64 n 0 = UnpackedFloat.mul .binary64
      (.finite .positive (n <<< 53) (-53) hp) (.finite .positive 1 0 (by decide)) := by
  have hlow : ¬ (0 : ℤ) < -((2 ^ Format.binary64.exponentBits : ℤ) + n.log2) := by
    have he : (2 ^ Format.binary64.exponentBits : ℤ) = 2048 := by decide
    rw [he]
    omega
  unfold UnpackedFloat.ofScientific
  rw [dif_neg hz, if_neg (by decide), if_neg hlow, if_pos (Int.le_refl 0)]
  rfl

theorem isBelow_ofScientific {n : ℕ} (hn : n < 2 ^ 70) :
    IsBelow 125 196 (UnpackedFloat.ofScientific .binary64 n 0) := by
  by_cases hz : n = 0
  · subst hz
    exact .zero _
  · have hp : 0 < n <<< 53 := by
      rw [Nat.shiftLeft_eq]
      omega
    rw [ofScientific_eq_mul hz hp]
    have hn' : n <<< 53 < 2 ^ 123 := by
      rw [Nat.shiftLeft_eq, Nat.pow_add 2 70 53]
      exact Nat.mul_lt_mul_of_pos_right hn (by decide)
    have hx : IsBelow 123 (-53) (.finite .positive (n <<< 53) (-53) hp) :=
      .finite hn' (Int.le_refl _)
    have hy : IsBelow 1 0 (.finite .positive 1 0 (by decide)) := .finite (by decide) (Int.le_refl _)
    exact isBelow_mul hx hy (by decide)

theorem isInf_ofNat {n : ℕ} (hn : n < 2 ^ 70) : (Float.ofNat n).isInf = false := by
  change (Float.ofScientific n false 0).isInf = false
  unfold Float.ofScientific
  split
  · rename_i h
    exact isInf_mul_one h.1
  · exact isInf_of_isBelow (isBelow_unpack_pack (isBelow_ofScientific hn) (by decide) (by decide))

theorem exists_nearest? {n : ℕ} (hn : n < 2 ^ 70) : ∃ x, nearest? n = some x := by
  have h : (Float.ofInt n).isInf = false := isInf_ofNat hn
  exact ⟨Float.ofInt n, by simp [nearest?, h]⟩

theorem le_zero_of_beq_zero {x : Float} (h : (x == 0.0) = true) : x ≤ 0.0 := by
  have hc : (x.toModel.unpack.compare (0.0 : Float).toModel.unpack == some .eq) = true := h
  have hl : (x.toModel.unpack.compare (0.0 : Float).toModel.unpack).any (·.isLE) = true := by
    rw [beq_iff_eq.1 hc]
    rfl
  have hm : x.toModel ≤ (0.0 : Float).toModel := hl
  exact decide_eq_true hm

end CellFlow.Number
