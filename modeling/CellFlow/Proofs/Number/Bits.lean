import CellFlow.Proofs.Number.Nearest

/-!
Doubles and their bits: numbers of 53 bits within the range of exponents come back from their bits
as they were, and an integer among them is cut to itself.
-/

set_option autoImplicit false

namespace CellFlow.Number

open Float.Model
open Float.Model.UnpackedFloat (packComponents packedInfinity Sign unpackMantissa unpackExponent unpackSign
  unpackMantissa_packComponents unpackExponent_packComponents)

theorem log2_eq_of_le {m : ℕ} (h : 2 ^ 52 ≤ m) (h' : m < 2 ^ 53) : m.log2 = 52 :=
  (Nat.log2_eq_iff (by omega)).2 ⟨h, h'⟩

theorem le_of_log2_eq {m k : ℕ} (h : m.log2 = k) (hm : 0 < m) : 2 ^ k ≤ m ∧ m < 2 ^ (k + 1) :=
  (Nat.log2_eq_iff (Nat.ne_of_gt hm)).1 h

theorem unpackSign_packComponents (s : Sign) (e : BitVec 11) (m : BitVec 52) :
    unpackSign (packComponents .binary64 s e m) = s.toBitVec := by
  change (s.toBitVec ++ e ++ m).extractLsb' 63 1 = s.toBitVec
  rw [BitVec.extractLsb'_append_eq_of_le (by decide), BitVec.extractLsb'_append_eq_of_le (by decide)]
  cases s <;> rfl

theorem ofBitVec_toBitVec (s : Sign) : Sign.ofBitVec s.toBitVec = s := by cases s <;> rfl

theorem toNat_one_append (m : BitVec 52) : (1#1 ++ m).toNat = 2 ^ 52 + m.toNat := by
  rw [BitVec.toNat_append, Nat.shiftLeft_eq]
  change 2 ^ 52 ||| m.toNat = _
  rw [Nat.or_comm, Nat.or_two_pow_eq_add_of_lt m.isLt, Nat.add_comm]

theorem unpack_packComponents (s : Sign) {x : BitVec 11} (f : BitVec 52) (h : x ≠ 0#11) (h' : x ≠ -1#11) :
    UnpackedFloat.unpack .binary64 (packComponents .binary64 s x f) =
      .finite s (2 ^ 52 + f.toNat) (x.toNat - 1075) (Nat.add_pos_left (by decide) _) := by
  simp only [UnpackedFloat.unpack, unpackMantissa_packComponents, unpackExponent_packComponents,
    unpackSign_packComponents, ofBitVec_toBitVec, if_neg h, if_neg h', toNat_one_append, exponentBias_binary64]
  rfl

theorem pack_finite (s : Sign) {m : ℕ} {e : ℤ} (hm : 0 < m) (hl : m.log2 = 52) :
    UnpackedFloat.pack .binary64 (.finite s m e hm) = if e ≤ 971 then
      packComponents .binary64 s (BitVec.ofNat 11 (e + 1075).toNat) (BitVec.ofNat 52 m)
    else packedInfinity .binary64 s := by
  have hb : e + (Format.binary64.exponentBias : ℕ) + (52 : ℕ) = e + 1075 := by
    rw [exponentBias_binary64]
    omega
  simp only [UnpackedFloat.pack, hl, hb]
  by_cases he : e ≤ 971
  · have hin : ¬ 2 ^ 11 ≤ (e + 1075).toNat + 1 := by omega
    rw [if_neg hin, if_pos he]
    rfl
  · have hout : 2 ^ 11 ≤ (e + 1075).toNat + 1 := by omega
    rw [if_pos hout, if_neg he]

/-- Numbers of 53 bits within the range of exponents are packed as they are. -/
theorem unpack_pack_finite (s : Sign) {m : ℕ} {e : ℤ} (hm : 0 < m) (hl : m.log2 = 52) (he : -1074 ≤ e)
    (he' : e ≤ 971) : UnpackedFloat.unpack .binary64 (UnpackedFloat.pack .binary64 (.finite s m e hm)) =
      .finite s m e hm := by
  obtain ⟨hlow, hhigh⟩ := le_of_log2_eq hl hm
  have hx : (BitVec.ofNat 11 (e + 1075).toNat).toNat = (e + 1075).toNat := by
    rw [BitVec.toNat_ofNat]
    omega
  have hf : 2 ^ 52 + (BitVec.ofNat 52 m).toNat = m := by
    rw [BitVec.toNat_ofNat]
    omega
  have hne (y : BitVec 11) (hy : (e + 1075).toNat ≠ y.toNat) : BitVec.ofNat 11 (e + 1075).toNat ≠ y :=
    fun hc => hy (hx.symm.trans (congrArg BitVec.toNat hc))
  have he'' : ((e + 1075).toNat : ℤ) - 1075 = e := by omega
  rw [pack_finite s hm hl, if_pos he']
  have h0 : (e + 1075).toNat ≠ (0#11).toNat := by simp; omega
  have h1 : (e + 1075).toNat ≠ (-1#11).toNat := by simp; omega
  rw [unpack_packComponents s _ (hne _ h0) (hne _ h1)]
  simp only [hx, hf, he'']

theorem toNat_exponentBits (b : UInt64) :
    ((b >>> 52) &&& 0x7FF).toNat = (@unpackExponent Format.binary64 b.toBitVec).toNat := by
  have h : (@unpackExponent Format.binary64 b.toBitVec).toNat = b.toBitVec.toNat >>> 52 % 2 ^ 11 := by
    simp only [unpackExponent, BitVec.toNat_cast, BitVec.extractLsb_toNat]
  rw [h, UInt64.toNat_and, UInt64.toNat_shiftRight]
  exact Nat.and_two_pow_sub_one_eq_mod _ 11

theorem toNat_mantissaBits (b : UInt64) :
    (b &&& 0xFFFFFFFFFFFFF).toNat = (@unpackMantissa Format.binary64 b.toBitVec).toNat := by
  have h : (@unpackMantissa Format.binary64 b.toBitVec).toNat = b.toBitVec.toNat % 2 ^ 52 := by
    simp only [unpackMantissa, BitVec.toNat_cast, BitVec.extractLsb_toNat, Nat.shiftRight_zero]
  rw [h, UInt64.toNat_and]
  exact Nat.and_two_pow_sub_one_eq_mod _ 52

theorem signBit_iff (b : UInt64) :
    (b >>> 63 == 1) = true ↔ Sign.ofBitVec (@unpackSign Format.binary64 b.toBitVec) = .negative := by
  have h : (@unpackSign Format.binary64 b.toBitVec).toNat = b.toNat >>> 63 % 2 := by
    simp only [unpackSign, BitVec.toNat_cast, BitVec.extractLsb_toNat]
    rfl
  have hb : b.toNat >>> 63 < 2 := by
    have := b.toNat_lt
    rw [Nat.shiftRight_eq_div_pow]
    omega
  have h0 : (b >>> 63 == 1) = true ↔ b.toNat >>> 63 = 1 := by
    rw [beq_iff_eq, ← UInt64.toNat_inj, UInt64.toNat_shiftRight]
    rfl
  rw [h0, Sign.ofBitVec]
  split
  · rename_i hz
    rw [hz] at h
    have : (0#1).toNat = 0 := rfl
    simp
    omega
  · rename_i hz
    have : (@unpackSign Format.binary64 b.toBitVec).toNat ≠ 0 := fun hc => hz (BitVec.eq_of_toNat_eq hc)
    simp
    omega

theorem magnitude_of_finite {x : Float} {s : Sign} {m : ℕ} {e : ℤ} {hm : 0 < m}
    (h : x.toModel.unpack = .finite s m e hm) :
    (magnitude x).m = m ∧ (magnitude x).q = e ∧ (isNegative x = true ↔ s = .negative) := by
  have hx : x.toBits = x.toModel.toBits := rfl
  simp only [Float.Model.unpack, UnpackedFloat.unpack] at h
  simp only [magnitude, isNegative, Magnitude.ofBits, hx, toNat_exponentBits, toNat_mantissaBits, signBit_iff]
  split at h
  · split at h <;> cases h
  · split at h
    · rename_i hz
      split at h
      · cases h
      · simp only [UnpackedFloat.finite.injEq] at h
        obtain ⟨rfl, rfl, rfl⟩ := h
        simp [hz, exponentBias_binary64]
    · rename_i hz
      have hz' : (@unpackExponent Format.binary64 x.toModel.toBits.toBitVec).toNat ≠ 0 :=
        fun hc => hz (BitVec.eq_of_toNat_eq hc)
      simp only [UnpackedFloat.finite.injEq] at h
      obtain ⟨rfl, rfl, rfl⟩ := h
      simp only [if_neg hz', toNat_one_append, exponentBias_binary64]
      exact ⟨rfl, rfl, trivial⟩

theorem magnitude_of_zero {x : Float} {s : Sign} (h : x.toModel.unpack = .zero s) :
    (magnitude x).m = 0 := by
  have hx : x.toBits = x.toModel.toBits := rfl
  simp only [Float.Model.unpack, UnpackedFloat.unpack] at h
  simp only [magnitude, Magnitude.ofBits, hx, toNat_exponentBits, toNat_mantissaBits]
  split at h
  · split at h <;> cases h
  · split at h
    · rename_i hz
      split at h
      · rename_i hm
        simp [hz, hm]
      · cases h
    · cases h

/-- Doubles are finite, infinite or no numbers. -/
theorem isFinite_eq (x : Float) : x.isFinite = (!x.isNaN && !x.isInf) := by
  change x.toModel.unpack.isFinite = (!x.toModel.unpack.isNaN && !x.toModel.unpack.isInf)
  cases x.toModel.unpack <;> rfl

theorem isNaN_of_isInf {x : Float} (h : x.isInf = true) : x.isNaN = false := by
  have hi : x.toModel.unpack.isInf = true := h
  change x.toModel.unpack.isNaN = false
  cases hx : x.toModel.unpack with
  | notANumber =>
    rw [hx] at hi
    cases hi
  | infinity s => rfl
  | zero s => rfl
  | finite s m e hm => rfl

/-- The integer v is m * 2^e: a negative power stands on its own side. -/
def IsScaled (m : ℕ) (e : ℤ) (v : ℕ) : Prop := m * 2 ^ e.toNat = v * 2 ^ (-e).toNat

namespace IsScaled

variable {m v c : ℕ} {e : ℤ}

theorem of_nonneg (h : IsScaled m e v) (he : 0 ≤ e) : m * 2 ^ e.toNat = v := by
  have hz : (-e).toNat = 0 := by omega
  rwa [IsScaled, hz, pow_zero, Nat.mul_one] at h

theorem of_nonpos (h : IsScaled m e v) (he : e ≤ 0) : m = v * 2 ^ (-e).toNat := by
  have hz : e.toNat = 0 := by omega
  rwa [IsScaled, hz, pow_zero, Nat.mul_one] at h

theorem le (h : IsScaled m e v) : v ≤ m * 2 ^ e.toNat :=
  (Nat.le_mul_of_pos_right v (Nat.two_pow_pos _)).trans h.ge

/-- Bits move from the mantissa to the exponent. -/
theorem add (h : IsScaled (m * 2 ^ c) e v) : IsScaled m (e + c) v := by
  have hp : (e + c).toNat + (-e).toNat = c + e.toNat + (-(e + c)).toNat := by omega
  rw [IsScaled] at h
  refine Nat.eq_of_mul_eq_mul_right (Nat.two_pow_pos (-e).toNat) ?_
  calc m * 2 ^ (e + c).toNat * 2 ^ (-e).toNat
      = m * 2 ^ c * 2 ^ e.toNat * 2 ^ (-(e + c)).toNat := by
        rw [Nat.mul_assoc, ← pow_add, hp, pow_add, pow_add]
        ring
    _ = v * 2 ^ (-(e + c)).toNat * 2 ^ (-e).toNat := by
        rw [h]
        ring

theorem floor_eq {x : Magnitude} (h : IsScaled x.m x.q v) : x.floor = v := by
  rw [Magnitude.floor]
  split
  · rename_i hq
    exact h.of_nonneg hq
  · rename_i hq
    rw [h.of_nonpos (by omega)]
    exact Nat.mul_div_cancel v (Nat.two_pow_pos _)

end IsScaled

/-- A double that is an integer: the size of it, by a sign. -/
inductive IsInteger (s : Sign) (v : ℕ) : UnpackedFloat → Prop where
  | zero (hv : v = 0) : IsInteger s v (.zero s)
  | finite {m : ℕ} {e : ℤ} {hm : 0 < m} (hl : m.log2 = 52) (he : -1074 ≤ e) (he' : e ≤ 971)
    (hv : IsScaled m e v) : IsInteger s v (.finite s m e hm)

namespace IsInteger

variable {s : Sign} {v : ℕ}

theorem unpack_pack {u : UnpackedFloat} (h : IsInteger s v u) :
    UnpackedFloat.unpack .binary64 (UnpackedFloat.pack .binary64 u) = u := by
  cases h with
  | zero hv => cases s <;> rfl
  | finite hl he he' hv => exact unpack_pack_finite s _ hl he he'

theorem neg {x : Float} (h : IsInteger s v x.toModel.unpack) : IsInteger (-s) v (-x).toModel.unpack := by
  have hn : IsInteger (-s) v x.toModel.unpack.neg := by
    generalize x.toModel.unpack = u at h
    cases h with
    | zero hv => exact .zero hv
    | finite hl he he' hv => exact .finite hl he he' hv
  have hp : (-x).toModel.unpack = UnpackedFloat.unpack .binary64 (UnpackedFloat.pack .binary64 x.toModel.unpack.neg) :=
    rfl
  rwa [hp, hn.unpack_pack]

theorem isFinite {x : Float} (h : IsInteger s v x.toModel.unpack) : x.isFinite = true := by
  change x.toModel.unpack.isFinite = true
  generalize x.toModel.unpack = u at h
  cases h with
  | zero hv => rfl
  | finite hl he he' hv => rfl

/-- Nothing of an integer is cut off. -/
theorem truncate_eq {x : Float} (h : IsInteger s v x.toModel.unpack) : truncate x = s.apply v := by
  generalize hu : x.toModel.unpack = u at h
  cases h with
  | zero hv =>
    have hf : (magnitude x).floor = 0 := by
      rw [Magnitude.floor, magnitude_of_zero hu, Nat.zero_mul, Nat.zero_div, ite_self]
    simp only [truncate, hf, hv]
    cases s <;> simp [Sign.apply]
  | finite hl he he' hv =>
    obtain ⟨hm, hq, hs⟩ := magnitude_of_finite hu
    have hf : (magnitude x).floor = v := IsScaled.floor_eq (by rwa [hm, hq])
    rw [truncate, hf]
    cases s with
    | negative => exact if_pos (hs.2 rfl)
    | positive => exact if_neg fun h => nomatch hs.1 h

theorem lt {u : UnpackedFloat} (h : IsInteger s v u) : v < 2 ^ 1024 := by
  cases h with
  | zero hv =>
    rw [hv]
    positivity
  | @finite m e hm hl he he' hv =>
    have hm' := (le_of_log2_eq hl hm).2
    calc v ≤ m * 2 ^ e.toNat := hv.le
      _ < 2 ^ 53 * 2 ^ e.toNat := Nat.mul_lt_mul_of_pos_right hm' (Nat.two_pow_pos _)
      _ ≤ 2 ^ 53 * 2 ^ 971 := by gcongr <;> omega
      _ = 2 ^ 1024 := by rw [← pow_add]

end IsInteger

/-- A mantissa of 53 bits is packed as the integer that it stands for, unless that is beyond
all doubles. -/
theorem unpack_pack_integer (s : Sign) {m v : ℕ} {e : ℤ} (hm : 0 < m) (hl : m.log2 = 52) (he : -1074 ≤ e)
    (hv : IsScaled m e v) :
    let u := UnpackedFloat.unpack .binary64 (UnpackedFloat.pack .binary64 (.finite s m e hm))
    (v < 2 ^ 1024 → IsInteger s v u) ∧ (2 ^ 1024 ≤ v → u = .infinity s) := by
  intro u
  by_cases he' : e ≤ 971
  · have h : IsInteger s v u := by
      have hu : u = .finite s m e hm := unpack_pack_finite s hm hl he he'
      rw [hu]
      exact .finite hl he he' hv
    exact ⟨fun _ => h, fun hc => absurd h.lt (Nat.not_lt.2 hc)⟩
  · have hbig : 2 ^ 1024 ≤ v := by
      calc 2 ^ 1024 = 2 ^ 52 * 2 ^ 972 := by rw [← pow_add]
        _ ≤ m * 2 ^ e.toNat := by
          have := (le_of_log2_eq hl hm).1
          gcongr <;> omega
        _ = v := hv.of_nonneg (by omega)
    refine ⟨fun hc => absurd hc (Nat.not_lt.2 hbig), fun _ => ?_⟩
    have hu : u = UnpackedFloat.unpack .binary64 (packedInfinity .binary64 s) := by
      simp only [u, pack_finite s hm hl, if_neg he']
    rw [hu]
    cases s <;> rfl

end CellFlow.Number
