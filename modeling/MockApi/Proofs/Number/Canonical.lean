import Mathlib
import MockApi.Number.Double

/-! # Packed and unpacked doubles

A double is a word of 64 bits: a sign, a biased exponent and a fraction. Unpacking gives canonical
sign, mantissa and exponent, which packing takes back to the same word, and they are the parts that
the exact view reads off the bits.
-/

namespace MockApi.Double

open Float.Model

/-! ## The fields of a word -/

section Fields

variable (b : BitVec Format.binary64.numBits)

theorem toNat_unpackMantissa :
    (UnpackedFloat.unpackMantissa b).toNat = b.toNat % 2 ^ 52 := by
  rw [UnpackedFloat.unpackMantissa_def, BitVec.extractLsb'_toNat, Nat.shiftRight_zero]

theorem toNat_unpackExponent :
    (UnpackedFloat.unpackExponent b).toNat = b.toNat / 2 ^ 52 % 2048 := by
  rw [UnpackedFloat.unpackExponent_def, BitVec.extractLsb'_toNat, Nat.shiftRight_eq_div_pow]
  rfl

theorem toNat_unpackSign : (UnpackedFloat.unpackSign b).toNat = b.toNat / 2 ^ 63 := by
  have hb : b.toNat < 2 ^ 64 := b.isLt
  rw [UnpackedFloat.unpackSign_def, BitVec.extractLsb'_toNat, Nat.shiftRight_eq_div_pow]
  change b.toNat / 2 ^ 63 % 2 ^ 1 = b.toNat / 2 ^ 63
  omega

/-- The sign that the highest bit of a word gives. -/
def signOf : UnpackedFloat.Sign :=
  if 2 ^ 63 ≤ b.toNat then .negative else .positive

theorem ofBitVec_unpackSign :
    UnpackedFloat.Sign.ofBitVec (UnpackedFloat.unpackSign b) = signOf b := by
  have hs := toNat_unpackSign b
  unfold UnpackedFloat.Sign.ofBitVec signOf
  simp only [BitVec.toNat_eq, hs]
  split <;> split <;> simp at * <;> omega

theorem toNat_append_implicit (m : BitVec 52) : (1#1 ++ m).toNat = m.toNat + 2 ^ 52 := by
  rw [BitVec.toNat_append, ← Nat.shiftLeft_add_eq_or_of_lt m.isLt]
  simp [Nat.shiftLeft_eq, Nat.add_comm]

theorem unpack_eq :
    UnpackedFloat.unpack Format.binary64 b =
      if b.toNat / 2 ^ 52 % 2048 = 2047 then
        if b.toNat % 2 ^ 52 = 0 then .infinity (signOf b) else .notANumber
      else if b.toNat / 2 ^ 52 % 2048 = 0 then
        if h : b.toNat % 2 ^ 52 = 0 then .zero (signOf b)
        else .finite (signOf b) (b.toNat % 2 ^ 52) (-1074) (Nat.pos_of_ne_zero h)
      else
        .finite (signOf b) (b.toNat % 2 ^ 52 + 2 ^ 52) ((b.toNat / 2 ^ 52 % 2048 : ℕ) - 1075)
          (Nat.add_pos_right _ (Nat.two_pow_pos _)) := by
  have hbias : ((Format.binary64.exponentBias : ℕ) : ℤ) + ((52 : ℕ) : ℤ) = 1075 := rfl
  unfold UnpackedFloat.unpack
  simp only [BitVec.toNat_eq, ofBitVec_unpackSign, toNat_append_implicit, toNat_unpackMantissa,
    toNat_unpackExponent, hbias]
  refine ite_congr rfl (fun _ => rfl) fun _ => ite_congr rfl (fun hsub => ?_) fun _ => rfl
  refine dite_congr rfl (fun _ => rfl) fun _ => ?_
  rw [hsub]
  rfl

end Fields

/-! ## Canonical parts -/

/-- The unpacked doubles that a word stands for: finite ones have 53 bits, fewer only at the
smallest exponent. -/
inductive Canonical : UnpackedFloat → Prop
  | notANumber : Canonical .notANumber
  | infinity (s) : Canonical (.infinity s)
  | zero (s) : Canonical (.zero s)
  | finite (s) {m e} (h : 0 < m) (size : m < 2 ^ 53) (low : -1074 ≤ e) (high : e ≤ 971)
      (normal : 2 ^ 52 ≤ m ∨ e = -1074) : Canonical (.finite s m e h)

theorem canonical_unpack_word (b : BitVec Format.binary64.numBits) :
    Canonical (UnpackedFloat.unpack Format.binary64 b) := by
  rw [unpack_eq]
  split
  next =>
    split
    · exact .infinity _
    · exact .notANumber
  next hfin =>
    split
    next hsub =>
      split
      · exact .zero _
      · exact .finite _ _ (by omega) (by omega) (by omega) (.inr rfl)
    next => exact .finite _ _ (by omega) (by omega) (by omega) (.inl (by omega))

theorem canonical_unpack (x : Float) : Canonical x.toModel.unpack :=
  canonical_unpack_word x.toModel.toBits.toBitVec

/-- Sign, mantissa and exponent of an unpacked double, nothing for an infinity or NaN. -/
def partsOf : UnpackedFloat → Option Parts
  | .finite s m e _ => some ⟨s == .negative, m, e⟩
  | .zero s => some ⟨s == .negative, 0, -1074⟩
  | _ => none

theorem signOf_beq_negative (b : BitVec Format.binary64.numBits) :
    (signOf b == .negative) = decide (2 ^ 63 ≤ b.toNat) := by
  unfold signOf
  split
  next h => exact (decide_eq_true h).symm
  next h => exact (decide_eq_false h).symm

theorem parts?_eq (x : Float) : parts? x = partsOf x.toModel.unpack := by
  change parts? x = partsOf (UnpackedFloat.unpack Format.binary64 x.toModel.toBits.toBitVec)
  have hbits : x.toBits.toNat = x.toModel.toBits.toBitVec.toNat := rfl
  rw [unpack_eq, parts?]
  simp only [twoTo, Nat.pow_eq, hbits]
  generalize x.toModel.toBits.toBitVec = b
  split
  next => split <;> rfl
  next =>
    split
    next =>
      split
      next hzero => simp only [partsOf, signOf_beq_negative, hzero]
      next => simp only [partsOf, signOf_beq_negative]
    next => simp only [partsOf, signOf_beq_negative]

/-! ## Packing -/

theorem pack_finite {s : UnpackedFloat.Sign} {m : ℕ} {e : ℤ} {h : 0 < m} (size : m < 2 ^ 53)
    (low : -1074 ≤ e) (high : e ≤ 971) :
    UnpackedFloat.pack Format.binary64 (.finite s m e h) =
      UnpackedFloat.packComponents Format.binary64 s
        (BitVec.ofNat _ (if 2 ^ 52 ≤ m then (e + 1075).toNat else 0)) (BitVec.ofNat _ m) := by
  have hlog : m.log2 + 1 = 53 ↔ 2 ^ 52 ≤ m := by
    have hlog2 : m.log2 = 52 ↔ 2 ^ 52 ≤ m ∧ m < 2 ^ 53 := Nat.log2_eq_iff (by omega)
    omega
  have hbiased : e + (Format.binary64.exponentBias : ℤ) +
      (Format.binary64.mantissaBitsWithoutImplicit : ℤ) = e + 1075 := by
    rw [add_assoc]
    rfl
  have hroom : ¬ 2 ^ 11 ≤ (e + 1075).toNat + 1 := by omega
  unfold UnpackedFloat.pack
  simp only [hbiased, if_neg hroom]
  change (if m.log2 + 1 = 53 then _ else _) = _
  simp only [hlog]
  split <;> rfl

theorem unpack_pack {u : UnpackedFloat} (hu : Canonical u) :
    (Float.Model.pack u).unpack = u := by
  change UnpackedFloat.unpack Format.binary64 (UnpackedFloat.pack Format.binary64 u) = u
  cases hu with
  | notANumber => rfl
  | infinity s => cases s <;> rfl
  | zero s => cases s <;> rfl
  | @finite s m e h size low high normal =>
      have hbias : ((Format.binary64.exponentBias : ℕ) : ℤ) + ((52 : ℕ) : ℤ) = 1075 := rfl
      have hones : (-1#11).toNat = 2047 := rfl
      rw [pack_finite size low high]
      unfold UnpackedFloat.unpack
      simp only [UnpackedFloat.unpackMantissa_packComponents,
        UnpackedFloat.unpackExponent_packComponents, UnpackedFloat.unpackSign_packComponents,
        UnpackedFloat.Sign.ofBitVec_toBitVec, toNat_append_implicit, BitVec.toNat_eq,
        BitVec.toNat_ofNat, hones, hbias]
      -- a mantissa without its highest bit is stored beside the exponent zero
      by_cases hsize : 2 ^ 52 ≤ m
      · simp only [if_pos hsize]
        rw [if_neg (by omega), if_neg (by omega)]
        congr 1 <;> omega
      · simp only [if_neg hsize]
        rw [if_neg (by omega), if_pos trivial, dif_neg (show m % 2 ^ 52 ≠ 0 by omega)]
        congr 1 <;> omega

/-- Doubles with the same parts are the same. -/
theorem unpack_injective {x y : Float} (h : x.toModel.unpack = y.toModel.unpack) : x = y :=
  Float.toBits_inj.mp (UInt64.toBitVec_inj.mp
    ((UnpackedFloat.unpack_inj_of_valid x.toModel.valid y.toModel.valid).mp h))

/-! ## The sign bit -/

/-- The word of the sign alone. -/
def signBit : BitVec Format.binary64.numBits := 0x8000000000000000#64

/-- Changing the sign bit changes the sign and nothing else. -/
theorem unpack_xor_signBit (b : BitVec Format.binary64.numBits) :
    UnpackedFloat.unpack Format.binary64 (b ^^^ signBit) =
      (UnpackedFloat.unpack Format.binary64 b).neg := by
  have hmantissa :
      UnpackedFloat.unpackMantissa (b ^^^ signBit) = UnpackedFloat.unpackMantissa b := by
    have hzero : BitVec.extractLsb' 0 52 signBit = 0#52 := by decide
    rw [UnpackedFloat.unpackMantissa_def, UnpackedFloat.unpackMantissa_def,
      BitVec.extractLsb'_xor]
    exact (congrArg _ hzero).trans BitVec.xor_zero
  have hexponent :
      UnpackedFloat.unpackExponent (b ^^^ signBit) = UnpackedFloat.unpackExponent b := by
    have hzero : BitVec.extractLsb' 52 11 signBit = 0#11 := by decide
    rw [UnpackedFloat.unpackExponent_def, UnpackedFloat.unpackExponent_def,
      BitVec.extractLsb'_xor]
    exact (congrArg _ hzero).trans BitVec.xor_zero
  have hsign : UnpackedFloat.Sign.ofBitVec (UnpackedFloat.unpackSign (b ^^^ signBit)) =
      -UnpackedFloat.Sign.ofBitVec (UnpackedFloat.unpackSign b) := by
    have hone : BitVec.extractLsb' 63 1 signBit = 1#1 := by decide
    rw [UnpackedFloat.unpackSign_def, UnpackedFloat.unpackSign_def, BitVec.extractLsb'_xor]
    change UnpackedFloat.Sign.ofBitVec (_ ^^^ BitVec.extractLsb' 63 1 signBit) = _
    rw [hone]
    generalize BitVec.extractLsb' _ 1 b = s
    obtain rfl | rfl : s = 0#1 ∨ s = 1#1 := by
      revert s
      decide
    · rfl
    · rfl
  unfold UnpackedFloat.unpack
  simp only [hmantissa, hexponent, hsign]
  split
  next => split <;> rfl
  next =>
    split
    next => split <;> rfl
    next => rfl

theorem unpack_negate (x : Float) : (negate x).toModel.unpack = x.toModel.unpack.neg := by
  change (Float.Model.pack (UnpackedFloat.unpack Format.binary64
    (x.toModel.toBits.toBitVec ^^^ signBit))).unpack = _
  rw [unpack_pack (canonical_unpack_word _), unpack_xor_signBit]
  rfl

end MockApi.Double
