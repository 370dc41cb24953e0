import Mathlib
import TemplateLiteral.Number.Remainder

/-!
# Doubles

A double is determined by its sign, its mantissa and its exponent, and these are in canonical form:
the mantissa has all of its bits unless the exponent is the least. Whatever has this form and an
exponent that is not too great is what the bits of a double are read as.

## Main definitions

* `Canonical`: the mantissas and exponents of doubles

## Main results

* `unpack_inj`: a double is determined by its parts
* `unpack_neg`: the parts of the opposite number
* `Canonical.unpack_pack`: the parts of what is packed
-/

namespace TemplateLiteral.Number

open Float.Model (UnpackedFloat)
open Float.Model.Format (binary64)
open Float.Model.UnpackedFloat

/-! ## Parts of doubles -/

/-- The mantissa and the exponent of a double that is finite and not zero. -/
structure Canonical (m : Nat) (e : Int) : Prop where
  pos : 0 < m
  lt : m < 2 ^ 53
  least : -1074 ≤ e
  normal : 2 ^ 52 ≤ m ∨ e = -1074

section Parts

variable {x y : Float}

/-- A double is determined by its parts. -/
theorem unpack_inj : x.toModel.unpack = y.toModel.unpack ↔ x = y := by
  constructor
  · intro h
    have hbits := (unpack_inj_of_valid x.toModel.valid y.toModel.valid).1 h
    exact Float.toBits_inj.1 (UInt64.toBitVec_inj.1 hbits)
  · rintro rfl
    rfl

theorem ofModel_pack_unpack (x : Float) : Float.ofModel (.pack x.toModel.unpack) = x :=
  Float.ofBits_toBits x

theorem bias_binary64 :
    (binary64.exponentBias : Int) + binary64.mantissaBitsWithoutImplicit = 1075 := by decide

theorem canonical_of_unpack_bits {b : BitVec binary64.numBits} {s : Sign} {m : Nat} {e : Int}
    {hm : 0 < m} (h : unpack binary64 b = .finite s m e hm) : Canonical m e ∧ e ≤ 971 := by
  have hmantissa := (unpackMantissa b).isLt
  have hlt : (unpackExponent b).toNat < 2048 := (unpackExponent b).isLt
  unfold unpack at h
  dsimp only at h
  split at h
  · split at h <;> cases h
  next hinfinite =>
  split at h
  next hexponent =>
    split at h
    · cases h
    -- A number below the normal ones has the least exponent.
    · obtain ⟨rfl, rfl, rfl⟩ := UnpackedFloat.finite.inj h
      rw [hexponent]
      exact ⟨⟨hm, by simpa using hmantissa.trans (by decide), by decide, .inr (by decide)⟩,
        by decide⟩
  next hexponent =>
    obtain ⟨rfl, rfl, rfl⟩ := UnpackedFloat.finite.inj h
    have hne : (unpackExponent b).toNat ≠ 0 := fun h => hexponent (BitVec.eq_of_toNat_eq h)
    have hfinite : (unpackExponent b).toNat ≠ 2047 := fun h => hinfinite (BitVec.eq_of_toNat_eq h)
    have hsum : (1#1 ++ unpackMantissa b).toNat = 2 ^ 52 + (unpackMantissa b).toNat := by
      rw [BitVec.toNat_append, ← Nat.shiftLeft_add_eq_or_of_lt hmantissa]
      rfl
    rw [hsum, bias_binary64]
    change (unpackMantissa b).toNat < 2 ^ 52 at hmantissa
    exact ⟨⟨by omega, by omega, by omega, .inl (by omega)⟩, by omega⟩

theorem canonical_of_unpack {s : Sign} {m : Nat} {e : Int} {hm : 0 < m}
    (h : x.toModel.unpack = .finite s m e hm) : Canonical m e :=
  (canonical_of_unpack_bits h).1

theorem exponent_le_of_unpack {s : Sign} {m : Nat} {e : Int} {hm : 0 < m}
    (h : x.toModel.unpack = .finite s m e hm) : e ≤ 971 :=
  (canonical_of_unpack_bits h).2

/-- The parts of the bits with the opposite sign. -/
theorem unpack_packComponents_neg {spec : Float.Model.Format} (s : Sign)
    (e : BitVec spec.exponentBits) (m : BitVec spec.mantissaBitsWithoutImplicit) :
    unpack spec (packComponents spec (-s) e m) = (unpack spec (packComponents spec s e m)).neg := by
  unfold unpack
  simp only [unpackMantissa_packComponents, unpackExponent_packComponents,
    unpackSign_packComponents, Sign.ofBitVec_toBitVec]
  split_ifs <;> rfl

theorem unpack_pack_neg (b : BitVec binary64.numBits) :
    unpack binary64 (pack binary64 (unpack binary64 b).neg) = (unpack binary64 b).neg := by
  by_cases hnan : unpack binary64 b = .notANumber
  · rw [hnan]
    exact unpack_packedNaN
  obtain ⟨s, e, m, rfl⟩ : ∃ s e m, b = packComponents binary64 s e m :=
    ⟨_, _, _, (packComponents_unpackSign_unpackExponent_unpackMantissa b).symm⟩
  -- What is a number has a bit pattern of its own, and so has its opposite.
  have hvalid : binary64.Valid (packComponents binary64 (-s) e m) := by
    refine ⟨fun hexponent hmantissa => absurd ?_ hnan⟩
    rw [unpackExponent_packComponents] at hexponent
    rw [unpackMantissa_packComponents] at hmantissa
    simp [unpack, hexponent, hmantissa]
  rw [← unpack_packComponents_neg, pack_unpack_of_valid hvalid]

/-- The parts of the opposite number. -/
theorem unpack_neg (x : Float) : (-x).toModel.unpack = x.toModel.unpack.neg :=
  unpack_pack_neg x.toModel.toBits.toBitVec

theorem neg_neg_eq (x : Float) : - -x = x := by
  rw [← unpack_inj, unpack_neg, unpack_neg]
  cases x.toModel.unpack with
  | notANumber => rfl
  | infinity s | zero s => cases s <;> rfl
  | finite s m e hm => cases s <;> rfl

theorem lt_iff_compare (x y : Float) :
    x < y ↔ UnpackedFloat.compare x.toModel.unpack y.toModel.unpack = some .lt := by
  change decide (x.toModel < y.toModel) = true ↔ _
  rw [decide_eq_true_iff]
  exact beq_iff_eq

/-- What compares equal to a number that is not zero is the number. -/
theorem eq_of_beq {s : Sign} {m : Nat} {e : Int} {hm : 0 < m}
    (hx : x.toModel.unpack = .finite s m e hm) (h : (y == x) = true) : y = x := by
  have hparts : y.toModel.unpack.beq x.toModel.unpack = true := h
  rw [beq_iff_ne_notANumber_and_eq, hx] at hparts
  obtain ⟨-, -, hsame | ⟨-, ⟨⟩⟩ | ⟨-, ⟨⟩⟩⟩ := hparts
  rwa [← hx, unpack_inj] at hsame

end Parts

/-! ## Packing -/

section Packing

variable {m : Nat} {e : Int}

theorem toNat_one_append {b : BitVec 52} (hlow : 2 ^ 52 ≤ m) (hlt : m < 2 ^ 53)
    (hb : b.toNat = m % 2 ^ 52) : (1#1 ++ b).toNat = m := by
  rw [BitVec.toNat_append, ← Nat.shiftLeft_add_eq_or_of_lt b.isLt, hb]
  change 1 <<< 52 + m % 2 ^ 52 = m
  omega

theorem unpack_pack_normal (hm : 0 < m) (hlow : 2 ^ 52 ≤ m) (hlt : m < 2 ^ 53)
    (hleast : -1074 ≤ e) (he : e ≤ 971) (s : Sign) :
    unpack binary64 (pack binary64 (.finite s m e hm)) = .finite s m e hm := by
  have hlog : m.log2 + 1 = binary64.mantissaBits :=
    congrArg (· + 1) ((Nat.log2_eq_iff hm.ne').2 ⟨hlow, hlt⟩)
  have hexponent : (BitVec.ofNat binary64.exponentBits (e + 1075).toNat).toNat =
      (e + 1075).toNat :=
    Nat.mod_eq_of_lt (by change _ < 2048; omega)
  have hzero : BitVec.ofNat binary64.exponentBits (e + 1075).toNat ≠ 0#_ := by
    intro h
    have hnat : (e + 1075).toNat = 0 := hexponent.symm.trans (congrArg BitVec.toNat h)
    omega
  have hinfinite : BitVec.ofNat binary64.exponentBits (e + 1075).toNat ≠ -1#_ := by
    intro h
    have hnat : (e + 1075).toNat = 2047 := hexponent.symm.trans (congrArg BitVec.toNat h)
    omega
  rw [pack]
  dsimp only
  rw [Int.add_assoc, bias_binary64, if_neg (by change ¬ 2048 ≤ _; omega), if_pos hlog]
  unfold unpack
  simp only [unpackExponent_packComponents, unpackMantissa_packComponents,
    unpackSign_packComponents, Sign.ofBitVec_toBitVec, if_neg hzero, if_neg hinfinite,
    toNat_one_append hlow hlt (BitVec.toNat_ofNat m 52), hexponent]
  congr 1
  rw [bias_binary64]
  omega

theorem unpack_pack_subnormal (hm : 0 < m) (hlt : m < 2 ^ 52) (s : Sign) :
    unpack binary64 (pack binary64 (.finite s m (-1074) hm)) = .finite s m (-1074) hm := by
  have hlog : m.log2 + 1 ≠ binary64.mantissaBits := by
    have := (Nat.log2_lt hm.ne').2 hlt
    change m.log2 + 1 ≠ 53
    omega
  have hmantissa : (BitVec.ofNat binary64.mantissaBitsWithoutImplicit m).toNat = m :=
    Nat.mod_eq_of_lt hlt
  have hzero : BitVec.ofNat binary64.mantissaBitsWithoutImplicit m ≠ 0#_ := by
    intro h
    exact hm.ne' (hmantissa.symm.trans (congrArg BitVec.toNat h))
  rw [pack]
  dsimp only
  rw [Int.add_assoc, bias_binary64, if_neg (by decide), if_neg hlog]
  unfold unpack
  simp only [unpackExponent_packComponents, unpackMantissa_packComponents,
    unpackSign_packComponents, Sign.ofBitVec_toBitVec, dif_neg hzero, hmantissa]
  rfl

/-- The bits of a double have its parts. -/
theorem Canonical.unpack_pack (h : Canonical m e) (he : e ≤ 971) (s : Sign) :
    unpack binary64 (pack binary64 (.finite s m e h.pos)) = .finite s m e h.pos := by
  rcases le_or_gt (2 ^ 52) m with hm | hm
  · exact unpack_pack_normal h.pos hm h.lt h.least he s
  · obtain rfl : e = -1074 := h.normal.resolve_left hm.not_ge
    exact unpack_pack_subnormal h.pos hm s

/-- What is greater than every double is packed as infinity. -/
theorem unpack_pack_of_lt (hm : 0 < m) (he : 971 < e) (s : Sign) :
    unpack binary64 (pack binary64 (.finite s m e hm)) = .infinity s := by
  rw [pack]
  dsimp only
  rw [Int.add_assoc, bias_binary64, if_pos (by change 2048 ≤ _; omega)]
  cases s <;> rfl

end Packing

end TemplateLiteral.Number
