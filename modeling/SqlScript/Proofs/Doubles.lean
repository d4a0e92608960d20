import Mathlib
import SqlScript.Number.Binary64

/-!
# Doubles and their order

What a comparison tells of a double: whatever is above something is a number, and a whole number
that is not below one has a whole part that is not zero.

* `isNaN_of_lt`, `isNaN_of_le`: what is no number compares to nothing.
* `Number.ofFloat_of_not_lt_one`: the exact reading of a whole number that is not below one.
* `Number.one_le_truncate`: its whole part.
-/

namespace SqlScript

open Float.Model

/-- What is no number compares to nothing. -/
theorem isNaN_of_compare {a b : UnpackedFloat} (h : a.compare b ≠ none) : b.isNaN = false := by
  rw [Bool.eq_false_iff, ne_eq, UnpackedFloat.isNaN_iff]
  rintro rfl
  exact h (by cases a <;> rfl)

theorem isNaN_of_lt {x y : Float} (h : x < y) : y.isNaN = false := by
  have hlt : (x.toModel.unpack.compare y.toModel.unpack == some .lt) = true := of_decide_eq_true h
  refine isNaN_of_compare (a := x.toModel.unpack) fun hnone => ?_
  rw [hnone] at hlt
  cases hlt

theorem isNaN_of_le {x y : Float} (h : x ≤ y) : y.isNaN = false := by
  have hle : (x.toModel.unpack.compare y.toModel.unpack).any Ordering.isLE = true :=
    of_decide_eq_true h
  refine isNaN_of_compare (a := x.toModel.unpack) fun hnone => ?_
  rw [hnone] at hle
  cases hle

namespace Number

open UnpackedFloat

section

variable (b : BitVec Format.binary64.numBits)

theorem toNat_unpackExponent : (unpackExponent b).toNat = b.toNat / 2 ^ 52 % 2 ^ 11 := by
  rw [unpackExponent_def, BitVec.extractLsb'_toNat, Nat.shiftRight_eq_div_pow]

theorem toNat_unpackSign : (unpackSign b).toNat = b.toNat / 2 ^ 63 % 2 := by
  rw [unpackSign_def, BitVec.extractLsb'_toNat, Nat.shiftRight_eq_div_pow, pow_one]
  rfl

end

/-- What is positive and has its exponent is compared with one by its exponent first. -/
theorem compare_one_of_exponent {s : Sign} {m : Nat} {e : Int} {hm : 0 < m}
    (h : (finite s m e hm).compare (finite .positive (2 ^ 52) (-52) (by decide)) ≠ some .lt) :
    s = .positive ∧ -52 ≤ e := by
  cases s with
  | negative => exact absurd rfl h
  | positive =>
    refine ⟨rfl, Int.not_lt.1 fun he => h ?_⟩
    rw [UnpackedFloat.compare, Int.compare_eq_lt.2 he]
    rfl

/-- **The bits of a double that is not below one**: the sign is not set, and the exponent is at
least that of one. -/
theorem bits_of_not_lt_one {b : BitVec Format.binary64.numBits}
    (hfinite : b.toNat / 2 ^ 52 % 2 ^ 11 ≠ 2047)
    (h : (UnpackedFloat.unpack Format.binary64 b).compare
      (.finite .positive (2 ^ 52) (-52) (by decide)) ≠ some .lt) :
    b.toNat < 2 ^ 63 ∧ 1023 ≤ b.toNat / 2 ^ 52 % 2 ^ 11 := by
  have hexponent := toNat_unpackExponent b
  have hsign := toNat_unpackSign b
  have hlt : b.toNat < 2 ^ 64 := b.isLt
  unfold UnpackedFloat.unpack at h
  dsimp only at h
  split at h
  · rename_i hones
    rw [hones] at hexponent
    exact absurd hexponent.symm hfinite
  · split at h
    · rename_i hzero
      split at h
      · exact absurd (by cases Sign.ofBitVec (unpackSign b) <;> rfl) h
      · -- the exponent of what begins with no bit is the least one
        obtain ⟨-, he⟩ := compare_one_of_exponent h
        rw [hzero] at he
        exact absurd he (by decide)
    · obtain ⟨hs, he⟩ := compare_one_of_exponent h
      have hplus : unpackSign b = 0#1 := by
        by_contra hminus
        simp [Sign.ofBitVec, hminus] at hs
      rw [hplus] at hsign
      rw [hexponent] at he
      have hbias : (Format.binary64.exponentBias : Int) +
          Format.binary64.mantissaBitsWithoutImplicit = 1075 := rfl
      rw [hbias] at he
      simp only [BitVec.toNat_ofNat] at hsign
      omega

section

variable {x : Float}

theorem isWhole_of_ones (h : x.toBits.toNat / 2 ^ 52 % 2 ^ 11 = 2047) : isWhole x = false := by
  have hones : x.toBits.toNat / (1 <<< 52) % (1 <<< 11) = 2047 := h
  unfold isWhole Binary64.ofFloat
  dsimp only
  rw [if_pos hones]
  by_cases hfraction : x.toBits.toNat % (1 <<< 52) = 0
  · rw [if_pos hfraction]
  · rw [if_neg hfraction]

/-- **A whole double that is not below one** is positive, and its first bit counts for one or
more. -/
theorem ofFloat_of_not_lt_one (h : ¬ x < 1) (hx : isWhole x = true) :
    ∃ m e : Nat, Binary64.ofFloat x = .finite false (2 ^ 52 + m) ((e : Int) - 52) := by
  have hone : (1 : Float).toModel.unpack = .finite .positive (2 ^ 52) (-52) (by decide) := rfl
  have hcompare : x.toModel.unpack.compare (.finite .positive (2 ^ 52) (-52) (by decide)) ≠
      some .lt := by
    intro hlt
    refine h (decide_eq_true (show (x.toModel.unpack.compare _ == _) = true from ?_))
    rw [hone, hlt]
    rfl
  have hfinite : x.toBits.toNat / 2 ^ 52 % 2 ^ 11 ≠ 2047 := fun hones => by
    simp [isWhole_of_ones hones] at hx
  obtain ⟨hpositive, hexponent⟩ := bits_of_not_lt_one hfinite hcompare
  have hpositive : ¬ 1 <<< 63 ≤ x.toBits.toNat := Nat.not_le.2 hpositive
  have hexponent : 1023 ≤ x.toBits.toNat / (1 <<< 52) % (1 <<< 11) := hexponent
  have hfinite : x.toBits.toNat / (1 <<< 52) % (1 <<< 11) ≠ 2047 := hfinite
  unfold Binary64.ofFloat
  dsimp only
  generalize x.toBits.toNat / (1 <<< 52) % (1 <<< 11) = biased at *
  have hread : (biased : Int) - 1075 = ((biased - 1023 : Nat) : Int) - 52 := by omega
  rw [if_neg hfinite, if_neg (by omega), decide_eq_false hpositive, hread]
  exact ⟨_, _, rfl⟩

/-- **Its whole part is not zero.** -/
theorem one_le_truncate (h : ¬ x < 1) (hx : isWhole x = true) : 1 ≤ truncate x := by
  obtain ⟨m, e, hread⟩ := ofFloat_of_not_lt_one h hx
  rw [truncate, hread]
  dsimp only
  rw [if_neg Bool.false_ne_true]
  split
  · have hpos : 0 < (2 ^ 52 + m) <<< ((e : Int) - 52).toNat := by
      rw [Nat.shiftLeft_eq]
      positivity
    exact_mod_cast hpos
  · rename_i hneg
    have hpos : 0 < (2 ^ 52 + m) >>> (-((e : Int) - 52)).toNat := by
      rw [Nat.shiftRight_eq_div_pow]
      refine Nat.div_pos ?_ (by positivity)
      calc 2 ^ (-((e : Int) - 52)).toNat ≤ 2 ^ 52 := Nat.pow_le_pow_right (by decide) (by omega)
        _ ≤ 2 ^ 52 + m := Nat.le_add_right _ _
    exact_mod_cast hpos

end

end Number

end SqlScript
