import Mathlib.Algebra.Order.Ring.Int
import SqlPipeline.Number.Binary

/-!
Integers as doubles.

Main statement: an integer too large for the significand becomes a finite double whose value is at
most half a unit in the last place away from it.
-/

namespace SqlPipeline

theorem timesTwoTo_natCast (n k : Nat) : timesTwoTo n k = n * 2 ^ k := rfl

theorem timesTwoTo_neg_natCast (n k : Nat) : timesTwoTo n (-(k : Int)) = n := by
  have hzero : (-(k : Int)).toNat = 0 := by omega
  rw [timesTwoTo, hzero]
  exact Nat.mul_one n

namespace BinaryFormat

theorem twoTo_fractionBits : twoTo double.fractionBits = 2 ^ 52 := rfl

theorem minExponent_double : double.minExponent = -1074 := rfl

theorem infinityBits_double : double.infinityBits = 2047 * 2 ^ 52 := rfl

/-- Cutting off `k` binary digits leaves the multiple of `2 ^ k` nearest to a number. -/
theorem roundAt_natCast (n k : Nat) :
    ∃ w, double.roundAt n 1 k = (k + 1074) * 2 ^ 52 + w ∧
      2 * n ≤ 2 * (w * 2 ^ k) + 2 ^ k ∧ 2 * (w * 2 ^ k) ≤ 2 * n + 2 ^ k := by
  have hn := Nat.div_add_mod n (2 ^ k)
  have hmod := Nat.mod_lt n (Nat.two_pow_pos k)
  have hexponent : ((k : Int) - double.minExponent).toNat = k + 1074 := by
    rw [minExponent_double]
    omega
  rw [roundAt, timesTwoTo_natCast, timesTwoTo_neg_natCast, Nat.one_mul, hexponent,
    twoTo_fractionBits]
  refine ⟨_, rfl, ?_⟩
  rw [Nat.mul_comm] at hn
  generalize n / 2 ^ k = whole at hn
  generalize n % 2 ^ k = rest at hn hmod
  split
  · next hup =>
      have hwhole := Nat.add_one_mul whole (2 ^ k)
      simp only [Bool.or_eq_true, Bool.and_eq_true, beq_iff_eq, decide_eq_true_eq] at hup
      omega
  · next hdown =>
      simp only [Bool.or_eq_true, Bool.and_eq_true, beq_iff_eq, decide_eq_true_eq] at hdown
      omega

variable {n k : Nat}

/-- A multiple of `2 ^ k` nearest to a number of `53 + k` binary digits has a full significand, or
is the power of two after it. -/
theorem full_of_near {w : Nat} (hlower : 2 ^ (52 + k) ≤ n) (hupper : n < 2 ^ (53 + k))
    (hbelow : 2 * n ≤ 2 * (w * 2 ^ k) + 2 ^ k) (habove : 2 * (w * 2 ^ k) ≤ 2 * n + 2 ^ k) :
    2 ^ 52 ≤ w ∧ w ≤ 2 ^ 53 := by
  rw [Nat.pow_add] at hlower hupper
  have hpos := Nat.two_pow_pos k
  have hassoc := Nat.mul_assoc 2 w (2 ^ k)
  have hleast : 2 ^ 53 * 2 ^ k < (2 * w + 2) * 2 ^ k := by
    rw [Nat.add_mul]
    omega
  have hgreatest : 2 * w * 2 ^ k < (2 ^ 54 + 1) * 2 ^ k := by
    rw [Nat.add_mul]
    omega
  have hleast := Nat.lt_of_mul_lt_mul_right hleast
  have hgreatest := Nat.lt_of_mul_lt_mul_right hgreatest
  omega

/-- A number of `53 + k` binary digits is rounded to a multiple of `2 ^ k`. -/
theorem roundRatio_one (hlower : 2 ^ (52 + k) ≤ n) (hupper : n < 2 ^ (53 + k)) (hk : k ≤ 970) :
    double.roundRatio n 1 = double.roundAt n 1 k := by
  have hzero : n ≠ 0 := Nat.ne_of_gt (Nat.lt_of_lt_of_le (Nat.two_pow_pos _) hlower)
  have hlog : Nat.log2 n = 52 + k := by
    refine (Nat.log2_eq_iff hzero).2 ⟨hlower, ?_⟩
    rwa [Nat.add_right_comm]
  have hguess : ((52 + k : Nat) : Int) - (Nat.log2 1 : Nat) - double.fractionBits = k := by
    have hone : Nat.log2 1 = 0 := rfl
    have hbits : double.fractionBits = 52 := rfl
    rw [hone, hbits]
    omega
  have hfull : ¬timesTwoTo n (-(k : Int)) < timesTwoTo 1 k * twoTo double.fractionBits := by
    rw [timesTwoTo_neg_natCast, timesTwoTo_natCast, twoTo_fractionBits, Nat.one_mul, Nat.mul_comm,
      ← Nat.pow_add]
    exact Nat.not_lt.2 hlower
  have hfinite : double.roundAt n 1 k ≤ double.infinityBits := by
    obtain ⟨w, hround, hbelow, habove⟩ := roundAt_natCast n k
    have hw := full_of_near hlower hupper hbelow habove
    rw [hround, infinityBits_double]
    omega
  rw [roundRatio, if_neg hzero, hlog, hguess]
  change min (double.roundAt n 1 (max (if _ < _ then _ else _) double.minExponent)) _ = _
  rw [if_neg hfull, Int.max_eq_left (by rw [minExponent_double]; omega), Nat.min_eq_left hfinite]

/-- Magnitude bits with a significand `w` stand for `w * 2 ^ k`, also where `w` carries over. -/
theorem significand_of_full {w : Nat} (hleast : 2 ^ 52 ≤ w) (hgreatest : w ≤ 2 ^ 53) :
    ∃ m q : Nat, double.significand ((k + 1074) * 2 ^ 52 + w) = (m, (q : Int)) ∧
      w * 2 ^ k = m * 2 ^ q := by
  rw [significand, twoTo_fractionBits, minExponent_double]
  by_cases hw : w = 2 ^ 53
  · have hdiv : ((k + 1074) * 2 ^ 52 + w) / 2 ^ 52 = k + 1076 := by omega
    have hmod : ((k + 1074) * 2 ^ 52 + w) % 2 ^ 52 = 0 := by omega
    rw [hdiv, hmod]
    refine ⟨2 ^ 52, k + 1, ?_, ?_⟩
    · rw [if_neg (by omega)]
      exact Prod.ext rfl (by dsimp only; omega)
    · rw [hw, Nat.pow_succ 2 k]
      omega
  · have hdiv : ((k + 1074) * 2 ^ 52 + w) / 2 ^ 52 = k + 1075 := by omega
    have hmod : ((k + 1074) * 2 ^ 52 + w) % 2 ^ 52 = w - 2 ^ 52 := by omega
    rw [hdiv, hmod]
    refine ⟨w, k, ?_, rfl⟩
    rw [if_neg (by omega)]
    exact Prod.ext (by dsimp only; omega) (by dsimp only; omega)

end BinaryFormat

namespace Binary64

/-- The number is finite and has the value of the natural number. -/
def IsNat (x : Binary64) (n : Nat) : Prop :=
  x.isFinite = true ∧ x.isNegative = false ∧ ∃ m q : Nat,
    BinaryFormat.double.significand x.magnitude = (m, (q : Int)) ∧ n = m * 2 ^ q

theorem signBit_double : BinaryFormat.double.signBit = 2 ^ 63 := rfl

theorem magnitude_ofMagnitude {magnitude : Nat} (h : magnitude < 2 ^ 63) :
    (ofMagnitude false magnitude).magnitude = magnitude ∧
      (ofMagnitude false magnitude).isNegative = false := by
  have hbits : (ofMagnitude false magnitude).bits.toNat = magnitude := by
    change (UInt64.ofNat (0 + magnitude)).toNat = magnitude
    rw [Nat.zero_add, UInt64.toNat_ofNat']
    exact Nat.mod_eq_of_lt (by omega)
  rw [Binary64.magnitude, isNegative, hbits, signBit_double]
  exact ⟨Nat.mod_eq_of_lt h, decide_eq_false (Nat.not_le.2 h)⟩

/-- An integer of `53 + k` binary digits becomes a finite double at most half of `2 ^ k` away. -/
theorem ofInt_near {i : Int} {k : Nat} (hlower : 2 ^ (52 + k) ≤ i) (hupper : i < 2 ^ (53 + k))
    (hk : k ≤ 970) : ∃ n, (ofInt i).IsNat n ∧ 2 * ((n : Int) - i).natAbs ≤ 2 ^ k := by
  have hpos : (0 : Int) < 2 ^ (52 + k) := Int.pow_pos (by decide)
  obtain ⟨n, rfl⟩ := Int.eq_ofNat_of_zero_le (Int.le_trans (Int.le_of_lt hpos) hlower)
  have hlower : 2 ^ (52 + k) ≤ n := by exact_mod_cast hlower
  have hupper : n < 2 ^ (53 + k) := by exact_mod_cast hupper
  obtain ⟨w, hround, hbelow, habove⟩ := BinaryFormat.roundAt_natCast n k
  obtain ⟨hleast, hgreatest⟩ := BinaryFormat.full_of_near hlower hupper hbelow habove
  have hof : ofInt n = ofMagnitude false ((k + 1074) * 2 ^ 52 + w) := by
    rw [← hround, ← BinaryFormat.roundRatio_one hlower hupper hk]
    rfl
  have hbits : (k + 1074) * 2 ^ 52 + w < 2 ^ 63 := by omega
  obtain ⟨hmagnitude, hsign⟩ := magnitude_ofMagnitude hbits
  obtain ⟨m, q, hsignificand, hvalue⟩ := BinaryFormat.significand_of_full (k := k) hleast hgreatest
  refine ⟨w * 2 ^ k, ⟨?_, ?_, m, q, ?_, hvalue⟩, by omega⟩
  · rw [hof, isFinite, hmagnitude, BinaryFormat.infinityBits_double]
    exact decide_eq_true (by omega)
  · rw [hof, hsign]
  · rw [hof, hmagnitude, hsignificand]

end Binary64
end SqlPipeline
