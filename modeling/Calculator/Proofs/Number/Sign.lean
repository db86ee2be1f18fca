import Calculator.Value.Integers
import Mathlib.Algebra.Ring.Nat

/-! The signs of integers as floating-point numbers. An integer other than zero is never rounded to zero, and it keeps its
    sign, whether it is rounded to a finite number or is too great for one. -/

namespace Calculator

open Float.Model (Format UnpackedFloat totalExponent)
open Float.Model.UnpackedFloat

/-- A number with a sign, as it comes out of rounding: finite and other than zero, or infinite. -/
inductive HasSign (s : Sign) : UnpackedFloat → Prop where
  | infinity : HasSign s (.infinity s)
  | finite {m : Nat} {e : Int} (pos : 0 < m) (hm : m < 2 ^ 53) (he : -1074 ≤ e) : HasSign s (.finite s m e pos)

/-! ### Rounding -/

theorem mantissa_shiftRight (x : ExtendedMantissa) (n : Nat) : (x >>> n).mantissa = x.mantissa / 2 ^ n := by
  change (n.repeat ExtendedMantissa.shiftRightOne x).mantissa = _
  induction n with
  | zero => simp [Nat.repeat]
  | succ n ih => rw [Nat.repeat, ExtendedMantissa.shiftRightOne, ih, Nat.div_div_eq_div_mul, Nat.pow_succ]

theorem mantissa_ofMantissaAndAccuracy (m : Nat) (accuracy : Accuracy) :
    (ExtendedMantissa.ofMantissaAndAccuracy m accuracy).mantissa = m := by
  unfold ExtendedMantissa.ofMantissaAndAccuracy
  split <;> rfl

theorem le_roundedMantissa (x : ExtendedMantissa) : x.mantissa ≤ x.roundedMantissa := by
  unfold ExtendedMantissa.roundedMantissa Accuracy.roundToNearestEven
  split <;> omega

/-- Where a number is not too small, its shifted mantissa keeps its first bit and fits. -/
theorem shiftToTargetExponent_bounds {m : Nat} {e : Int} (pos : 0 < m) (he : -1074 ≤ m.log2 + e) (accuracy : Accuracy) :
    0 < (shiftToTargetExponent .binary64 m e accuracy).1.mantissa ∧
      (shiftToTargetExponent .binary64 m e accuracy).1.mantissa < 2 ^ 53 ∧
      -1074 ≤ (shiftToTargetExponent .binary64 m e accuracy).2 := by
  have target : Format.binary64.targetExponent (totalExponent m e) = max (m.log2 + 1 + e - 53) (-1074) := rfl
  simp only [shiftToTargetExponent, shiftToExponent, target, mantissa_shiftRight, mantissa_ofMantissaAndAccuracy]
  obtain ⟨n, hn⟩ : ∃ n, (max ((m.log2 : Int) + 1 + e - 53) (-1074) - e).toNat = n := ⟨_, rfl⟩
  rw [hn]
  have first : 2 ^ m.log2 ≤ m := Nat.log2_self_le (Nat.ne_of_gt pos)
  have last : m < 2 ^ (m.log2 + 1) := Nat.lt_log2_self
  refine ⟨Nat.div_pos ?_ (Nat.two_pow_pos n), Nat.div_lt_of_lt_mul ?_, by omega⟩
  · exact Nat.le_trans (Nat.pow_le_pow_right (by decide) (by omega)) first
  · rw [← Nat.pow_add]
    exact Nat.lt_of_lt_of_le last (Nat.pow_le_pow_right (by decide) (by omega))

/-- A number that is not too small keeps its sign where it is rounded. -/
theorem hasSign_roundWithAccuracy (s : Sign) {m : Nat} {e : Int} (pos : 0 < m) (he : -1074 ≤ m.log2 + e)
    (accuracy : Accuracy) : HasSign s (roundWithAccuracy .binary64 s m e accuracy) := by
  obtain ⟨pos₁, -, he₁⟩ := shiftToTargetExponent_bounds pos he accuracy
  have rounded := Nat.lt_of_lt_of_le pos₁ (le_roundedMantissa _)
  obtain ⟨pos₂, hm₂, he₂⟩ :=
    shiftToTargetExponent_bounds (e := (shiftToTargetExponent .binary64 m e accuracy).2) rounded (by omega) .exact
  rw [roundWithAccuracy]
  dsimp only
  rw [dif_neg (Nat.ne_of_gt pos₂)]
  exact .finite pos₂ hm₂ he₂

/-! ### Stored numbers -/

theorem unpackSign_packComponents (s : Sign) (e : BitVec 11) (m : BitVec 52) :
    unpackSign (packComponents .binary64 s e m) = s.toBitVec := by
  change (s.toBitVec ++ e ++ m).extractLsb' 63 1 = s.toBitVec
  rw [BitVec.extractLsb'_append_eq_of_le (by decide), BitVec.extractLsb'_append_eq_of_le (by decide)]
  cases s <;> rfl

theorem ofBitVec_toBitVec (s : Sign) : Sign.ofBitVec s.toBitVec = s := by cases s <;> rfl

theorem hasSign_unpack (s : Sign) {e : BitVec 11} {m : BitVec 52} (greatest : e = -1#11 → m = 0#52)
    (least : e = 0#11 → m ≠ 0#52) : HasSign s (unpack .binary64 (packComponents .binary64 s e m)) := by
  have sign : Sign.ofBitVec (unpackSign (packComponents .binary64 s e m)) = s := by
    rw [unpackSign_packComponents, ofBitVec_toBitVec]
  have exponent : unpackExponent (packComponents .binary64 s e m) = e := unpackExponent_packComponents
  have mantissa : unpackMantissa (packComponents .binary64 s e m) = m := unpackMantissa_packComponents
  have bias : (Format.binary64.exponentBias : Int) = 1023 := rfl
  unfold unpack
  dsimp only
  rw [sign]
  by_cases infinite : e = -1#11
  · rw [if_pos (exponent.trans infinite), if_pos (mantissa.trans (greatest infinite))]
    exact .infinity
  · rw [if_neg fun same => infinite (exponent.symm.trans same)]
    by_cases subnormal : e = 0#11
    · rw [if_pos (exponent.trans subnormal), dif_neg fun zero => least subnormal (mantissa.symm.trans zero)]
      refine .finite _ ?_ (by omega)
      rw [mantissa]
      exact Nat.lt_of_lt_of_le m.isLt (by decide)
    · have pos : 0 < e.toNat := Nat.pos_of_ne_zero fun zero => subnormal (BitVec.eq_of_toNat_eq zero)
      rw [if_neg fun same => subnormal (exponent.symm.trans same)]
      refine .finite _ (BitVec.isLt _) ?_
      rw [exponent]
      omega

theorem HasSign.unpack_pack {s : Sign} {x : UnpackedFloat} (h : HasSign s x) :
    HasSign s (Float.Model.pack x).unpack := by
  change HasSign s (unpack .binary64 (pack .binary64 x))
  have infinite : HasSign s (unpack .binary64 (packedInfinity .binary64 s)) :=
    hasSign_unpack s (fun _ => rfl) (fun zero => absurd zero (by decide))
  cases h with
  | infinity => exact infinite
  | @finite m e pos hm he =>
    have log : m.log2 < 53 := (Nat.log2_lt (Nat.ne_of_gt pos)).mpr hm
    obtain ⟨biased, hb⟩ : ∃ biased : Nat, (biased : Int) = e + 1075 := ⟨(e + 1075).toNat, by omega⟩
    have exponent : (e + Format.binary64.exponentBias + Format.binary64.mantissaBitsWithoutImplicit).toNat = biased := by
      change (e + 1023 + 52).toNat = biased
      omega
    unfold pack
    dsimp only
    rw [exponent]
    split
    · exact infinite
    · rename_i small
      have small : biased < 2047 := by
        change ¬2048 ≤ biased + 1 at small
        omega
      split
      · -- The exponent is stored as it is, and it is neither of the two that mark other numbers.
        have stored : (BitVec.ofNat 11 biased).toNat = biased := Nat.mod_eq_of_lt (by omega)
        refine hasSign_unpack s (fun same => ?_) (fun same => ?_)
        · have := stored.symm.trans (congrArg BitVec.toNat same)
          change biased = 2047 at this
          omega
        · have := stored.symm.trans (congrArg BitVec.toNat same)
          change biased = 0 at this
          omega
      · -- The leading bit is missing, and what is left is stored as it is.
        rename_i subnormal
        have short : m < 2 ^ 52 := by
          change ¬m.log2 + 1 = 53 at subnormal
          exact (Nat.log2_lt (Nat.ne_of_gt pos)).mp (by omega)
        refine hasSign_unpack s (fun same => absurd same (by decide)) (fun _ zero => ?_)
        have : (BitVec.ofNat 52 m).toNat = m := Nat.mod_eq_of_lt short
        rw [zero] at this
        exact Nat.ne_of_gt pos this.symm

/-! ### Arithmetic -/

theorem HasSign.neg {s : Sign} {x : UnpackedFloat} (h : HasSign s x) : HasSign (-s) x.neg := by
  cases h with
  | infinity => exact .infinity
  | finite pos hm he => exact .finite pos hm he

theorem unpack_zero : (0 : Float).toModel.unpack = .zero .positive := rfl

theorem unpack_one : (Float.ofBits 0x3FF0000000000000).toModel.unpack = .finite .positive (2 ^ 52) (-52) (by decide) :=
  rfl

theorem mul_finite (s s' : Sign) {m m' : Nat} (e e' : Int) (pos : 0 < m) (pos' : 0 < m') :
    mul .binary64 (.finite s m e pos) (.finite s' m' e' pos') =
      roundWithAccuracy .binary64 (s * s') (m * m') (e + e') .exact := rfl

/-- Multiplied by one, a number keeps its sign. -/
theorem HasSign.mul_one {s : Sign} {x : UnpackedFloat} (h : HasSign s x) :
    HasSign s (mul .binary64 x (Float.ofBits 0x3FF0000000000000).toModel.unpack) := by
  have same : s * .positive = s := by cases s <;> rfl
  rw [unpack_one]
  cases h with
  | infinity =>
    change HasSign s (.infinity (s * .positive))
    rw [same]
    exact .infinity
  | @finite m e pos hm he =>
    have first : 52 ≤ (m * 2 ^ 52).log2 := (Nat.le_log2 (by omega)).mpr (by omega)
    rw [mul_finite, same]
    exact hasSign_roundWithAccuracy s (by omega) (by omega) .exact

theorem HasSign.compare_zero {s : Sign} {x : UnpackedFloat} (h : HasSign s x) :
    x.compare (0 : Float).toModel.unpack = some (match s with | .positive => .gt | .negative => .lt) := by
  rw [unpack_zero]
  cases h <;> cases s <;> rfl

/-! ### Integers -/

theorem le_log2_shiftLeft {n : Nat} (pos : 0 < n) (k : Nat) : k ≤ (n <<< k).log2 := by
  have whole : 2 ^ k ≤ n <<< k := by
    rw [Nat.shiftLeft_eq]
    exact Nat.le_mul_of_pos_left _ pos
  exact (Nat.le_log2 (Nat.ne_of_gt (Nat.lt_of_lt_of_le (Nat.two_pow_pos k) whole))).mpr whole

theorem hasSign_normalize {n : Nat} (pos : 0 < n) (zeroSign : Sign) :
    HasSign .positive (UnpackedFloat.normalize .binary64 n 0 zeroSign) := by
  have order : compare (n : Int) 0 = .gt := Int.compare_eq_gt.mpr (by omega)
  rw [UnpackedFloat.normalize, order]
  dsimp only
  rw [UnpackedFloat.round, Int.toNat_natCast]
  generalize Format.binary64.targetExponent (totalExponent n 0) = target
  simp only [decreaseExponent]
  have shifted := le_log2_shiftLeft pos (0 - target).toNat
  exact hasSign_roundWithAccuracy _ (Nat.shiftLeft_pos_iff.mpr pos) (by omega) _

theorem hasSign_ofNat {n : Nat} (pos : 0 < n) : HasSign .positive (Float.ofNat n).toModel.unpack := by
  change HasSign .positive (Float.ofScientific n false 0).toModel.unpack
  rw [Float.ofScientific]
  split
  · rename_i small
    have exact : n.toUInt64.toNat = n := Nat.mod_eq_of_lt (by omega)
    have factor : HasSign .positive n.toUInt64.toFloat.toModel.unpack := by
      change HasSign .positive (Float.Model.pack (UnpackedFloat.normalize .binary64 n.toUInt64.toNat 0 .positive)).unpack
      rw [exact]
      exact (hasSign_normalize pos .positive).unpack_pack
    exact factor.mul_one.unpack_pack
  · change HasSign .positive (Float.Model.pack (ofScientific .binary64 n 0)).unpack
    refine HasSign.unpack_pack ?_
    have shifted := le_log2_shiftLeft pos 53
    have wide : 0 < n <<< 53 := Nat.shiftLeft_pos_iff.mpr pos
    have powers : (2 ^ Format.binary64.exponentBits : Int) = 2048 := rfl
    have bits : Format.binary64.mantissaBits = 53 := rfl
    rw [ofScientific, dif_neg (Nat.ne_of_gt pos), if_neg (by decide), if_neg (by omega), if_pos (by decide), mul_finite,
      bits, Int.toNat_zero, Nat.pow_zero, Nat.mul_one]
    exact hasSign_roundWithAccuracy .positive wide (by omega) .exact

/-! ### Comparisons with zero -/

theorem HasSign.beq_zero {s : Sign} {x : Float} (h : HasSign s x.toModel.unpack) : (x == 0) = false := by
  change (x.toModel.unpack.compare (0 : Float).toModel.unpack == some .eq) = false
  rw [h.compare_zero]
  cases s <;> rfl

theorem HasSign.lt_zero_iff {s : Sign} {x : Float} (h : HasSign s x.toModel.unpack) : x < 0 ↔ s = .negative := by
  change (decide ((x.toModel.unpack.compare (0 : Float).toModel.unpack == some .lt) = true)) = true ↔ s = .negative
  rw [h.compare_zero]
  cases s <;> simp

namespace Value

/-- The sign of an integer other than zero, as a floating-point number. -/
theorem hasSign_widen {v : Int} (h : v ≠ 0) :
    HasSign (if v < 0 then .negative else .positive) (widen v).toModel.unpack := by
  cases v with
  | ofNat n =>
    rw [if_neg (by simp)]
    exact hasSign_ofNat (by simp at h; omega)
  | negSucc n =>
    rw [if_pos (Int.negSucc_lt_zero n)]
    exact (hasSign_ofNat n.succ_pos).neg.unpack_pack

theorem widen_zero : widen 0 = 0 := rfl

/-- An integer is zero as a floating-point number only if it is zero. -/
theorem widen_beq_zero (v : Int) : (widen v == 0) = decide (v = 0) := by
  by_cases zero : v = 0
  · subst zero
    rfl
  · rw [(hasSign_widen zero).beq_zero, decide_eq_false zero]

theorem widen_lt_zero_iff (v : Int) : widen v < 0 ↔ v < 0 := by
  by_cases zero : v = 0
  · subst zero
    rw [widen_zero]
    decide
  · rw [(hasSign_widen zero).lt_zero_iff]
    split <;> simp_all

end Value

end Calculator
