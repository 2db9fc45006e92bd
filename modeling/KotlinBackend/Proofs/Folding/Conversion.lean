import Mathlib

/-!
# Whole numbers as real numbers

Folding turns integers into real numbers where the other operand is one. An integer other than zero
becomes a number that is at least one in size, however it is rounded, so that it is a number and
never divides as a zero. Two real numbers can always be compared.
-/

namespace KotlinBackend.Conversion

open Float.Model (UnpackedFloat Format)
open Float.Model.UnpackedFloat

theorem compare_swap (a b : UnpackedFloat) : b.compare a = (a.compare b).map Ordering.swap := by
  have hFinite (m n : Nat) (e f : Int) :
      (compare f e).then (compare n m) = ((compare e f).then (compare m n)).swap := by
    rw [Ordering.swap_then, ← Std.OrientedCmp.eq_swap, ← Std.OrientedCmp.eq_swap]
  cases a with
  | notANumber => cases b <;> rfl
  | infinity s =>
    cases b with
    | infinity t => cases s <;> cases t <;> rfl
    | notANumber | zero | finite => cases s <;> rfl
  | zero s =>
    cases b with
    | infinity t | finite t => cases t <;> rfl
    | notANumber | zero => rfl
  | finite s m e hm =>
    cases b with
    | infinity t => cases t <;> rfl
    | notANumber => rfl
    | zero t => cases s <;> rfl
    | finite t n f hn =>
      cases s <;> cases t
      case negative.positive | positive.negative => rfl
      case negative.negative => exact congrArg (some ·.swap) (hFinite m n e f)
      case positive.positive => exact congrArg some (hFinite m n e f)

theorem exists_compare {a b : UnpackedFloat} (ha : a.isNaN = false) (hb : b.isNaN = false) :
    ∃ order, a.compare b = some order := by
  cases a with
  | notANumber => cases ha
  | infinity s =>
    cases b with
    | notANumber => cases hb
    | infinity | zero | finite => cases s <;> exact ⟨_, rfl⟩
  | zero s =>
    cases b with
    | notANumber => cases hb
    | zero => exact ⟨_, rfl⟩
    | infinity t | finite t => cases t <;> exact ⟨_, rfl⟩
  | finite s =>
    cases b with
    | notANumber => cases hb
    | zero => cases s <;> exact ⟨_, rfl⟩
    | infinity t | finite t => cases s <;> cases t <;> exact ⟨_, rfl⟩

theorem lt_iff_compare {a b : Float} :
    a < b ↔ a.toModel.compare b.toModel = some .lt := by
  have hModel : a < b ↔ (a.toModel.compare b.toModel == some .lt) = true := decide_eq_true_iff
  rw [hModel, beq_iff_eq]

theorem beq_iff_compare {a b : Float} :
    (a == b) = true ↔ a.toModel.compare b.toModel = some .eq := by
  have hModel : (a == b) = (a.toModel.compare b.toModel == some .eq) := rfl
  rw [hModel, beq_iff_eq]

/-- Two real numbers can be compared. -/
theorem lt_or_beq_or_lt {a b : Float} (ha : a.isNaN = false) (hb : b.isNaN = false) :
    a < b ∨ (a == b) = true ∨ b < a := by
  obtain ⟨order, hOrder⟩ : ∃ order, a.toModel.compare b.toModel = some order :=
    exists_compare ha hb
  rw [lt_iff_compare, beq_iff_compare, lt_iff_compare]
  cases order with
  | lt => exact .inl hOrder
  | eq => exact .inr (.inl hOrder)
  | gt =>
    have hSwap : b.toModel.compare a.toModel = (a.toModel.compare b.toModel).map Ordering.swap :=
      compare_swap _ _
    rw [hOrder] at hSwap
    exact .inr (.inr hSwap)

theorem mantissa_shiftRight (em : ExtendedMantissa) (n : Nat) :
    (em >>> n).mantissa = em.mantissa / 2 ^ n := by
  induction n with
  | zero => exact (Nat.div_one _).symm
  | succ n ih =>
    have hStep : (em >>> (n + 1)).mantissa = (em >>> n).mantissa / 2 := rfl
    rw [hStep, ih, Nat.div_div_eq_div_mul, Nat.pow_succ]

theorem le_roundedMantissa (em : ExtendedMantissa) : em.mantissa ≤ em.roundedMantissa := by
  obtain ⟨m, r, s⟩ := em
  cases r <;> cases s
  · exact Nat.le_refl m
  · exact Nat.le_refl m
  · exact Nat.le_add_right m (m % 2)
  · exact Nat.le_add_right m 1

/-- A number of the greatest precision that is infinite or at least one in size. -/
inductive AtLeastOne : UnpackedFloat → Prop
  | infinity (s : Sign) : AtLeastOne (.infinity s)
  | finite (s : Sign) {m : Nat} {e : Int} (hPos : 0 < m) (hLow : 2 ^ 52 ≤ m) (hHigh : m < 2 ^ 53)
      (hExponent : -52 ≤ e) : AtLeastOne (.finite s m e hPos)

theorem targetExponent_eq {m : Nat} {e : Int} (h : 0 ≤ m.log2 + e) :
    Format.binary64.targetExponent (Float.Model.totalExponent m e) = m.log2 + e - 52 := by
  have hTotal : Float.Model.totalExponent m e = m.log2 + 1 + e := rfl
  have hTarget (total : Int) : Format.binary64.targetExponent total = max (total - 53) (-1074) :=
    rfl
  rw [hTarget, hTotal]
  omega

theorem shiftToTargetExponent_eq {m : Nat} {e : Int} (hm : 52 ≤ m.log2) (h : 0 ≤ m.log2 + e)
    (accuracy : Accuracy) :
    shiftToTargetExponent Format.binary64 m e accuracy =
      (ExtendedMantissa.ofMantissaAndAccuracy m accuracy >>> (m.log2 - 52),
        e + ((m.log2 - 52 : Nat) : Int)) := by
  have hShift : (m.log2 + e - 52 - e).toNat = m.log2 - 52 := by omega
  rw [shiftToTargetExponent, targetExponent_eq h, shiftToExponent, hShift]

theorem div_pow_log2_bounds {m : Nat} (hm : 52 ≤ m.log2) :
    2 ^ 52 ≤ m / 2 ^ (m.log2 - 52) ∧ m / 2 ^ (m.log2 - 52) < 2 ^ 53 := by
  have hPos : 0 < 2 ^ (m.log2 - 52) := Nat.pow_pos Nat.two_pos
  have hNonzero : m ≠ 0 := by
    rintro rfl
    exact absurd hm (by decide)
  constructor
  · rw [Nat.le_div_iff_mul_le hPos, ← Nat.pow_add]
    have hSum : 52 + (m.log2 - 52) = m.log2 := by omega
    rw [hSum]
    exact Nat.log2_self_le hNonzero
  · rw [Nat.div_lt_iff_lt_mul hPos, ← Nat.pow_add]
    have hSum : 53 + (m.log2 - 52) = m.log2 + 1 := by omega
    rw [hSum]
    exact Nat.lt_log2_self

theorem atLeastOne_roundWithAccuracy {m : Nat} {e : Int} (s : Sign) (hm : 52 ≤ m.log2)
    (h : 0 ≤ m.log2 + e) (accuracy : Accuracy) :
    AtLeastOne (roundWithAccuracy Format.binary64 s m e accuracy) := by
  obtain ⟨hLow, hHigh⟩ := div_pow_log2_bounds hm
  unfold roundWithAccuracy
  rw [shiftToTargetExponent_eq hm h]
  dsimp only
  have hInitial : (ExtendedMantissa.ofMantissaAndAccuracy m accuracy).mantissa = m := by
    rcases accuracy with _ | (_ | _ | _) <;> rfl
  have hRounded := le_roundedMantissa
    (ExtendedMantissa.ofMantissaAndAccuracy m accuracy >>> (m.log2 - 52))
  rw [mantissa_shiftRight, hInitial] at hRounded
  generalize ExtendedMantissa.roundedMantissa _ = rounded at hRounded ⊢
  -- Rounding up can carry into one more bit, which a second shift takes away.
  have hLog : 52 ≤ rounded.log2 := (Nat.le_log2 (by omega)).mpr (by omega)
  rw [shiftToTargetExponent_eq hLog (by omega)]
  dsimp only
  obtain ⟨hLow', hHigh'⟩ := div_pow_log2_bounds hLog
  have hFinal :
      (ExtendedMantissa.ofMantissaAndAccuracy rounded .exact >>> (rounded.log2 - 52)).mantissa =
        rounded / 2 ^ (rounded.log2 - 52) :=
    mantissa_shiftRight _ _
  rw [dif_neg (by rw [hFinal]; omega)]
  apply AtLeastOne.finite
  · rw [hFinal]
    exact hLow'
  · rw [hFinal]
    exact hHigh'
  · omega

theorem atLeastOne_neg {f : UnpackedFloat} (h : AtLeastOne f) : AtLeastOne f.neg := by
  cases h with
  | infinity s => exact .infinity (-s)
  | finite s hPos hLow hHigh hExponent => exact .finite (-s) hPos hLow hHigh hExponent

theorem atLeastOne_unpack_infinity (s : Sign) :
    AtLeastOne (Float.Model.UnpackedFloat.unpack Format.binary64
      (packedInfinity Format.binary64 s)) := by
  unfold Float.Model.UnpackedFloat.unpack packedInfinity
  rw [unpackExponent_packComponents, if_pos rfl, unpackMantissa_packComponents]
  exact .infinity _

theorem toNat_append_bounds (v : BitVec 52) :
    2 ^ 52 ≤ (1#1 ++ v).toNat ∧ (1#1 ++ v).toNat < 2 ^ 53 := by
  refine ⟨?_, (1#1 ++ v).isLt⟩
  rw [BitVec.toNat_append]
  exact Nat.left_le_or

theorem ofNat_ne {biased k : Nat} (hBiased : biased < 2 ^ 11) (hk : k < 2 ^ 11) (h : biased ≠ k) :
    BitVec.ofNat 11 biased ≠ BitVec.ofNat 11 k := by
  intro hSame
  have hValue := congrArg BitVec.toNat hSame
  rw [BitVec.toNat_ofNat, BitVec.toNat_ofNat, Nat.mod_eq_of_lt hBiased, Nat.mod_eq_of_lt hk]
    at hValue
  exact h hValue

theorem unpack_normal (format : Format) (s : Sign) {x : BitVec format.exponentBits}
    (v : BitVec format.mantissaBitsWithoutImplicit) (hTop : x ≠ -1#_) (hZero : x ≠ 0#_)
    (hPos : 0 < (1#1 ++ v).toNat) :
    Float.Model.UnpackedFloat.unpack format (packComponents format s x v) =
      .finite s (1#1 ++ v).toNat
        (x.toNat - (format.exponentBias + format.mantissaBitsWithoutImplicit)) hPos := by
  unfold Float.Model.UnpackedFloat.unpack
  rw [unpackExponent_packComponents, if_neg hTop, if_neg hZero]
  simp only [unpackMantissa_packComponents, unpackSign_packComponents, Sign.ofBitVec_toBitVec]

theorem atLeastOne_unpack_normal (s : Sign) (v : BitVec 52) {biased : Nat}
    (hLow : 1023 ≤ biased) (hHigh : biased + 1 < 2 ^ 11) :
    AtLeastOne (Float.Model.UnpackedFloat.unpack Format.binary64
      (packComponents Format.binary64 s (BitVec.ofNat 11 biased) v)) := by
  have hNotTop : BitVec.ofNat 11 biased ≠ -1#11 :=
    ofNat_ne (by omega) (k := 2047) (by omega) (by omega)
  have hNotZero : BitVec.ofNat 11 biased ≠ 0#11 :=
    ofNat_ne (by omega) (by omega) (by omega)
  obtain ⟨hOne, hMax⟩ := toNat_append_bounds v
  have hPos : 0 < (1#1 ++ v).toNat := Nat.lt_of_lt_of_le (Nat.two_pow_pos 52) hOne
  rw [unpack_normal Format.binary64 s v hNotTop hNotZero hPos]
  refine .finite s hPos hOne hMax ?_
  have hToNat : (BitVec.ofNat 11 biased).toNat = biased := by
    rw [BitVec.toNat_ofNat, Nat.mod_eq_of_lt (by omega)]
  have hBias : ((Format.binary64.exponentBias : Int) + (52 : Nat)) = 1075 := rfl
  rw [hToNat, hBias]
  omega

/-- Packing may make a number infinite, but never small. -/
theorem atLeastOne_unpack_pack {f : UnpackedFloat} (h : AtLeastOne f) :
    AtLeastOne (Float.Model.pack f).unpack := by
  cases h with
  | infinity s => exact atLeastOne_unpack_infinity s
  | @finite s m e hm hLow hHigh hExponent =>
    have hLog : m.log2 + 1 = Format.binary64.mantissaBits := by
      have hLog : m.log2 = 52 := (Nat.log2_eq_iff (by omega)).mpr ⟨hLow, hHigh⟩
      rw [hLog]
      rfl
    have hPack : Float.Model.UnpackedFloat.pack Format.binary64 (.finite s m e hm) =
        if 2 ^ 11 ≤ (e + 1023 + 52).toNat + 1 then packedInfinity Format.binary64 s
        else packComponents Format.binary64 s (BitVec.ofNat 11 (e + 1023 + 52).toNat)
          (BitVec.ofNat 52 m) := by
      unfold Float.Model.UnpackedFloat.pack
      dsimp only
      rw [if_pos hLog]
      rfl
    unfold Float.Model.unpack
    have hBits : (Float.Model.pack (.finite s m e hm)).toBits.toBitVec =
        Float.Model.UnpackedFloat.pack Format.binary64 (.finite s m e hm) := rfl
    rw [hBits, hPack]
    split
    · exact atLeastOne_unpack_infinity s
    · exact atLeastOne_unpack_normal s _ (by omega) (by omega)

theorem log2_shiftLeft {n : Nat} (hn : n ≠ 0) (k : Nat) : (n <<< k).log2 = n.log2 + k := by
  have hPos : 0 < 2 ^ k := Nat.pow_pos Nat.two_pos
  rw [Nat.shiftLeft_eq, Nat.log2_eq_iff (Nat.mul_ne_zero hn hPos.ne')]
  constructor
  · rw [Nat.pow_add]
    exact Nat.mul_le_mul_right _ (Nat.log2_self_le hn)
  · rw [Nat.add_right_comm, Nat.pow_add]
    exact Nat.mul_lt_mul_of_pos_right Nat.lt_log2_self hPos

/-- An integer is at least one in size, whichever scale it is written in. -/
theorem atLeastOne_shifted {n k : Nat} {e : Int} (s : Sign) (hn : n ≠ 0) (hk : 52 ≤ n.log2 + k)
    (he : 0 ≤ n.log2 + k + e) :
    AtLeastOne (roundWithAccuracy Format.binary64 s (n <<< k) e .exact) := by
  have hLog := log2_shiftLeft hn k
  apply atLeastOne_roundWithAccuracy
  · omega
  · omega

theorem mul_finite_eq (s t : Sign) (m n : Nat) (e f : Int) (hm : 0 < m) (hn : 0 < n) :
    mul Format.binary64 (.finite s m e hm) (.finite t n f hn) =
      roundWithAccuracy Format.binary64 (s * t) (m * n) (e + f) .exact :=
  rfl

/-- The number one of the greatest precision. -/
def one : UnpackedFloat := .finite .positive (2 ^ 52) (-52) (Nat.two_pow_pos 52)

theorem atLeastOne_mul_one {f : UnpackedFloat} (h : AtLeastOne f) :
    AtLeastOne (mul Format.binary64 f one) := by
  cases h with
  | infinity s => exact .infinity _
  | @finite s m e hm hLow hHigh hExponent =>
    have hLog : m.log2 = 52 := (Nat.log2_eq_iff (by omega)).mpr ⟨hLow, hHigh⟩
    rw [one, mul_finite_eq, ← Nat.shiftLeft_eq]
    exact atLeastOne_shifted _ (by omega) (by omega) (by omega)

theorem atLeastOne_round {n : Nat} (hn : n ≠ 0) (s : Sign) (hSmall : n < 2 ^ 53) :
    AtLeastOne (UnpackedFloat.round Format.binary64 s n 0) := by
  have hLog : n.log2 < 53 := (Nat.log2_lt hn).mpr hSmall
  have hShift : ((0 : Int) - (n.log2 + 0 - 52)).toNat = 52 - n.log2 := by omega
  unfold UnpackedFloat.round
  rw [targetExponent_eq (by omega)]
  unfold decreaseExponent
  dsimp only
  rw [hShift]
  exact atLeastOne_shifted s hn (by omega) (by omega)

theorem atLeastOne_ofUInt64 {n : UInt64} (hn : n.toNat ≠ 0) (hSmall : n.toNat < 2 ^ 53) :
    AtLeastOne n.toFloat.toModel.unpack := by
  have hModel : n.toFloat.toModel =
      Float.Model.pack (UnpackedFloat.normalize Format.binary64 (n.toNat : Int) 0 .positive) := rfl
  have hOrder : compare (n.toNat : Int) 0 = .gt := Int.compare_eq_gt.mpr (by omega)
  rw [hModel]
  apply atLeastOne_unpack_pack
  unfold UnpackedFloat.normalize
  rw [hOrder]
  exact atLeastOne_round hn .positive hSmall

theorem atLeastOne_ofScientific {n : Nat} (hn : n ≠ 0) :
    AtLeastOne (UnpackedFloat.ofScientific Format.binary64 n 0) := by
  have hPow : (2 ^ Format.binary64.exponentBits : Int) = 2048 := rfl
  have hLow : ¬ (0 : Int) < -((2 ^ Format.binary64.exponentBits : Int) + n.log2) := by omega
  unfold UnpackedFloat.ofScientific
  rw [dif_neg hn, if_neg (by decide), if_neg hLow, if_pos (Int.le_refl 0), mul_finite_eq]
  have hTen : 10 ^ (0 : Int).toNat = 1 := rfl
  have hBits : Format.binary64.mantissaBits = 53 := rfl
  rw [hTen, hBits, Nat.mul_one]
  exact atLeastOne_shifted _ hn (by omega) (by omega)

theorem atLeastOne_mul {x y : Float} (hx : AtLeastOne x.toModel.unpack)
    (hy : y.toModel.unpack = one) :
    AtLeastOne (x * y).toModel.unpack := by
  have hModel : (x * y).toModel =
      Float.Model.pack (mul Format.binary64 x.toModel.unpack y.toModel.unpack) := rfl
  rw [hModel, hy]
  exact atLeastOne_unpack_pack (atLeastOne_mul_one hx)

theorem unpack_powerOfTen_zero :
    Float.exactlyRepresentablePowersOfTen[0].toModel.unpack = one := by
  rfl

theorem atLeastOne_ofNat {n : Nat} (hn : n ≠ 0) :
    AtLeastOne (Float.ofNat n).toModel.unpack := by
  have hModel : Float.ofNat n = Float.ofScientific n false 0 := rfl
  rw [hModel]
  unfold Float.ofScientific
  split
  · rename_i hSmall
    have hToNat : n.toUInt64.toNat = n := by
      rw [Nat.toUInt64_eq, UInt64.toNat_ofNat']
      omega
    refine atLeastOne_mul (atLeastOne_ofUInt64 ?_ ?_) unpack_powerOfTen_zero
    · rw [hToNat]
      exact hn
    · rw [hToNat]
      exact hSmall.1
  · exact atLeastOne_unpack_pack (atLeastOne_ofScientific hn)

theorem atLeastOne_ofInt {n : Int} (hn : n ≠ 0) :
    AtLeastOne (Float.ofInt n).toModel.unpack := by
  cases n with
  | ofNat n => exact atLeastOne_ofNat (by simpa using hn)
  | negSucc n =>
    have hModel : (Float.ofInt (.negSucc n)).toModel =
        Float.Model.pack (Float.ofNat (n + 1)).toModel.unpack.neg := rfl
    rw [hModel]
    exact atLeastOne_unpack_pack (atLeastOne_neg (atLeastOne_ofNat (Nat.succ_ne_zero n)))

theorem AtLeastOne.isNaN {f : UnpackedFloat} (h : AtLeastOne f) : f.isNaN = false := by
  cases h <;> rfl

theorem AtLeastOne.compare_zero {f : UnpackedFloat} (h : AtLeastOne f) (t : Sign) :
    (f.compare (.zero t) == some .eq) = false := by
  cases h with
  | infinity s | finite s => cases s <;> rfl

theorem isNaN_ofInt (n : Int) : (Float.ofInt n).isNaN = false := by
  by_cases hn : n = 0
  · rw [hn]
    rfl
  · exact (atLeastOne_ofInt hn).isNaN

theorem ofInt_beq_zero {n : Int} (hn : n ≠ 0) : (Float.ofInt n == 0) = false := by
  have hZero : (0 : Float).toModel.unpack = .zero .positive := rfl
  have hModel : (Float.ofInt n == 0) =
      ((Float.ofInt n).toModel.unpack.compare (0 : Float).toModel.unpack == some .eq) := rfl
  rw [hModel, hZero]
  exact (atLeastOne_ofInt hn).compare_zero .positive

end KotlinBackend.Conversion
