import Mathlib
import RuleGrammar.Json.Number

/-!
Owns the finiteness of the floats that number texts stand for: none of them is infinite or undefined.

The arithmetic of floats rounds an exact result to 53 digits and packs it, and packing gives infinity
where the exponent is too large. So each operation is followed through its unpacked form, with a bound on
the exponent (`Within`). A product is checked for infinity when it is made; a quotient by a power of ten
is smaller than the number divided.
-/

open Float.Model

namespace RuleGrammar.Binary64

/-- A finite number below `2 ^ limit`, with as many digits as a float has. -/
def Within (limit : Int) : UnpackedFloat → Prop
  | .zero _ => True
  | .finite _ significand exponent _ =>
      significand < 2 ^ 53 ∧ -1074 ≤ exponent ∧ exponent ≤ limit - 53
  | _ => False

/-- A number of two or more, which its leading digit shows. -/
def Large : UnpackedFloat → Bool
  | .finite _ significand exponent _ => decide (1 ≤ significand.log2 + exponent)
  | _ => false

section

variable {limit : Int}

theorem Within.mono {wider : Int} {u : UnpackedFloat} (within : Within limit u)
    (more : limit ≤ wider) : Within wider u := by
  cases u with
  | zero => trivial
  | finite sign significand exponent positive =>
      exact ⟨within.1, within.2.1, by have := within.2.2; omega⟩
  | infinity => exact within
  | notANumber => exact within

theorem Within.isFinite {u : UnpackedFloat} (within : Within limit u) : u.isFinite = true := by
  cases u with
  | zero => rfl
  | finite => rfl
  | infinity => cases within
  | notANumber => cases within

/-! ## Packing -/

/-- The field of a packed number that holds its exponent; all ones stand for what is not finite. -/
def exponentField (bits : BitVec Format.binary64.numBits) : Nat :=
  (UnpackedFloat.unpackExponent bits).toNat

theorem exponentField_lt (bits : BitVec Format.binary64.numBits) : exponentField bits < 2048 :=
  (UnpackedFloat.unpackExponent bits).isLt

theorem exponentBias_eq : Format.binary64.exponentBias = 1023 :=
  rfl

theorem unpackExponent_ne_ones {bits : BitVec Format.binary64.numBits}
    (finite : exponentField bits ≠ 2047) : UnpackedFloat.unpackExponent bits ≠ -1#_ := by
  intro same
  rw [exponentField, same] at finite
  exact finite rfl

/-- The exponent field of a finite number says how large it is. -/
theorem within_unpack {bits : BitVec Format.binary64.numBits} (finite : exponentField bits ≠ 2047)
    (low : -1021 ≤ limit) (field : (exponentField bits : Int) ≤ limit + 1022) :
    Within limit (UnpackedFloat.unpack Format.binary64 bits) := by
  have other := unpackExponent_ne_ones finite
  unfold exponentField at finite field
  unfold UnpackedFloat.unpack
  simp only [if_neg other, exponentBias_eq]
  split
  next zero =>
    split
    next => trivial
    next =>
      have small := (UnpackedFloat.unpackMantissa bits).isLt
      rw [zero]
      refine ⟨?_, ?_, ?_⟩
      · simp at small ⊢
        omega
      · simp
      · simp
        omega
  next positive =>
    have small := (1#1 ++ UnpackedFloat.unpackMantissa bits).isLt
    have nonzero : (UnpackedFloat.unpackExponent bits).toNat ≠ 0 :=
      fun same => positive (BitVec.eq_of_toNat_eq same)
    refine ⟨small, ?_, ?_⟩
    · simp
      omega
    · simp
      omega

/-- So it does of a number of two or more. -/
theorem large_unpack {bits : BitVec Format.binary64.numBits} (finite : exponentField bits ≠ 2047)
    (field : 1024 ≤ exponentField bits) :
    Large (UnpackedFloat.unpack Format.binary64 bits) = true := by
  have other := unpackExponent_ne_ones finite
  have normal : UnpackedFloat.unpackExponent bits ≠ 0#_ := by
    intro same
    rw [exponentField, same] at field
    cases field
  have leading : 52 ≤ (1#1 ++ UnpackedFloat.unpackMantissa bits).toNat.log2 := by
    have bit : 2 ^ 52 ≤ (1#1 ++ UnpackedFloat.unpackMantissa bits).toNat := by
      rw [BitVec.toNat_append]
      exact Nat.left_le_or
    exact (Nat.le_log2 (Nat.two_pow_pos 52 |>.trans_le bit).ne').mpr bit
  unfold exponentField at field
  simp only [UnpackedFloat.unpack, if_neg other, if_neg normal, exponentBias_eq, Large,
    decide_eq_true_eq]
  simp at leading ⊢
  omega

theorem within_of_isFinite_unpack {bits : BitVec Format.binary64.numBits}
    (finite : (UnpackedFloat.unpack Format.binary64 bits).isFinite = true) :
    Within 1024 (UnpackedFloat.unpack Format.binary64 bits) := by
  have small := exponentField_lt bits
  have field : exponentField bits ≠ 2047 := by
    intro infinite
    have ones : UnpackedFloat.unpackExponent bits = -1#_ := BitVec.eq_of_toNat_eq infinite
    simp only [UnpackedFloat.unpack, if_pos ones] at finite
    split at finite <;> cases finite
  exact within_unpack field (by decide) (by omega)

/-- A finite float lies within the range of floats. -/
theorem within_of_isFinite {x : Float} (finite : x.isFinite = true) :
    Within 1024 x.toModel.unpack :=
  within_of_isFinite_unpack finite

/-- What a packed number is taken apart into. -/
theorem unpack_pack (u : UnpackedFloat) : (Float.Model.pack u).unpack =
    UnpackedFloat.unpack Format.binary64 (UnpackedFloat.pack Format.binary64 u) :=
  rfl

theorem exponentField_packComponents (sign : UnpackedFloat.Sign) (exponent : BitVec 11)
    (significand : BitVec 52) :
    exponentField (UnpackedFloat.packComponents Format.binary64 sign exponent significand) =
      exponent.toNat := by
  unfold exponentField
  rw [UnpackedFloat.unpackExponent_packComponents]

/-- The exponent of a number that is not too large fits its field. -/
theorem not_overflows {exponent : Int} (fits : exponent ≤ 971) :
    ¬ 2 ^ Format.binary64.exponentBits ≤ (exponent + Format.binary64.exponentBias +
      Format.binary64.mantissaBitsWithoutImplicit).toNat + 1 := by
  simp only [exponentBias_eq]
  omega

/-- A number that is not too large keeps its exponent, or gets the least one. -/
theorem exponentField_pack_le {sign : UnpackedFloat.Sign} {significand : Nat} {exponent : Int}
    (positive : 0 < significand) (fits : exponent ≤ 971) :
    exponentField (UnpackedFloat.pack Format.binary64
      (.finite sign significand exponent positive)) ≤ (exponent + 1075).toNat := by
  unfold UnpackedFloat.pack
  simp only [if_neg (not_overflows fits)]
  split
  · rw [exponentField_packComponents, BitVec.toNat_ofNat, exponentBias_eq]
    refine (Nat.mod_le _ _).trans ?_
    omega
  · rw [exponentField_packComponents]
    exact Nat.zero_le _

/-- A number of as many digits as there are keeps its exponent. -/
theorem exponentField_pack_eq {sign : UnpackedFloat.Sign} {significand : Nat} {exponent : Int}
    {positive : 0 < significand} (full : significand.log2 = 52) (low : -1074 ≤ exponent)
    (fits : exponent ≤ 971) :
    exponentField (UnpackedFloat.pack Format.binary64
      (.finite sign significand exponent positive)) = (exponent + 1075).toNat := by
  have normal : significand.log2 + 1 = Format.binary64.mantissaBits := by
    rw [full]
    rfl
  unfold UnpackedFloat.pack
  simp only [if_neg (not_overflows fits), if_pos normal]
  rw [exponentField_packComponents, BitVec.toNat_ofNat, exponentBias_eq, Nat.mod_eq_of_lt (by omega)]
  omega

theorem large_unpack_pack {sign : UnpackedFloat.Sign} {significand : Nat} {exponent : Int}
    {positive : 0 < significand} (full : significand.log2 = 52) (low : -51 ≤ exponent)
    (fits : exponent ≤ 971) :
    Large (Float.Model.pack (.finite sign significand exponent positive)).unpack = true := by
  have field := @exponentField_pack_eq sign _ _ positive full (by omega) fits
  rw [unpack_pack]
  exact large_unpack (by omega) (by omega)

theorem Within.pack {u : UnpackedFloat} (within : Within limit u) (low : -1021 ≤ limit)
    (high : limit ≤ 1024) : Within limit (Float.Model.pack u).unpack := by
  rw [unpack_pack]
  cases u with
  | zero sign =>
      have field : exponentField (UnpackedFloat.pack Format.binary64 (.zero sign)) = 0 :=
        exponentField_packComponents sign 0 0
      refine within_unpack ?_ low ?_
      · omega
      · omega
  | finite sign significand exponent positive =>
      have below := within.2.2
      have field := @exponentField_pack_le sign _ _ positive (by omega : exponent ≤ 971)
      refine within_unpack ?_ low ?_
      · omega
      · omega
  | infinity => cases within
  | notANumber => cases within

theorem Within.isFinite_pack {u : UnpackedFloat} (within : Within 1024 u) :
    (Float.ofModel (Float.Model.pack u)).isFinite = true :=
  (within.pack (by decide) le_rfl).isFinite

/-- What is packed as infinity is told by its exponent, and anything else is finite. -/
theorem isFinite_pack_of_isInf {sign : UnpackedFloat.Sign} {significand : Nat} {exponent : Int}
    {positive : 0 < significand}
    (bounded : (Float.ofModel (Float.Model.pack
      (.finite sign significand exponent positive))).isInf = false) :
    (Float.ofModel (Float.Model.pack (.finite sign significand exponent positive))).isFinite =
      true := by
  by_cases fits : exponent ≤ 971
  · have field := @exponentField_pack_le sign _ _ positive fits
    have within : Within 1024 (Float.Model.pack
        (.finite sign significand exponent positive)).unpack := by
      rw [unpack_pack]
      exact within_unpack (by omega) (by decide) (by omega)
    exact within.isFinite
  · have infinite : UnpackedFloat.pack Format.binary64
        (.finite sign significand exponent positive) =
          UnpackedFloat.packedInfinity Format.binary64 sign := by
      unfold UnpackedFloat.pack
      refine if_pos ?_
      simp only [exponentBias_eq]
      omega
    have isInf : (UnpackedFloat.unpack Format.binary64
        (UnpackedFloat.packedInfinity Format.binary64 sign)).isInf = true := by
      simp [UnpackedFloat.unpack, UnpackedFloat.packedInfinity, UnpackedFloat.isInf]
    rw [Float.isInf, Float.Model.isInf, unpack_pack, infinite, isInf] at bounded
    cases bounded

/-! ## Rounding -/

theorem mantissa_shiftRight (m : UnpackedFloat.ExtendedMantissa) (places : Nat) :
    (m >>> places).mantissa = m.mantissa / 2 ^ places := by
  induction places generalizing m with
  | zero => exact (Nat.div_one _).symm
  | succ places inductionHypothesis =>
      change (m >>> places).mantissa / 2 = _
      rw [inductionHypothesis, Nat.div_div_eq_div_mul, Nat.pow_succ]

theorem le_roundedMantissa (m : UnpackedFloat.ExtendedMantissa) :
    m.mantissa ≤ m.roundedMantissa := by
  obtain ⟨mantissa, round, sticky⟩ := m
  cases round <;> cases sticky <;>
    simp [UnpackedFloat.ExtendedMantissa.roundedMantissa, UnpackedFloat.ExtendedMantissa.accuracy,
      UnpackedFloat.Accuracy.roundToNearestEven]

theorem roundedMantissa_le (m : UnpackedFloat.ExtendedMantissa) :
    m.roundedMantissa ≤ m.mantissa + 1 := by
  obtain ⟨mantissa, round, sticky⟩ := m
  cases round <;> cases sticky <;>
    simp [UnpackedFloat.ExtendedMantissa.roundedMantissa, UnpackedFloat.ExtendedMantissa.accuracy,
      UnpackedFloat.Accuracy.roundToNearestEven]
  omega

/-- How many digits of `significand * 2 ^ exponent` the format has no room for. -/
structure Dropped (significand : Nat) (exponent : Int) (places : Nat) : Prop where
  enough : significand.log2 + 1 + exponent - 53 ≤ exponent + places
  least : -1074 ≤ exponent + places
  necessary : places = 0 ∨ exponent + places = significand.log2 + 1 + exponent - 53 ∨
    exponent + places = -1074

/-- Shifting drops as many digits as there is no room for. -/
theorem shiftToTargetExponent_spec (significand : Nat) (exponent : Int)
    (accuracy : UnpackedFloat.Accuracy) :
    ∃ places, Dropped significand exponent places ∧
      (UnpackedFloat.shiftToTargetExponent Format.binary64 significand exponent accuracy).1.mantissa =
        significand / 2 ^ places ∧
      (UnpackedFloat.shiftToTargetExponent Format.binary64 significand exponent accuracy).2 =
        exponent + places := by
  have target : Format.binary64.targetExponent (totalExponent significand exponent) =
      max (significand.log2 + 1 + exponent - 53) (-1074) := rfl
  refine ⟨(max (significand.log2 + 1 + exponent - 53) (-1074) - exponent).toNat,
    ⟨by omega, by omega, by omega⟩, ?_, ?_⟩
  · unfold UnpackedFloat.shiftToTargetExponent UnpackedFloat.shiftToExponent
    rw [target, mantissa_shiftRight]
    cases accuracy with
    | exact => rfl
    | inexact relation => cases relation <;> rfl
  · unfold UnpackedFloat.shiftToTargetExponent UnpackedFloat.shiftToExponent
    rw [target]

/-- Rounding drops digits, may add one to what is left, and drops digits again. -/
theorem roundWithAccuracy_spec (sign : UnpackedFloat.Sign) (significand : Nat) (exponent : Int)
    (accuracy : UnpackedFloat.Accuracy) :
    ∃ places rounded places', Dropped significand exponent places ∧
      significand / 2 ^ places ≤ rounded ∧ rounded ≤ significand / 2 ^ places + 1 ∧
      Dropped rounded (exponent + places) places' ∧
      UnpackedFloat.roundWithAccuracy Format.binary64 sign significand exponent accuracy =
        if positive : rounded / 2 ^ places' = 0 then .zero sign
        else .finite sign (rounded / 2 ^ places') (exponent + places + places')
          (Nat.pos_of_ne_zero positive) := by
  obtain ⟨places, dropped, mantissa, shifted⟩ :=
    shiftToTargetExponent_spec significand exponent accuracy
  have above := le_roundedMantissa
    (UnpackedFloat.shiftToTargetExponent Format.binary64 significand exponent accuracy).1
  have below := roundedMantissa_le
    (UnpackedFloat.shiftToTargetExponent Format.binary64 significand exponent accuracy).1
  unfold UnpackedFloat.roundWithAccuracy
  generalize UnpackedFloat.shiftToTargetExponent Format.binary64 significand exponent accuracy =
    first at *
  obtain ⟨first, behind⟩ := first
  simp only at mantissa shifted above below ⊢
  subst shifted
  obtain ⟨places', dropped', mantissa', shifted'⟩ :=
    shiftToTargetExponent_spec first.roundedMantissa (exponent + places) .exact
  rw [mantissa] at above below
  refine ⟨places, first.roundedMantissa, places', dropped, above, below, dropped', ?_⟩
  generalize UnpackedFloat.shiftToTargetExponent Format.binary64 first.roundedMantissa
    (exponent + places) .exact = last at *
  obtain ⟨last, behind⟩ := last
  simp only at mantissa' shifted' ⊢
  simp only [mantissa', shifted']

theorem log2_le_of_le {n digits : Nat} (size : n ≤ 2 ^ digits) : n.log2 ≤ digits := by
  by_cases zero : n = 0
  · rw [zero, Nat.log2_zero]
    exact Nat.zero_le _
  · have below : n < 2 ^ (digits + 1) := by
      rw [Nat.pow_succ]
      have positive := Nat.two_pow_pos digits
      omega
    exact Nat.le_of_lt_succ ((Nat.log2_lt zero).mpr below)

/-- Rounding adds at most one to the number of digits. -/
theorem within_roundWithAccuracy {sign : UnpackedFloat.Sign} {significand digits : Nat}
    {exponent : Int} {accuracy : UnpackedFloat.Accuracy} (size : significand < 2 ^ digits)
    (top : digits + exponent ≤ limit) (fits : exponent ≤ limit - 52) (low : -1022 ≤ limit) :
    Within (limit + 1) (UnpackedFloat.roundWithAccuracy Format.binary64 sign significand exponent
      accuracy) := by
  obtain ⟨places, rounded, places', dropped, _, below, dropped', result⟩ :=
    roundWithAccuracy_spec sign significand exponent accuracy
  have width : significand.log2 ≤ digits := log2_le_of_le size.le
  have reached : exponent + places ≤ limit - 52 := by
    have necessary := dropped.necessary
    omega
  have width' : rounded.log2 + (exponent + places) ≤ limit := by
    by_cases room : places ≤ digits
    · have part : significand / 2 ^ places < 2 ^ (digits - places) := by
        rw [Nat.div_lt_iff_lt_mul (Nat.two_pow_pos places), ← Nat.pow_add,
          Nat.sub_add_cancel room]
        exact size
      have digits' := log2_le_of_le (below.trans part)
      omega
    · have nothing : significand / 2 ^ places = 0 := by
        refine Nat.div_eq_of_lt (size.trans_le ?_)
        exact Nat.pow_le_pow_right (by decide) (by omega)
      rw [nothing] at below
      have digits' : rounded.log2 ≤ 0 := log2_le_of_le below
      omega
  rw [result]
  split
  next => trivial
  next =>
    have enough := dropped'.enough
    have necessary := dropped'.necessary
    refine ⟨?_, dropped'.least, by omega⟩
    rw [Nat.div_lt_iff_lt_mul (Nat.two_pow_pos places'), ← Nat.pow_add]
    exact Nat.lt_log2_self.trans_le (Nat.pow_le_pow_right (by decide) (by omega))

theorem log2_div_two_pow {n places : Nat} (room : places ≤ n.log2) (positive : 0 < n) :
    (n / 2 ^ places).log2 = n.log2 - places := by
  have width := (Nat.log2_eq_iff positive.ne').mp rfl
  have lower : 2 ^ (n.log2 - places) ≤ n / 2 ^ places := by
    rw [Nat.le_div_iff_mul_le (Nat.two_pow_pos places), ← Nat.pow_add, Nat.sub_add_cancel room]
    exact width.1
  have upper : n / 2 ^ places < 2 ^ (n.log2 - places + 1) := by
    rw [Nat.div_lt_iff_lt_mul (Nat.two_pow_pos places), ← Nat.pow_add,
      show n.log2 - places + 1 + places = n.log2 + 1 by omega]
    exact width.2
  have nonzero : n / 2 ^ places ≠ 0 := (Nat.two_pow_pos _ |>.trans_le lower).ne'
  exact (Nat.log2_eq_iff nonzero).mpr ⟨lower, upper⟩

/-- A number with digits to spare is rounded to 53 of them. -/
theorem roundWithAccuracy_wide {sign : UnpackedFloat.Sign} {significand : Nat} {exponent : Int}
    {accuracy : UnpackedFloat.Accuracy} (wide : 53 ≤ significand.log2)
    (normal : -1022 ≤ significand.log2 + exponent) :
    ∃ rounded exponent' positive,
      UnpackedFloat.roundWithAccuracy Format.binary64 sign significand exponent accuracy =
        .finite sign rounded exponent' positive ∧ rounded.log2 = 52 ∧
      significand.log2 + exponent - 52 ≤ exponent' ∧
      exponent' ≤ significand.log2 + exponent - 51 := by
  obtain ⟨places, rounded, places', dropped, above, below, dropped', result⟩ :=
    roundWithAccuracy_spec sign significand exponent accuracy
  obtain ⟨enough, _, necessary⟩ := dropped
  obtain ⟨enough', _, necessary'⟩ := dropped'
  have kept : (significand / 2 ^ places).log2 = 52 := by
    rw [log2_div_two_pow (by omega) (Nat.pos_of_ne_zero (by rintro rfl; simp at wide))]
    omega
  have nonzero : significand / 2 ^ places ≠ 0 := by
    intro zero
    rw [zero] at kept
    cases kept
  obtain ⟨low, high⟩ := (Nat.log2_eq_iff nonzero).mp kept
  have positive : 0 < rounded := (Nat.pos_of_ne_zero nonzero).trans_le above
  have atLeast : 52 ≤ rounded.log2 := (Nat.le_log2 positive.ne').mpr (low.trans above)
  have atMost : rounded.log2 ≤ 53 := log2_le_of_le (below.trans high)
  have last : (rounded / 2 ^ places').log2 = 52 := by
    rw [log2_div_two_pow (by omega) positive]
    omega
  rw [result]
  split
  next zero =>
    rw [zero] at last
    cases last
  next some => exact ⟨_, _, Nat.pos_of_ne_zero some, rfl, last, by omega, by omega⟩

/-! ## Operations -/

theorem Within.neg {u : UnpackedFloat} (within : Within limit u) : Within limit u.neg := by
  cases u with
  | zero => trivial
  | finite sign significand exponent positive => exact within
  | infinity => cases within
  | notANumber => cases within

theorem Within.mul {other : Int} {u v : UnpackedFloat} (left : Within limit u)
    (right : Within other v) (low : -1022 ≤ limit + other) :
    Within (limit + other + 1) (UnpackedFloat.mul Format.binary64 u v) := by
  cases u with
  | infinity => cases left
  | notANumber => cases left
  | zero =>
      cases v with
      | infinity => cases right
      | notANumber => cases right
      | zero => trivial
      | finite => trivial
  | finite sign significand exponent positive =>
      cases v with
      | infinity => cases right
      | notANumber => cases right
      | zero => trivial
      | finite sign' significand' exponent' positive' =>
          obtain ⟨size, _, top⟩ := left
          obtain ⟨size', _, top'⟩ := right
          have product : significand * significand' < 2 ^ 106 := by
            rw [show (106 : Nat) = 53 + 53 from rfl, Nat.pow_add]
            exact Nat.mul_lt_mul'' size size'
          exact within_roundWithAccuracy product (by omega) (by omega) low

/-- A quotient by two or more is not larger than the number divided. -/
theorem Within.div {u : UnpackedFloat} {sign : UnpackedFloat.Sign} {significand : Nat}
    {exponent : Int} {positive : 0 < significand} (within : Within 1024 u)
    (divisor : 1 ≤ significand.log2 + exponent) :
    Within 1024 (UnpackedFloat.div Format.binary64 u
      (.finite sign significand exponent positive)) := by
  cases u with
  | infinity => cases within
  | notANumber => cases within
  | zero => trivial
  | finite sign' dividend exponent' positive' =>
      obtain ⟨size, _, top⟩ := within
      have width : dividend.log2 < 53 := (Nat.log2_lt positive'.ne').mpr size
      have target : ∀ total, Format.binary64.targetExponent total = max (total - 53) (-1074) :=
        fun _ => rfl
      simp only [UnpackedFloat.div, UnpackedFloat.divCore, target, totalExponent]
      generalize difference : min (exponent' - exponent) (max ((dividend.log2 : Int) + 1 + exponent' -
        (significand.log2 + 1 + exponent) - 53) (-1074)) = least
      generalize shift : (exponent' - exponent - least).toNat = places
      have quotient : (dividend <<< places) / significand <
          2 ^ (dividend.log2 + 1 + places - significand.log2) := by
        rw [Nat.div_lt_iff_lt_mul positive]
        calc
          dividend <<< places < 2 ^ (dividend.log2 + 1 + places) := by
            rw [Nat.shiftLeft_eq, Nat.pow_add]
            exact Nat.mul_lt_mul_of_pos_right Nat.lt_log2_self (Nat.two_pow_pos places)
          _ ≤ 2 ^ (dividend.log2 + 1 + places - significand.log2 + significand.log2) :=
            Nat.pow_le_pow_right (by decide) (by omega)
          _ = 2 ^ (dividend.log2 + 1 + places - significand.log2) * 2 ^ significand.log2 :=
            Nat.pow_add ..
          _ ≤ 2 ^ (dividend.log2 + 1 + places - significand.log2) * significand :=
            Nat.mul_le_mul_left _ (Nat.log2_self_le positive.ne')
      have bounded : Within (1023 + 1) (UnpackedFloat.roundWithAccuracy Format.binary64
          (sign' / sign) ((dividend <<< places) / significand) least
          (UnpackedFloat.accuracyOfFraction ((dividend <<< places) % significand) significand)) :=
        within_roundWithAccuracy quotient (by omega) (by omega) (by decide)
      exact bounded

theorem within_ofNat {n : Nat} (small : n < 2 ^ 64) :
    Within 65 (UnpackedFloat.ofNat Format.binary64 n) := by
  have rounded : ∀ sign m, m < 2 ^ 64 →
      Within 65 (UnpackedFloat.round Format.binary64 sign m 0) := by
    intro sign m size
    simp only [UnpackedFloat.round, UnpackedFloat.decreaseExponent]
    generalize (0 - Format.binary64.targetExponent (totalExponent m 0)).toNat = places
    have wide : m <<< places < 2 ^ (64 + places) := by
      rw [Nat.shiftLeft_eq, Nat.pow_add]
      exact Nat.mul_lt_mul_of_pos_right size (Nat.two_pow_pos places)
    have within : Within (64 + 1) (UnpackedFloat.roundWithAccuracy Format.binary64 sign
        (m <<< places) (0 - places) .exact) :=
      within_roundWithAccuracy wide (by omega) (by omega) (by decide)
    exact within
  unfold UnpackedFloat.ofNat UnpackedFloat.ofInt UnpackedFloat.normalize
  split
  · exact rounded _ _ (by omega)
  · trivial
  · exact rounded _ _ (by omega)

end

/-! ## Floats -/

theorem isFinite_neg {x : Float} (finite : x.isFinite = true) : (-x).isFinite = true :=
  (within_of_isFinite finite).neg.isFinite_pack

/-- A product of finite floats is finite if it is not infinite: it is never undefined. -/
theorem isFinite_mul {x y : Float} (left : x.isFinite = true) (right : y.isFinite = true)
    (bounded : (x * y).isInf = false) : (x * y).isFinite = true := by
  have within := within_of_isFinite left
  have within' := within_of_isFinite right
  have product : x * y = Float.ofModel (Float.Model.pack
      (UnpackedFloat.mul Format.binary64 x.toModel.unpack y.toModel.unpack)) := rfl
  rw [product] at bounded ⊢
  have shape := within.mul within' (by decide)
  cases result : UnpackedFloat.mul Format.binary64 x.toModel.unpack y.toModel.unpack with
  | zero sign => exact (show Within 1024 (.zero sign) from trivial).isFinite_pack
  | finite sign significand exponent positive =>
      rw [result] at bounded
      exact isFinite_pack_of_isInf bounded
  | infinity sign =>
      rw [result] at shape
      cases shape
  | notANumber =>
      rw [result] at shape
      cases shape

theorem isFinite_div {x y : Float} (finite : x.isFinite = true)
    (large : Large y.toModel.unpack = true) : (x / y).isFinite = true := by
  have within := within_of_isFinite finite
  have quotient : x / y = Float.ofModel (Float.Model.pack
      (UnpackedFloat.div Format.binary64 x.toModel.unpack y.toModel.unpack)) := rfl
  rw [quotient]
  cases divisor : y.toModel.unpack with
  | finite sign significand exponent positive =>
      rw [divisor] at large
      exact (within.div (of_decide_eq_true large)).isFinite_pack
  | zero => rw [divisor] at large; cases large
  | infinity => rw [divisor] at large; cases large
  | notANumber => rw [divisor] at large; cases large

/-- A decimal number without a fraction is rounded once. -/
theorem ofScientific_eq {significand exponent : Nat} (nonzero : significand ≠ 0)
    (small : exponent ≤ 2048) :
    UnpackedFloat.ofScientific Format.binary64 significand exponent =
      UnpackedFloat.roundWithAccuracy Format.binary64 .positive
        (significand * 2 ^ 53 * 10 ^ exponent) (-53) .exact := by
  have limit : (2 : Int) ^ Format.binary64.exponentBits = 2048 := rfl
  have bounded : ¬ (exponent : Int) > 2 ^ Format.binary64.exponentBits := by
    rw [limit]
    omega
  have above : ¬ (exponent : Int) <
      -(2 ^ Format.binary64.exponentBits + (Nat.log2 significand : Int)) := by
    rw [limit]
    omega
  rw [UnpackedFloat.ofScientific, dif_neg nonzero, if_neg bounded, if_neg above,
    if_pos (Int.natCast_nonneg exponent), ← Nat.shiftLeft_eq]
  rfl

/-- Integers of 64 bits have a float near them. -/
theorem isFinite_ofNat {n : Nat} (small : n < UInt64.size) : (Float.ofNat n).isFinite = true := by
  have size : UInt64.size = 2 ^ 64 := rfl
  by_cases exact : n < 2 ^ 53
  · have value : Float.ofNat n = n.toUInt64.toFloat * Float.ofBits 0x3FF0000000000000 := by
      unfold Float.ofNat
      change Float.ofScientific n false 0 = _
      rw [Float.ofScientific, dif_pos ⟨exact, by decide⟩]
      rfl
    have one : Within 1 (Float.ofBits 0x3FF0000000000000).toModel.unpack := by
      refine ⟨?_, ?_, ?_⟩ <;> decide +kernel
    have converted : Within 65 n.toUInt64.toFloat.toModel.unpack :=
      (within_ofNat n.toUInt64.toNat_lt).pack (by decide) (by decide)
    rw [value]
    exact ((converted.mul one (by decide)).mono (by decide)).isFinite_pack
  · have value : Float.ofNat n = Float.ofModel (Float.Model.pack
        (UnpackedFloat.roundWithAccuracy Format.binary64 .positive (n * 2 ^ 53) (-53) .exact)) := by
      unfold Float.ofNat
      change Float.ofScientific n false 0 = _
      rw [Float.ofScientific, dif_neg fun both => exact both.1]
      have scientific := @ofScientific_eq n 0 (by omega) (by decide)
      rw [Nat.pow_zero, Nat.mul_one] at scientific
      exact congrArg (fun u => Float.ofModel (Float.Model.pack u)) scientific
    have wide : n * 2 ^ 53 < 2 ^ 117 := by omega
    have within : Within (64 + 1) (UnpackedFloat.roundWithAccuracy Format.binary64 .positive
        (n * 2 ^ 53) (-53) .exact) :=
      within_roundWithAccuracy wide (by decide) (by decide) (by decide)
    rw [value]
    exact (within.mono (by decide)).isFinite_pack

end RuleGrammar.Binary64

namespace RuleGrammar.Json

/-- Up to `10 ^ 22` the powers are exact, and the last one rounds up to all its digits. -/
theorem large_powerOfTen {exponent : Nat} (positive : 0 < exponent) (fits : exponent ≤ 308) :
    Binary64.Large (powerOfTen exponent).toModel.unpack = true := by
  by_cases exact : exponent ≤ 22
  · have powers : ∀ e < 23, 0 < e → Binary64.Large (powerOfTen e).toModel.unpack = true := by
      decide +kernel
    exact powers exponent (by omega) positive
  by_cases last : exponent = 308
  · subst last
    decide +kernel
  have value : powerOfTen exponent = Float.ofModel (Float.Model.pack
      (UnpackedFloat.ofScientific Format.binary64 1 exponent)) := by
    rw [powerOfTen, Float.ofScientific, dif_neg fun both => exact both.2]
    rfl
  have scientific := @Binary64.ofScientific_eq 1 exponent one_ne_zero (by omega)
  rw [Nat.one_mul] at scientific
  have nonzero : 2 ^ 53 * 10 ^ exponent ≠ 0 :=
    (Nat.mul_pos (Nat.two_pow_pos 53) (Nat.pow_pos (by decide))).ne'
  have lower : 56 ≤ (2 ^ 53 * 10 ^ exponent).log2 := by
    have ten : 10 ^ 1 ≤ 10 ^ exponent := Nat.pow_le_pow_right (by decide) positive
    rw [Nat.le_log2 nonzero]
    omega
  have upper : (2 ^ 53 * 10 ^ exponent).log2 < 1073 := by
    obtain ⟨digits, bits, limit, largest, size⟩ : ∃ digits bits, bits = 1020 ∧ exponent ≤ digits ∧
        Nat.pow 10 digits < Nat.pow 2 bits := ⟨307, 1020, rfl, by omega, by decide +kernel⟩
    have power : 10 ^ exponent < 2 ^ bits :=
      (Nat.pow_le_pow_right (by decide) largest).trans_lt size
    have product : (2 ^ 53 * 10 ^ exponent).log2 < 53 + bits := by
      rw [Nat.log2_lt nonzero, Nat.pow_add]
      exact Nat.mul_lt_mul_of_pos_left power (Nat.two_pow_pos 53)
    omega
  obtain ⟨rounded, exponent', positive', result, full, above, below⟩ :=
    @Binary64.roundWithAccuracy_wide .positive (2 ^ 53 * 10 ^ exponent) (-53) .exact (by omega)
      (by omega)
  rw [value, scientific, result]
  exact Binary64.large_unpack_pack full (by omega) (by omega)

theorem isFinite_powerOfTen {exponent : Nat} (fits : exponent ≤ 308) :
    (powerOfTen exponent).isFinite = true := by
  by_cases zero : exponent = 0
  · subst zero
    decide +kernel
  · have large := large_powerOfTen (Nat.pos_of_ne_zero zero) fits
    change (powerOfTen exponent).toModel.unpack.isFinite = true
    cases power : (powerOfTen exponent).toModel.unpack with
    | finite => rfl
    | zero => rfl
    | infinity => rw [power] at large; cases large
    | notANumber => rw [power] at large; cases large

/-! ## Numbers of texts -/

theorem isFinite_scaleFloat {fuel : Nat} {x scaled : Float} {exponent : Int}
    (finite : x.isFinite = true) (result : scaleFloat fuel x exponent = some scaled) :
    scaled.isFinite = true := by
  induction fuel generalizing x exponent with
  | zero =>
      cases result
      exact finite
  | succ fuel inductionHypothesis =>
      unfold scaleFloat at result
      by_cases near : exponent.natAbs ≤ 308
      · rw [if_pos near] at result
        by_cases up : 0 ≤ exponent
        · rw [if_pos up] at result
          simp only [Option.ite_none_left_eq_some, Option.some.injEq, Bool.not_eq_true] at result
          obtain ⟨bounded, rfl⟩ := result
          exact Binary64.isFinite_mul finite (isFinite_powerOfTen near) bounded
        · rw [if_neg up] at result
          cases result
          exact Binary64.isFinite_div finite (large_powerOfTen (by omega) near)
      · rw [if_neg near] at result
        by_cases zero : (x == 0.0) = true
        · rw [if_pos zero] at result
          cases result
          exact finite
        · rw [if_neg zero] at result
          by_cases up : 0 ≤ exponent
          · rw [if_pos up] at result
            cases result
          · rw [if_neg up] at result
            exact inductionHypothesis
              (Binary64.isFinite_div finite (large_powerOfTen (by decide) le_rfl)) result

theorem takeDigits_lt {significand : Nat} (small : significand < significandLimit)
    (digits : List Char) : (takeDigits significand digits).1 < significandLimit := by
  induction digits generalizing significand with
  | nil => exact small
  | cons c digits inductionHypothesis =>
      unfold takeDigits
      simp only
      split
      next fits => exact inductionHypothesis fits
      next => exact small

theorem NumberText.scale_lt (number : NumberText) :
    number.scale.significand < significandLimit :=
  takeDigits_lt (takeDigits_lt (by decide) _) _

theorem isFinite_applySign {negative : Bool} {x : Float} (finite : x.isFinite = true) :
    (applySign negative x).isFinite = true := by
  cases negative with
  | false => exact finite
  | true => exact Binary64.isFinite_neg finite

theorem Scale.isFinite_of_toFloat? {scale : Scale} {x : Float}
    (small : scale.significand < significandLimit) (result : scale.toFloat? = some x) :
    x.isFinite = true :=
  isFinite_scaleFloat (Binary64.isFinite_ofNat small) result

/-- A number text that stands for a float stands for a finite one. -/
theorem NumberText.isFinite_of_toFloat? {number : NumberText} {x : Float}
    (result : number.toFloat? = some x) : x.isFinite = true := by
  unfold NumberText.toFloat? at result
  split at result
  next =>
    obtain ⟨magnitude, scaled, rfl⟩ := Option.map_eq_some_iff.mp result
    exact isFinite_applySign (Scale.isFinite_of_toFloat? number.scale_lt scaled)
  next negative digits _ =>
    simp only at result
    split at result
    next =>
      simp only [Option.ite_none_left_eq_some, Option.some.injEq] at result
      rw [← result.2]
      exact isFinite_applySign (by decide +kernel)
    next =>
      obtain ⟨magnitude, scaled, rfl⟩ := Option.map_eq_some_iff.mp result
      refine isFinite_applySign (Scale.isFinite_of_toFloat? ?_ scaled)
      exact number.scale_lt

end RuleGrammar.Json
