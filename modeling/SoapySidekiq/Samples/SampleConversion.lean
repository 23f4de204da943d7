import SoapySidekiq.Exceptions
import SoapySidekiq.Foundations.Binary32
import SoapySidekiq.Foundations.Rounding
import SoapySidekiq.Tx.Wire

/-! # Conversion between CS16 and CF32

What a CF32 stream makes of native samples, in either direction. A reader gets a native sample divided
by the full scale; a writer's component is clipped, multiplied by the full scale and rounded. Both
round to single precision in between, and still the one undoes the other. -/
set_option autoImplicit false

open Rounding Binary32

namespace SoapySidekiq

/-! ## From the source -/

/-- `std::clamp(value, -1.0F, 1.0F)` of what is a number or infinite. -/
def clipped : Binary32.Value → ℚ
  | .nan => 0
  | .infinite negative => signed negative 1
  | .finite x => clamp x (-1) 1

def convertNormalizedFloatToSample (value fullScale : Binary32.Value) : Except Exception Int16 :=
  match fullScale with
  | .finite scale =>
    if scale ≤ 0 ∨ ofInt 32767 < scale then
      .error (.invalidArgument "sample full scale is outside the supported range")
    else if value = .nan then .ok 0
    else .ok (Int16.ofInt (roundHalfAway (multiply (clipped value) scale)))
  | _ => .error (.invalidArgument "sample full scale is outside the supported range")

/-- The loop of `convertCf32ToCs16` over the components from `offset` on, up to what a component throws. -/
def convertComponents (memory : Memory) (offset components : ℕ) (fullScale : Binary32.Value) :
    Except Exception (List Int16) :=
  (List.range components).mapM fun index =>
    convertNormalizedFloatToSample (decode (floatBits memory (offset + index * 4))) fullScale

/-- `static_cast<float>(txMaxValue)`, which is not negative. -/
def floatScale (maxValue : UInt32) : Binary32.Value := .finite (ofInt maxValue.toNat)

/-- `convertNormalizedFloatToSample` at the full scale of a device. -/
def convertAtScale (maxValue bits : UInt32) : Int16 :=
  match convertNormalizedFloatToSample (decode bits) (floatScale maxValue) with
  | .ok sample => sample
  | .error _ => 0

/-- What `readStream` makes of a native sample in a CF32 stream. -/
def normalizedSample (maxValue : UInt32) (sample : Int16) : ℚ :=
  divide (ofInt sample.toInt) (ofInt maxValue.toNat)

/-- What `sampleFullScale` and `txSampleFullScale` return. -/
def IsFullScale (maxValue : UInt32) : Prop := 1 ≤ maxValue.toNat ∧ maxValue.toNat ≤ 32767

instance (maxValue : UInt32) : Decidable (IsFullScale maxValue) := instDecidableAnd

/-! ## A component -/

theorem clipped_bounds (value : Binary32.Value) : -1 ≤ clipped value ∧ clipped value ≤ 1 := by
  cases value with
  | nan => norm_num [clipped]
  | infinite negative => cases negative <;> norm_num [clipped, signed]
  | finite x => exact ⟨le_clamp (by norm_num), clamp_le (by norm_num)⟩

theorem ofInt_scale {maxValue : UInt32} (h : IsFullScale maxValue) :
    ofInt maxValue.toNat = maxValue.toNat := by
  rw [ofInt_eq]
  · rfl
  · rw [abs_of_nonneg (by omega)]
    have := h.2
    omega

theorem ofInt_sample (sample : Int16) : ofInt sample.toInt = sample.toInt := by
  have hlow := sample.le_toInt
  have hhigh := sample.toInt_lt
  exact ofInt_eq (abs_lt.mpr ⟨by omega, by omega⟩)

variable {maxValue : UInt32}

theorem multiply_scale_bounds {F : ℕ} (hF : F ≤ 32767) {x : ℚ} (hx : -1 ≤ x ∧ x ≤ 1) :
    -(F : ℚ) ≤ multiply x F ∧ multiply x F ≤ F := by
  have hfixed : format.round (F : ℚ) = F := by
    exact_mod_cast BinaryFormat.round_intCast (f := format) (n := (F : ℤ))
      (by rw [abs_of_nonneg (by omega)]; change (F : ℤ) < 2 ^ 24; omega) (by decide)
  have hpos : (0 : ℚ) ≤ F := Nat.cast_nonneg F
  constructor
  · have hlow := BinaryFormat.round_mono (f := format) (show -(F : ℚ) ≤ x * F by nlinarith [hx.1])
    rwa [BinaryFormat.round_neg, hfixed] at hlow
  · have hhigh := BinaryFormat.round_mono (f := format) (show x * F ≤ (F : ℚ) by nlinarith [hx.2])
    rwa [hfixed] at hhigh

theorem abs_quantized_le {F : ℕ} (hF : F ≤ 32767) (value : Binary32.Value) :
    |roundHalfAway (multiply (clipped value) F)| ≤ F := by
  have hbounds := multiply_scale_bounds hF (clipped_bounds value)
  have hlow := roundHalfAway_mono hbounds.1
  have hhigh := roundHalfAway_mono hbounds.2
  have hpos : roundHalfAway (F : ℚ) = F := by exact_mod_cast roundHalfAway_intCast (α := ℚ) (F : ℤ)
  rw [roundHalfAway_neg, hpos] at hlow
  rw [hpos] at hhigh
  exact abs_le.mpr ⟨hlow, hhigh⟩

/-- Never an exception at the full scale of a device. -/
theorem convert_ok (h : IsFullScale maxValue) (value : Binary32.Value) :
    ∃ sample, convertNormalizedFloatToSample value (floatScale maxValue) = .ok sample ∧
      sample.toInt = if value = .nan then 0
        else roundHalfAway (multiply (clipped value) maxValue.toNat) := by
  have hguard : ¬(ofInt maxValue.toNat ≤ 0 ∨ ofInt 32767 < ofInt maxValue.toNat) := by
    have hlow : (1 : ℚ) ≤ maxValue.toNat := by exact_mod_cast h.1
    have hhigh : (maxValue.toNat : ℚ) ≤ 32767 := by exact_mod_cast h.2
    rw [ofInt_scale h, ofInt_eq (by norm_num)]
    push_cast
    rw [not_or, not_le, not_lt]
    exact ⟨by linarith, hhigh⟩
  simp only [convertNormalizedFloatToSample, floatScale, if_neg hguard]
  split
  · exact ⟨0, rfl, rfl⟩
  · refine ⟨_, rfl, ?_⟩
    rw [ofInt_scale h]
    have hbounds := abs_le.mp (abs_quantized_le h.2 value)
    have hscale := h.2
    exact Int16.toInt_ofInt_of_le (by omega) (by omega)

/-- The sample nearest to the clipped component at the full scale, up to the rounding of the product. -/
theorem convert_error (h : IsFullScale maxValue) {value : Binary32.Value} (hvalue : value ≠ .nan)
    {sample : Int16} (hsample : convertNormalizedFloatToSample value (floatScale maxValue) = .ok sample) :
    |(sample.toInt : ℚ) - clipped value * maxValue.toNat| ≤ 1 / 2 + 1 / 256 := by
  obtain ⟨sample', hok, hint⟩ := convert_ok h value
  obtain rfl : sample' = sample := Except.ok.inj (hok.symm.trans hsample)
  rw [if_neg hvalue] at hint
  have hround := abs_roundHalfAway_sub_le (multiply (clipped value) maxValue.toNat)
  have hmultiply := abs_multiply_sub_le (clipped value) maxValue.toNat
  have hscale : (maxValue.toNat : ℚ) ≤ 32767 := by exact_mod_cast h.2
  have hproduct : |clipped value * maxValue.toNat| ≤ 32767 := by
    rw [abs_mul, Nat.abs_cast]
    have := abs_le.mpr (clipped_bounds value)
    calc |clipped value| * maxValue.toNat ≤ 1 * 32767 :=
          mul_le_mul this hscale (Nat.cast_nonneg _) zero_le_one
      _ = 32767 := one_mul _
  have hsmall : |clipped value * maxValue.toNat| / 2 ^ 24 + 2 ^ (-149 : ℤ) / 2 ≤ 1 / 256 := by
    have hrelative : |clipped value * maxValue.toNat| / 2 ^ 24 ≤ 32767 / 2 ^ 24 :=
      div_le_div_of_nonneg_right hproduct (by norm_num)
    refine (add_le_add_left hrelative _).trans ?_
    norm_num
  rw [hint]
  exact (abs_sub_le _ (multiply (clipped value) maxValue.toNat) _).trans
    (add_le_add hround (hmultiply.trans hsmall))

theorem convert_eq (h : IsFullScale maxValue) (bits : UInt32) :
    convertNormalizedFloatToSample (decode bits) (floatScale maxValue) =
      .ok (convertAtScale maxValue bits) := by
  obtain ⟨sample, hok, -⟩ := convert_ok h (decode bits)
  rw [convertAtScale, hok]

/-- No component of a buffer throws, and what the block gets is the stored components. -/
theorem convertComponents_eq (h : IsFullScale maxValue) (memory : Memory) (offset complexSamples : ℕ) :
    ∃ components, convertComponents memory offset (complexSamples * 2) (floatScale maxValue) =
        .ok components ∧
      convertCf32ToCs16 (convertAtScale maxValue) memory offset complexSamples =
        components.flatMap storeSample := by
  refine ⟨(List.range (complexSamples * 2)).map fun i =>
    convertAtScale maxValue (floatBits memory (offset + i * 4)), ?_, ?_⟩
  · simp only [convertComponents, convert_eq h]
    generalize List.range (complexSamples * 2) = indices
    induction indices with
    | nil => rfl
    | cons i indices ih => rw [List.mapM_cons, ih]; rfl
  · rw [convertCf32ToCs16, List.flatMap_map]

/-! ## The converter -/

/-- A converter to samples of at most `maxValue`. -/
structure Quantizes (maxValue : UInt32) (convert : Binary32.Value → Int16) : Prop where
  nan : convert .nan = 0
  bounded : ∀ x, |(convert x).toInt| ≤ maxValue.toNat
  nearest : ∀ x, x ≠ .nan → |((convert x).toInt : ℚ) - clipped x * maxValue.toNat| ≤ 1 / 2 + 1 / 256
  mono : ∀ x y, x ≠ .nan → y ≠ .nan → clipped x ≤ clipped y → (convert x).toInt ≤ (convert y).toInt
  odd : ∀ x, (convert x.neg).toInt = -(convert x).toInt

theorem clipped_neg (x : Binary32.Value) : clipped x.neg = -clipped x := by
  cases x with
  | nan => rfl
  | infinite negative => cases negative <;> simp [clipped, Value.neg, signed]
  | finite x => exact clamp_neg zero_le_one

theorem neg_eq_nan {x : Binary32.Value} : x.neg = .nan ↔ x = .nan := by
  cases x <;> simp [Value.neg]

theorem quantizes_of_ok (h : IsFullScale maxValue) {convert : Binary32.Value → Int16}
    (hconvert : ∀ x, convertNormalizedFloatToSample x (floatScale maxValue) = .ok (convert x)) :
    Quantizes maxValue convert := by
  have hint : ∀ x, (convert x).toInt = if x = .nan then 0
      else roundHalfAway (multiply (clipped x) maxValue.toNat) := by
    intro x
    obtain ⟨sample, hok, hsample⟩ := convert_ok h x
    rwa [Except.ok.inj (hok.symm.trans (hconvert x))] at hsample
  have hscale : (0 : ℚ) ≤ maxValue.toNat := Nat.cast_nonneg _
  refine ⟨?_, fun x => ?_, fun x hx => convert_error h hx (hconvert x), fun x y hx hy hxy => ?_,
    fun x => ?_⟩
  · exact Int16.toInt_inj.mp (by rw [hint, if_pos rfl]; rfl)
  · rw [hint]
    split
    · simp
    · exact abs_quantized_le h.2 x
  · rw [hint, hint, if_neg hx, if_neg hy]
    exact roundHalfAway_mono (BinaryFormat.round_mono (mul_le_mul_of_nonneg_right hxy hscale))
  · rw [hint, hint]
    by_cases hx : x = .nan
    · rw [if_pos hx, if_pos (neg_eq_nan.mpr hx), neg_zero]
    · rw [if_neg hx, if_neg (neg_eq_nan.not.mpr hx), clipped_neg, multiply, neg_mul,
        BinaryFormat.round_neg, roundHalfAway_neg]
      rfl

/-- A full scale is refused unless it is positive and a sample can hold it. At the full scale of a
device the conversion is a bounded, odd and monotone quantizer of every float, and a buffer of any
length is converted without an exception. -/
theorem cf32_conversion_quantizes (h : IsFullScale maxValue) :
    (∀ value fullScale, (∃ sample, convertNormalizedFloatToSample value fullScale = .ok sample) ↔
      ∃ scale, fullScale = .finite scale ∧ 0 < scale ∧ scale ≤ 32767) ∧
    (∃ convert, Quantizes maxValue convert ∧
      ∀ x, convertNormalizedFloatToSample x (floatScale maxValue) = .ok (convert x)) ∧
    ∀ memory offset complexSamples, ∃ components,
      convertComponents memory offset (complexSamples * 2) (floatScale maxValue) = .ok components ∧
      convertCf32ToCs16 (convertAtScale maxValue) memory offset complexSamples =
        components.flatMap storeSample := by
  refine ⟨fun value fullScale => ?_, ?_, convertComponents_eq h⟩
  · have hlargest : ofInt 32767 = 32767 := ofInt_eq (by norm_num)
    cases fullScale with
    | nan | infinite => simp [convertNormalizedFloatToSample]
    | finite scale =>
      rw [convertNormalizedFloatToSample, hlargest]
      by_cases hscale : scale ≤ 0 ∨ 32767 < scale
      · rw [if_pos hscale]
        rcases hscale with hle | hlt
        · simp [hle]
        · simp [hlt]
      · rw [if_neg hscale]
        rw [not_or, not_le, not_lt] at hscale
        split <;> simp [hscale]
  · choose convert hconvert using fun x => (convert_ok h x).imp fun _ hok => hok.1
    exact ⟨convert, quantizes_of_ok h hconvert, hconvert⟩

/-- The smallest float at 12 bits, and a buffer of two infinities. -/
theorem cf32_conversion_quantizes_twelve_bits : ∃ convert, Quantizes 2047 convert ∧
    convertNormalizedFloatToSample (decode 1) (floatScale 2047) = .ok (convert (decode 1)) ∧
    ∃ components, convertComponents (fun i => if i % 4 = 3 then 0xFF else if i % 4 = 2 then 0x80 else 0)
      0 2 (floatScale 2047) = .ok components := by
  have hscale : IsFullScale 2047 := by decide
  obtain ⟨-, ⟨convert, hquantizes, hconvert⟩, hbuffer⟩ := cf32_conversion_quantizes hscale
  obtain ⟨components, hok, -⟩ := hbuffer _ 0 1
  exact ⟨convert, hquantizes, hconvert _, components, hok⟩

/-! ## There and back -/

theorem divide_one_bounds (x y : ℚ) : clamp (divide x y) (-1) 1 = format.round (clamp (x / y) (-1) 1) := by
  have hone : format.round 1 = 1 := by
    exact_mod_cast BinaryFormat.round_intCast (f := format) (n := 1) (by decide) (by decide)
  rw [map_clamp BinaryFormat.round_mono (by norm_num), BinaryFormat.round_neg, hone]
  rfl

/-- What a reader gets at one full scale and a writer converts at another. -/
theorem loopback_error {rxMax txMax : UInt32} (hrx : IsFullScale rxMax) (htx : IsFullScale txMax)
    {sample result : Int16} (hresult : convertNormalizedFloatToSample
      (.finite (normalizedSample rxMax sample)) (floatScale txMax) = .ok result) :
    |(result.toInt : ℚ) - clamp ((sample.toInt : ℚ) / rxMax.toNat) (-1) 1 * txMax.toNat| < 1 := by
  have herror := convert_error htx (by simp) hresult
  have hclipped : clipped (.finite (normalizedSample rxMax sample)) =
      format.round (clamp ((sample.toInt : ℚ) / rxMax.toNat) (-1) 1) := by
    rw [clipped, normalizedSample, ofInt_sample, ofInt_scale hrx, divide_one_bounds]
  rw [hclipped] at herror
  generalize hx : clamp ((sample.toInt : ℚ) / rxMax.toNat) (-1) 1 = x at herror ⊢
  have hbounds : |x| ≤ 1 := by
    rw [← hx]
    exact abs_le.mpr ⟨le_clamp (by norm_num), clamp_le (by norm_num)⟩
  have hround := BinaryFormat.abs_round_sub_le (f := format) x
  have hscale : (txMax.toNat : ℚ) ≤ 32767 := by exact_mod_cast htx.2
  have hproduct : |format.round x * txMax.toNat - x * txMax.toNat| ≤ 1 / 256 := by
    rw [← sub_mul, abs_mul, Nat.abs_cast]
    have hsmall : |format.round x - x| ≤ 1 / 2 ^ 24 + 1 / 2 ^ 100 := by
      refine hround.trans ?_
      change |x| / 2 ^ 24 + 2 ^ (-149 : ℤ) / 2 ≤ _
      have : |x| / 2 ^ 24 ≤ 1 / 2 ^ 24 := div_le_div_of_nonneg_right hbounds (by norm_num)
      norm_num at this ⊢
      linarith
    calc |format.round x - x| * txMax.toNat ≤ (1 / 2 ^ 24 + 1 / 2 ^ 100) * 32767 :=
          mul_le_mul hsmall hscale (Nat.cast_nonneg _) (by norm_num)
      _ ≤ 1 / 256 := by norm_num
  have hsum := abs_sub_le (result.toInt : ℚ) (format.round x * txMax.toNat) (x * txMax.toNat)
  linarith

/-- At one full scale the native sample comes back, clipped to the full scale. -/
theorem loopback (h : IsFullScale maxValue) (sample : Int16) :
    ∃ result, convertNormalizedFloatToSample (.finite (normalizedSample maxValue sample))
        (floatScale maxValue) = .ok result ∧
      result.toInt = clamp sample.toInt (-maxValue.toNat) maxValue.toNat := by
  obtain ⟨result, hresult, -⟩ := convert_ok h (.finite (normalizedSample maxValue sample))
  refine ⟨result, hresult, ?_⟩
  have herror := loopback_error h h hresult
  have hpos : (0 : ℚ) < maxValue.toNat := by exact_mod_cast Nat.lt_of_lt_of_le Nat.zero_lt_one h.1
  have hexact : clamp ((sample.toInt : ℚ) / maxValue.toNat) (-1) 1 * maxValue.toNat =
      ((clamp sample.toInt (-maxValue.toNat) maxValue.toNat : ℤ) : ℚ) := by
    have hscaled : Monotone fun x : ℚ => x * maxValue.toNat :=
      fun x y hxy => mul_le_mul_of_nonneg_right hxy hpos.le
    have hcast : Monotone fun n : ℤ => (n : ℚ) := Int.cast_mono
    have hleft := map_clamp hscaled (v := (sample.toInt : ℚ) / maxValue.toNat)
      (show (-1 : ℚ) ≤ 1 by norm_num)
    have hright := map_clamp hcast (v := sample.toInt)
      (show (-maxValue.toNat : ℤ) ≤ maxValue.toNat by omega)
    rw [hleft, hright, div_mul_cancel₀ _ hpos.ne']
    push_cast
    rw [neg_one_mul, one_mul]
  rw [hexact, ← Int.cast_sub, ← Int.cast_abs] at herror
  have hlt : |result.toInt - clamp sample.toInt (-maxValue.toNat) maxValue.toNat| < 1 := by
    exact_mod_cast herror
  rw [Int.abs_lt_one_iff] at hlt
  omega

end SoapySidekiq
