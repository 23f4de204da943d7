import SoapySidekiq.Controls.Channels
import SoapySidekiq.Foundations.RegisterBank
import SoapySidekiq.Foundations.Rounding
import Mathlib.Data.Rat.Floor

/-! # Gain

`setGain` and `getGain` of `RFControls.cpp`. The doubles they compute with are exact on the values
that occur, and stand here as rationals. RX gain is an index of the SDK, with an offset and a number
of steps per dB that depend on the part; TX gain is an attenuation in quarters of a dB, counted down
from the channel's largest. -/
set_option autoImplicit false

namespace SoapySidekiq
open RegisterBank Rounding

/-! ## Parts and profiles -/

/-- `skiq_part_t`. -/
inductive Part where
  | mpcie
  | m2
  | m2_2280
  | z2
  | z3u
  | x2
  | x4
  | x40
  | nv100
  | nvm2
  | z4
  | z4_mp
  | other (raw : ℤ)
deriving DecidableEq, Repr

structure GainProfile where
  /-- The gain index of zero dB. -/
  rxOffset : ℚ
  rxStepsPerDb : ℚ
  rxMaximum : ℚ

/-- A double requested as a gain: a finite number, or an infinity or NaN. -/
inductive RequestedGain where
  | finite (dB : ℚ)
  | nonFinite

/-! ## Gain registers -/

/-- `skiq_rx_gain_t`. -/
inductive GainMode where
  | manual
  | auto
  | other (raw : ℤ)
deriving DecidableEq, Repr

inductive GainRegister where
  | rxMode (handle : UInt32)
  | rxGain (handle : UInt32)
  | txAttenuation (handle : UInt32)
deriving DecidableEq, Repr

abbrev GainRegister.Value : GainRegister → Type
  | .rxMode _ => GainMode
  | .rxGain _ => UInt8
  | .txAttenuation _ => UInt16

abbrev Gains : Type := Bank GainRegister GainRegister.Value

def Gains.rxMode (b : Gains) (handle : UInt32) : GainMode := b.value (.rxMode handle)

def Gains.rxGain (b : Gains) (handle : UInt32) : UInt8 := b.value (.rxGain handle)

def Gains.txAttenuation (b : Gains) (handle : UInt32) : UInt16 := b.value (.txAttenuation handle)

/-- A device with its TX attenuation limits by channel, and its SDK. -/
structure GainDevice extends Channels where
  part : Part
  /-- `param.tx_param[channel].atten_quarter_db_min` and `atten_quarter_db_max`. -/
  attenMin : ℕ → UInt16
  attenMax : ℕ → UInt16
  /-- What `skiq_read_rx_gain_index_range` reads. -/
  rxMinimum : UInt32 → UInt8
  rxMaximum : UInt32 → UInt8
  write : ℕ → Outcome

/-- The statuses of the reads of one call. -/
structure GainReads where
  range : ℤ
  mode : ℤ
  gain : ℤ
  attenuation : ℤ

namespace GainDevice

def gainProfile (d : GainDevice) : Except Exception GainProfile :=
  match d.part with
  | .mpcie | .m2 | .m2_2280 | .z2 | .z3u => .ok ⟨0, 1, 76⟩
  | .x2 | .x4 | .x40 => .ok ⟨195, 2, 30⟩
  | .nv100 | .nvm2 | .z4 | .z4_mp => .ok ⟨187, 2, 34⟩
  | .other _ => .error (.runtimeError ("unsupported Sidekiq gain profile (card " ++
      toString d.card ++ ")"))

/-- The card and channel in the middle of a message. -/
def gainContext (d : GainDevice) (channel : ℕ) : String :=
  " (card " ++ toString d.card ++ ", channel " ++ toString channel ++ ")"

def txGainMaximum (d : GainDevice) (channel : ℕ) : Except Exception ℚ :=
  match d.validateChannel soapyTx channel with
  | .error e => .error e
  | .ok () =>
    if d.attenMin channel > d.attenMax channel then
      .error (.runtimeError ("invalid TX attenuation limits (card " ++ toString d.card ++
        ", channel " ++ toString channel ++ ")"))
    else .ok ((((d.attenMax channel).toNat - (d.attenMin channel).toNat : ℤ) : ℚ) / 4)

/-! ## Setting -/

/-- `std::to_string` of a number of quarters: six decimals. -/
def quartersText (value : ℚ) : String :=
  let quarters := ⌊value * 4⌋.toNat
  toString (quarters / 4) ++ "." ++ toString (quarters % 4 * 25) ++
    if quarters % 4 = 0 then "00000" else "0000"

/-- The index that `setGain` writes. -/
def rxGainIndex (profile : GainProfile) (minimum maximum : UInt8) (value : ℚ) : UInt8 :=
  let bounded := clamp value ((minimum.toNat - profile.rxOffset) / profile.rxStepsPerDb)
    ((maximum.toNat - profile.rxOffset) / profile.rxStepsPerDb)
  let index : ℚ := profile.rxOffset + roundHalfAway (bounded * profile.rxStepsPerDb)
  UInt8.ofNat (truncate (clamp index minimum.toNat maximum.toNat)).toNat

/-- The RX branch of `setGain`, once the profile is known. -/
def setRxGain (d : GainDevice) (reads : GainReads) (profile : GainProfile) (channel : ℕ) (value : ℚ)
    (b : Gains) : Except Exception Unit × Gains :=
  match d.getRxHandle channel with
  | .error e => (.error e, b)
  | .ok handle =>
    let minimum := d.rxMinimum handle
    let maximum := d.rxMaximum handle
    if reads.range ≠ 0 then
      (.error (.runtimeError ("skiq_read_rx_gain_index_range" ++ d.gainContext channel ++
        " failed, status " ++ toString reads.range)), b)
    else if minimum > maximum then
      (.error (.runtimeError ("invalid RX gain index range" ++ d.gainContext channel)), b)
    else
      let gainIndex := rxGainIndex profile minimum maximum value
      if reads.mode ≠ 0 then
        (.error (.runtimeError ("skiq_read_rx_gain_mode" ++ d.gainContext channel ++
          " failed, status " ++ toString reads.mode)), b)
      else
        let (status, b) :=
          if b.rxMode handle = .auto then
            RegisterBank.write d.write (.rxMode handle) (GainMode.manual : GainMode) b
          else (0, b)
        if status ≠ 0 then
          (.error (.runtimeError ("skiq_write_rx_gain_mode" ++ d.gainContext channel ++
            " failed, status " ++ toString status)), b)
        else
          let (status, b) := RegisterBank.write d.write (.rxGain handle) gainIndex b
          if status ≠ 0 then
            (.error (.runtimeError ("skiq_write_rx_gain" ++ d.gainContext channel ++
              " failed, status " ++ toString status)), b)
          else (.ok (), b)

/-- The attenuation that `setGain` writes. -/
def txIndex (maximum : UInt16) (value : ℚ) : UInt16 :=
  UInt16.ofNat (truncate ((maximum.toNat : ℚ) - roundHalfAway (value * 4))).toNat

/-- The TX branch of `setGain`. -/
def setTxGain (d : GainDevice) (channel : ℕ) (value : ℚ) (b : Gains) :
    Except Exception Unit × Gains :=
  match d.txGainMaximum channel with
  | .error e => (.error e, b)
  | .ok maximumGain =>
    if value < 0 ∨ value > maximumGain then
      (.error (.invalidArgument ("TX gain" ++ d.gainContext channel ++ " must be between 0 and " ++
        quartersText maximumGain ++ " dB")), b)
    else
      match d.getTxHandle channel with
      | .error e => (.error e, b)
      | .ok handle =>
        let (status, b) := RegisterBank.write d.write (.txAttenuation handle)
          (txIndex (d.attenMax channel) value) b
        if status ≠ 0 then
          (.error (.runtimeError ("skiq_write_tx_attenuation" ++ d.gainContext channel ++
            " failed, status " ++ toString status)), b)
        else (.ok (), b)

def setGain (d : GainDevice) (reads : GainReads) (direction : ℤ) (channel : ℕ)
    (value : RequestedGain) (b : Gains) : Except Exception Unit × Gains :=
  match d.validateChannel direction channel with
  | .error e => (.error e, b)
  | .ok () =>
    match value with
    | .nonFinite => (.error (.invalidArgument "setGain requires a finite dB value"), b)
    | .finite value =>
      if direction = soapyRx then
        match d.gainProfile with
        | .error e => (.error e, b)
        | .ok profile => d.setRxGain reads profile channel value b
      else d.setTxGain channel value b

/-! ## Reading back -/

/-- The gain of an index. -/
def rxGainOf (profile : GainProfile) (index : UInt8) : ℚ :=
  (index.toNat - profile.rxOffset) / profile.rxStepsPerDb

/-- The RX branch of `getGain`, once the profile is known. -/
def getRxGain (d : GainDevice) (reads : GainReads) (profile : GainProfile) (channel : ℕ)
    (b : Gains) : Except Exception ℚ :=
  match d.getRxHandle channel with
  | .error e => .error e
  | .ok handle =>
    let minimum := d.rxMinimum handle
    let maximum := d.rxMaximum handle
    if reads.range ≠ 0 then
      .error (.runtimeError ("skiq_read_rx_gain_index_range" ++ d.gainContext channel ++
        " failed, status " ++ toString reads.range))
    else if minimum > maximum then
      .error (.runtimeError ("invalid RX gain index range" ++ d.gainContext channel))
    else if reads.gain ≠ 0 then
      .error (.runtimeError ("skiq_read_rx_gain" ++ d.gainContext channel ++ " failed, status " ++
        toString reads.gain))
    else if b.rxGain handle < minimum ∨ b.rxGain handle > maximum then
      .error (.runtimeError ("RX gain readback is outside its index range" ++ d.gainContext channel))
    else .ok (rxGainOf profile (b.rxGain handle))

/-- The gain of an attenuation. -/
def txGainOf (maximum index : UInt16) : ℚ := (((maximum.toNat - index.toNat : ℤ) : ℚ)) / 4

/-- The TX branch of `getGain`. -/
def getTxGain (d : GainDevice) (reads : GainReads) (channel : ℕ) (b : Gains) : Except Exception ℚ :=
  match d.txGainMaximum channel with
  | .error e => .error e
  | .ok _ =>
    match d.getTxHandle channel with
    | .error e => .error e
    | .ok handle =>
      if reads.attenuation ≠ 0 then
        .error (.runtimeError ("skiq_read_tx_attenuation" ++ d.gainContext channel ++
          " failed, status " ++ toString reads.attenuation))
      else if b.txAttenuation handle < d.attenMin channel ∨
          b.txAttenuation handle > d.attenMax channel then
        .error (.runtimeError ("TX attenuation readback is outside its limits" ++
          d.gainContext channel))
      else .ok (txGainOf (d.attenMax channel) (b.txAttenuation handle))

def getGain (d : GainDevice) (reads : GainReads) (direction : ℤ) (channel : ℕ) (b : Gains) :
    Except Exception ℚ :=
  match d.validateChannel direction channel with
  | .error e => .error e
  | .ok () =>
    if direction = soapyRx then
      match d.gainProfile with
      | .error e => .error e
      | .ok profile => d.getRxGain reads profile channel b
    else d.getTxGain reads channel b

end GainDevice
/-! ## RX indices -/

/-- A whole offset and one or two steps per dB. -/
structure GainProfile.Stepped (profile : GainProfile) (offset : ℤ) : Prop where
  offset : profile.rxOffset = offset
  steps : profile.rxStepsPerDb = 1 ∨ profile.rxStepsPerDb = 2

theorem GainProfile.Stepped.pos {profile : GainProfile} {offset : ℤ}
    (h : profile.Stepped offset) : 0 < profile.rxStepsPerDb := by
  rcases h.steps with hs | hs <;> rw [hs] <;> norm_num

namespace GainDevice

variable {profile : GainProfile} {offset : ℤ} {minimum maximum : UInt8}

/-- Clamping in dB before rounding and clamping the index after it come to one clamp of the rounded
index, which the conversion to a byte keeps. -/
theorem rxGainIndex_eq (hprofile : profile.Stepped offset) (hrange : minimum ≤ maximum) (v : ℚ) :
    ((rxGainIndex profile minimum maximum v).toNat : ℤ) =
      clamp (offset + roundHalfAway (v * profile.rxStepsPerDb)) minimum.toNat maximum.toNat := by
  have hs := hprofile.pos
  have hle : minimum.toNat ≤ maximum.toNat := hrange
  have hleZ : (minimum.toNat : ℤ) ≤ maximum.toNat := by exact_mod_cast hle
  have hleQ : ((minimum.toNat : ℤ) : ℚ) ≤ ((maximum.toNat : ℤ) : ℚ) := by exact_mod_cast hle
  have hbounded : clamp v ((minimum.toNat - profile.rxOffset) / profile.rxStepsPerDb)
      ((maximum.toNat - profile.rxOffset) / profile.rxStepsPerDb) * profile.rxStepsPerDb =
      clamp (v * profile.rxStepsPerDb) ((minimum.toNat - offset : ℤ) : ℚ)
        ((maximum.toNat - offset : ℤ) : ℚ) := by
    have hmono : Monotone fun x : ℚ => x * profile.rxStepsPerDb :=
      fun x y hxy => mul_le_mul_of_nonneg_right hxy hs.le
    have hdiv : (minimum.toNat - profile.rxOffset) / profile.rxStepsPerDb ≤
        (maximum.toNat - profile.rxOffset) / profile.rxStepsPerDb := by
      refine div_le_div_of_nonneg_right ?_ hs.le
      have : (minimum.toNat : ℚ) ≤ maximum.toNat := by exact_mod_cast hle
      linarith
    rw [map_clamp hmono hdiv, div_mul_cancel₀ _ hs.ne', div_mul_cancel₀ _ hs.ne', hprofile.offset]
    push_cast
    rfl
  have hindex : profile.rxOffset + (roundHalfAway (clamp v
      ((minimum.toNat - profile.rxOffset) / profile.rxStepsPerDb)
      ((maximum.toNat - profile.rxOffset) / profile.rxStepsPerDb) * profile.rxStepsPerDb) : ℚ) =
      ((clamp (offset + roundHalfAway (v * profile.rxStepsPerDb)) minimum.toNat maximum.toNat : ℤ) :
        ℚ) := by
    have hshift : Monotone fun n : ℤ => offset + n := fun m n hmn => Int.add_le_add_left hmn _
    have hcancel := map_clamp hshift (v := roundHalfAway (v * profile.rxStepsPerDb))
      (by omega : (minimum.toNat - offset : ℤ) ≤ maximum.toNat - offset)
    rw [add_sub_cancel, add_sub_cancel] at hcancel
    rw [hbounded, roundHalfAway_clamp (by omega), hprofile.offset, ← Int.cast_add, hcancel]
  have hlo := le_clamp (v := offset + roundHalfAway (v * profile.rxStepsPerDb)) hleZ
  have hhi := clamp_le (v := offset + roundHalfAway (v * profile.rxStepsPerDb)) hleZ
  have hbyte := maximum.toNat_lt
  rw [rxGainIndex, hindex]
  generalize clamp (offset + roundHalfAway (v * profile.rxStepsPerDb)) (minimum.toNat : ℤ)
    maximum.toNat = n at hlo hhi ⊢
  rw [clamp_of_mem (by exact_mod_cast hlo) (by exact_mod_cast hhi), truncate_intCast,
    UInt8.toNat_ofNat', Nat.mod_eq_of_lt (by omega)]
  omega

theorem rxGainIndex_mem (hprofile : profile.Stepped offset) (hrange : minimum ≤ maximum) (v : ℚ) :
    minimum ≤ rxGainIndex profile minimum maximum v ∧
      rxGainIndex profile minimum maximum v ≤ maximum := by
  have hle : minimum.toNat ≤ maximum.toNat := hrange
  have heq := rxGainIndex_eq hprofile hrange v
  have hleZ : (minimum.toNat : ℤ) ≤ maximum.toNat := by exact_mod_cast hle
  have hlo := le_clamp (v := offset + roundHalfAway (v * profile.rxStepsPerDb)) hleZ
  have hhi := clamp_le (v := offset + roundHalfAway (v * profile.rxStepsPerDb)) hleZ
  rw [← heq] at hlo hhi
  exact ⟨UInt8.le_iff_toNat_le.mpr (by omega), UInt8.le_iff_toNat_le.mpr (by omega)⟩

theorem rxGainIndex_mono (hprofile : profile.Stepped offset) (hrange : minimum ≤ maximum) {v w : ℚ}
    (hvw : v ≤ w) :
    rxGainIndex profile minimum maximum v ≤ rxGainIndex profile minimum maximum w := by
  have hle : minimum.toNat ≤ maximum.toNat := hrange
  have hround := roundHalfAway_mono (mul_le_mul_of_nonneg_right hvw hprofile.pos.le)
  have hclamp := clamp_mono (by exact_mod_cast hle : (minimum.toNat : ℤ) ≤ maximum.toNat)
    (Int.add_le_add_left hround offset)
  rw [← rxGainIndex_eq hprofile hrange, ← rxGainIndex_eq hprofile hrange] at hclamp
  exact UInt8.le_iff_toNat_le.mpr (by exact_mod_cast hclamp)

/-- The gain of an index in range is written as that index. -/
theorem rxGainIndex_rxGainOf (hprofile : profile.Stepped offset) {index : UInt8}
    (hlo : minimum ≤ index) (hhi : index ≤ maximum) :
    rxGainIndex profile minimum maximum (rxGainOf profile index) = index := by
  have hlo' : minimum.toNat ≤ index.toNat := hlo
  have hhi' : index.toNat ≤ maximum.toNat := hhi
  have hscaled : rxGainOf profile index * profile.rxStepsPerDb = ((index.toNat - offset : ℤ) : ℚ) := by
    rw [rxGainOf, div_mul_cancel₀ _ hprofile.pos.ne', hprofile.offset]
    push_cast
    rfl
  have heq := rxGainIndex_eq hprofile (UInt8.le_trans hlo hhi) (rxGainOf profile index)
  rw [hscaled, roundHalfAway_intCast, add_sub_cancel,
    clamp_of_mem (by exact_mod_cast hlo') (by exact_mod_cast hhi')] at heq
  exact UInt8.toNat_inj.mp (by exact_mod_cast heq)

/-- Within the limits of the range the gain read back is at most half a step away. -/
theorem rxGainOf_near (hprofile : profile.Stepped offset) {v : ℚ}
    (hlo : rxGainOf profile minimum ≤ v) (hhi : v ≤ rxGainOf profile maximum) :
    |rxGainOf profile (rxGainIndex profile minimum maximum v) - v| ≤
      1 / (2 * profile.rxStepsPerDb) := by
  have hs := hprofile.pos
  rw [rxGainOf, div_le_iff₀ hs, hprofile.offset] at hlo
  rw [rxGainOf, le_div_iff₀ hs, hprofile.offset] at hhi
  have hscaledLo : ((minimum.toNat - offset : ℤ) : ℚ) ≤ v * profile.rxStepsPerDb := by
    push_cast
    exact hlo
  have hscaledHi : v * profile.rxStepsPerDb ≤ ((maximum.toNat - offset : ℤ) : ℚ) := by
    push_cast
    exact hhi
  have hroundLo := roundHalfAway_mono hscaledLo
  have hroundHi := roundHalfAway_mono hscaledHi
  rw [roundHalfAway_intCast] at hroundLo hroundHi
  have hrange : minimum ≤ maximum := UInt8.le_iff_toNat_le.mpr (by omega)
  have heq := rxGainIndex_eq hprofile hrange v
  rw [clamp_of_mem (by omega) (by omega)] at heq
  have hcast : ((rxGainIndex profile minimum maximum v).toNat : ℚ) =
      offset + roundHalfAway (v * profile.rxStepsPerDb) := by exact_mod_cast heq
  have hdiff : rxGainOf profile (rxGainIndex profile minimum maximum v) - v =
      (roundHalfAway (v * profile.rxStepsPerDb) - v * profile.rxStepsPerDb) /
        profile.rxStepsPerDb := by
    rw [rxGainOf, hcast, hprofile.offset, add_sub_cancel_left, sub_div, mul_div_cancel_right₀ _ hs.ne']
  rw [hdiff, abs_div, abs_of_pos hs, div_le_iff₀ hs]
  calc |(roundHalfAway (v * profile.rxStepsPerDb) : ℚ) - v * profile.rxStepsPerDb|
      ≤ 1 / 2 := abs_roundHalfAway_sub_le _
    _ = 1 / (2 * profile.rxStepsPerDb) * profile.rxStepsPerDb := by field_simp

end GainDevice
/-! ## TX attenuations -/

namespace GainDevice

variable {lo hi : UInt16}

/-- A request within the channel's span is at most the span in quarters of a dB. -/
theorem quarters_mem {v : ℚ} (h₀ : 0 ≤ v) (h : v ≤ ((hi.toNat - lo.toNat : ℤ) : ℚ) / 4) :
    0 ≤ roundHalfAway (v * 4) ∧ roundHalfAway (v * 4) ≤ hi.toNat - lo.toNat := by
  refine ⟨roundHalfAway_nonneg (by linarith), ?_⟩
  have hscaled : v * 4 ≤ ((hi.toNat - lo.toNat : ℤ) : ℚ) := by linarith
  have hround := roundHalfAway_mono hscaled
  rwa [roundHalfAway_intCast] at hround

/-- The attenuation does not wrap, and lies within the limits. -/
theorem txIndex_eq (v : ℚ) (h₀ : 0 ≤ v) (h : v ≤ ((hi.toNat - lo.toNat : ℤ) : ℚ) / 4) :
    ((txIndex hi v).toNat : ℤ) = hi.toNat - roundHalfAway (v * 4) ∧ lo ≤ txIndex hi v ∧
      txIndex hi v ≤ hi := by
  obtain ⟨hpos, hspan⟩ := quarters_mem h₀ h
  have hword := hi.toNat_lt
  have heq : ((txIndex hi v).toNat : ℤ) = hi.toNat - roundHalfAway (v * 4) := by
    have hcast : (hi.toNat : ℚ) - (roundHalfAway (v * 4) : ℚ) =
        ((hi.toNat - roundHalfAway (v * 4) : ℤ) : ℚ) := by
      push_cast
      rfl
    rw [txIndex, hcast, truncate_intCast, UInt16.toNat_ofNat', Nat.mod_eq_of_lt (by omega)]
    omega
  refine ⟨heq, UInt16.le_iff_toNat_le.mpr ?_, UInt16.le_iff_toNat_le.mpr ?_⟩ <;> omega

/-- The gain of the attenuation written is the request rounded to quarters. -/
theorem txGainOf_txIndex {v : ℚ} (h₀ : 0 ≤ v) (h : v ≤ ((hi.toNat - lo.toNat : ℤ) : ℚ) / 4) :
    txGainOf hi (txIndex hi v) = (roundHalfAway (v * 4) : ℚ) / 4 := by
  have heq := (txIndex_eq v h₀ h).1
  rw [txGainOf, heq]
  congr 2
  ring

/-- The gain read back is within the span, and is written as the same attenuation. -/
theorem txIndex_readback {v : ℚ} (h₀ : 0 ≤ v) (h : v ≤ ((hi.toNat - lo.toNat : ℤ) : ℚ) / 4) :
    0 ≤ (roundHalfAway (v * 4) : ℚ) / 4 ∧
      (roundHalfAway (v * 4) : ℚ) / 4 ≤ ((hi.toNat - lo.toNat : ℤ) : ℚ) / 4 ∧
      txIndex hi ((roundHalfAway (v * 4) : ℚ) / 4) = txIndex hi v := by
  obtain ⟨hpos, hspan⟩ := quarters_mem h₀ h
  refine ⟨?_, ?_, ?_⟩
  · have : (0 : ℚ) ≤ roundHalfAway (v * 4) := by exact_mod_cast hpos
    linarith
  · have : (roundHalfAway (v * 4) : ℚ) ≤ ((hi.toNat - lo.toNat : ℤ) : ℚ) := by exact_mod_cast hspan
    linarith
  · rw [txIndex, txIndex, div_mul_cancel₀ _ (by norm_num : (4 : ℚ) ≠ 0), roundHalfAway_intCast]

/-! ## The calls -/

theorem getRxHandle_error {c : Channels} {channel : ℕ} {e : Exception}
    (h : c.validateChannel soapyRx channel = .error e) : c.getRxHandle channel = .error e := by
  rw [Channels.getRxHandle, h]

theorem setGain_rx {d : GainDevice} {profile : GainProfile} (h : d.gainProfile = .ok profile)
    (reads : GainReads) (channel : ℕ) (v : ℚ) (b : Gains) :
    d.setGain reads soapyRx channel (.finite v) b = d.setRxGain reads profile channel v b := by
  rw [setGain]
  cases hvalid : d.validateChannel soapyRx channel with
  | error e => rw [setRxGain, getRxHandle_error hvalid]
  | ok u =>
    dsimp only
    rw [if_pos rfl, h]

theorem getGain_rx {d : GainDevice} {profile : GainProfile} (h : d.gainProfile = .ok profile)
    (reads : GainReads) (channel : ℕ) (b : Gains) :
    d.getGain reads soapyRx channel b = d.getRxGain reads profile channel b := by
  rw [getGain]
  cases hvalid : d.validateChannel soapyRx channel with
  | error e => rw [getRxGain, getRxHandle_error hvalid]
  | ok u =>
    dsimp only
    rw [if_pos rfl, h]

theorem setGain_tx (d : GainDevice) (reads : GainReads) (channel : ℕ) (v : ℚ) (b : Gains) :
    d.setGain reads soapyTx channel (.finite v) b = d.setTxGain channel v b := by
  rw [setGain]
  cases hvalid : d.validateChannel soapyTx channel with
  | error e => rw [setTxGain, txGainMaximum, hvalid]
  | ok u =>
    dsimp only
    rw [if_neg (by decide)]

theorem getGain_tx (d : GainDevice) (reads : GainReads) (channel : ℕ) (b : Gains) :
    d.getGain reads soapyTx channel b = d.getTxGain reads channel b := by
  rw [getGain]
  cases hvalid : d.validateChannel soapyTx channel with
  | error e => rw [getTxGain, txGainMaximum, hvalid]
  | ok u =>
    dsimp only
    rw [if_neg (by decide)]

/-- What the RX branch writes: manual mode at most, and then the index. -/
theorem setRxGain_writes {d : GainDevice} (reads : GainReads) (profile : GainProfile) {channel : ℕ}
    {handle : UInt32} (hhandle : d.getRxHandle channel = .ok handle) (v : ℚ) (b : Gains) :
    ∃ issued, (d.setRxGain reads profile channel v b).2.writes = b.writes ++ issued ∧
      (∀ w ∈ issued, w = ⟨.rxMode handle, (GainMode.manual : GainMode)⟩ ∨
        w = ⟨.rxGain handle, rxGainIndex profile (d.rxMinimum handle) (d.rxMaximum handle) v⟩) ∧
      ((d.setRxGain reads profile channel v b).1 = .ok () →
        (d.setRxGain reads profile channel v b).2.rxGain handle =
          rxGainIndex profile (d.rxMinimum handle) (d.rxMaximum handle) v) := by
  have hkeep : b.writes = b.writes ++ [] := (List.append_nil _).symm
  rw [setRxGain, hhandle]
  dsimp only
  split
  · exact ⟨[], hkeep, nofun, nofun⟩
  split
  · exact ⟨[], hkeep, nofun, nofun⟩
  split
  · exact ⟨[], hkeep, nofun, nofun⟩
  · -- the mode switch, which may have been left out, and then the index
    obtain ⟨switched, hswitch, hmode⟩ : ∃ switched,
        (if b.rxMode handle = .auto then
          RegisterBank.write d.write (.rxMode handle) (GainMode.manual : GainMode) b
        else ((0 : ℤ), b)).2.writes = b.writes ++ switched ∧
        ∀ w ∈ switched, w = ⟨.rxMode handle, (GainMode.manual : GainMode)⟩ := by
      split
      · exact ⟨[_], rfl, fun w hw => List.mem_singleton.mp hw⟩
      · exact ⟨[], hkeep, nofun⟩
    generalize (if b.rxMode handle = .auto then
      RegisterBank.write d.write (.rxMode handle) (GainMode.manual : GainMode) b
      else ((0 : ℤ), b)) = switch at hswitch ⊢
    split
    · exact ⟨switched, hswitch, fun w hw => Or.inl (hmode w hw), nofun⟩
    · have hissued : (RegisterBank.write d.write (.rxGain handle)
          (rxGainIndex profile (d.rxMinimum handle) (d.rxMaximum handle) v) switch.2).2.writes =
          b.writes ++ (switched ++ [⟨.rxGain handle,
            rxGainIndex profile (d.rxMinimum handle) (d.rxMaximum handle) v⟩]) := by
        rw [write_writes, hswitch, List.append_assoc]
      have hall : ∀ w ∈ switched ++ [(⟨.rxGain handle,
          rxGainIndex profile (d.rxMinimum handle) (d.rxMaximum handle) v⟩ :
            Sigma GainRegister.Value)],
          w = ⟨.rxMode handle, (GainMode.manual : GainMode)⟩ ∨ w = ⟨.rxGain handle,
            rxGainIndex profile (d.rxMinimum handle) (d.rxMaximum handle) v⟩ := by
        intro w hw
        rcases List.mem_append.mp hw with hw | hw
        · exact Or.inl (hmode w hw)
        · exact Or.inr (List.mem_singleton.mp hw)
      split
      · exact ⟨_, hissued, hall, nofun⟩
      · rename_i hstatus
        refine ⟨_, hissued, hall, fun _ => ?_⟩
        rw [Gains.rxGain, write_succeeded (not_not.mp hstatus), Function.update_self]

/-- Reading back an index in range. -/
theorem getRxGain_of_mem {d : GainDevice} {reads : GainReads} {profile : GainProfile} {channel : ℕ}
    {handle : UInt32} {b : Gains} (hhandle : d.getRxHandle channel = .ok handle)
    (hrange : reads.range = 0) (hgain : reads.gain = 0)
    (hlo : d.rxMinimum handle ≤ b.rxGain handle) (hhi : b.rxGain handle ≤ d.rxMaximum handle) :
    d.getRxGain reads profile channel b = .ok (rxGainOf profile (b.rxGain handle)) := by
  have hordered : ¬ d.rxMinimum handle > d.rxMaximum handle :=
    UInt8.not_lt.mpr (UInt8.le_trans hlo hhi)
  have hinside : ¬ (b.rxGain handle < d.rxMinimum handle ∨ b.rxGain handle > d.rxMaximum handle) :=
    not_or.mpr ⟨UInt8.not_lt.mpr hlo, UInt8.not_lt.mpr hhi⟩
  rw [getRxGain, hhandle]
  simp only [hrange, hgain, hordered, hinside, ne_eq, not_true_eq_false, if_false]

end GainDevice
namespace GainDevice

/-- The span of a channel with ordered limits. -/
theorem txGainMaximum_of_le {d : GainDevice} {channel : ℕ} {handle : UInt32}
    (hhandle : d.getTxHandle channel = .ok handle)
    (hlimits : d.attenMin channel ≤ d.attenMax channel) :
    d.txGainMaximum channel =
      .ok ((((d.attenMax channel).toNat - (d.attenMin channel).toNat : ℤ) : ℚ) / 4) := by
  rw [Channels.getTxHandle] at hhandle
  rw [txGainMaximum]
  cases hvalid : d.validateChannel soapyTx channel with
  | error e =>
    rw [hvalid] at hhandle
    cases hhandle
  | ok u =>
    dsimp only
    rw [if_neg (UInt16.not_lt.mpr hlimits)]

/-- What the TX branch writes for a request within the span. -/
theorem setTxGain_of_mem {d : GainDevice} {channel : ℕ} {handle : UInt32} {v : ℚ} (b : Gains)
    (hhandle : d.getTxHandle channel = .ok handle)
    (hlimits : d.attenMin channel ≤ d.attenMax channel) (h₀ : 0 ≤ v)
    (h : v ≤ (((d.attenMax channel).toNat - (d.attenMin channel).toNat : ℤ) : ℚ) / 4) :
    (d.setTxGain channel v b).2.writes =
        b.writes ++ [⟨.txAttenuation handle, txIndex (d.attenMax channel) v⟩] ∧
      ((d.setTxGain channel v b).1 = .ok () →
        (d.setTxGain channel v b).2.txAttenuation handle = txIndex (d.attenMax channel) v) := by
  rw [setTxGain, txGainMaximum_of_le hhandle hlimits]
  dsimp only
  rw [if_neg (not_or.mpr ⟨not_lt.mpr h₀, not_lt.mpr h⟩), hhandle]
  dsimp only
  split
  · exact ⟨rfl, nofun⟩
  · rename_i hstatus
    refine ⟨rfl, fun _ => ?_⟩
    rw [Gains.txAttenuation, write_succeeded (not_not.mp hstatus), Function.update_self]

/-- A request outside the span is rejected with no write. -/
theorem setTxGain_of_not_mem {d : GainDevice} {channel : ℕ} {handle : UInt32} {v : ℚ} (b : Gains)
    (hhandle : d.getTxHandle channel = .ok handle)
    (hlimits : d.attenMin channel ≤ d.attenMax channel)
    (h : ¬ (0 ≤ v ∧
      v ≤ (((d.attenMax channel).toNat - (d.attenMin channel).toNat : ℤ) : ℚ) / 4)) :
    ∃ e, d.setTxGain channel v b = (.error e, b) := by
  have hout : v < 0 ∨
      v > (((d.attenMax channel).toNat - (d.attenMin channel).toNat : ℤ) : ℚ) / 4 := by
    rw [not_and_or, not_le, not_le] at h
    exact h
  rw [setTxGain, txGainMaximum_of_le hhandle hlimits]
  dsimp only
  rw [if_pos hout]
  exact ⟨_, rfl⟩

/-- Reading back an attenuation within the limits. -/
theorem getTxGain_of_mem {d : GainDevice} {reads : GainReads} {channel : ℕ} {handle : UInt32}
    {b : Gains} (hhandle : d.getTxHandle channel = .ok handle) (hread : reads.attenuation = 0)
    (hlo : d.attenMin channel ≤ b.txAttenuation handle)
    (hhi : b.txAttenuation handle ≤ d.attenMax channel) :
    d.getTxGain reads channel b =
      .ok (txGainOf (d.attenMax channel) (b.txAttenuation handle)) := by
  have hinside : ¬ (b.txAttenuation handle < d.attenMin channel ∨
      b.txAttenuation handle > d.attenMax channel) :=
    not_or.mpr ⟨UInt16.not_lt.mpr hlo, UInt16.not_lt.mpr hhi⟩
  rw [getTxGain, txGainMaximum_of_le hhandle (UInt16.le_trans hlo hhi), hhandle]
  simp only [hread, hinside, ne_eq, not_true_eq_false, if_false]

/-! ## Gain conversion -/

/-- The RX conversion of one channel and profile. -/
def RxConversion (d : GainDevice) (profile : GainProfile) (offset : ℤ) (channel : ℕ)
    (handle : UInt32) : Prop :=
  let minimum := d.rxMinimum handle
  let maximum := d.rxMaximum handle
  (∀ v : ℚ,
    let index := rxGainIndex profile minimum maximum v
    (index.toNat : ℤ) =
      clamp (offset + roundHalfAway (v * profile.rxStepsPerDb)) minimum.toNat maximum.toNat ∧
    minimum ≤ index ∧ index ≤ maximum ∧
    (∀ w, v ≤ w → index ≤ rxGainIndex profile minimum maximum w) ∧
    (∀ reads b, ∃ issued,
      (d.setRxGain reads profile channel v b).2.writes = b.writes ++ issued ∧
      (∀ w ∈ issued, w = ⟨.rxMode handle, (GainMode.manual : GainMode)⟩ ∨
        w = ⟨.rxGain handle, index⟩) ∧
      ((d.setRxGain reads profile channel v b).1 = .ok () → ∀ reads' : GainReads,
        reads'.range = 0 → reads'.gain = 0 →
          d.getRxGain reads' profile channel (d.setRxGain reads profile channel v b).2 =
            .ok (rxGainOf profile index))) ∧
    (rxGainOf profile minimum ≤ v → v ≤ rxGainOf profile maximum →
      |rxGainOf profile index - v| ≤ 1 / (2 * profile.rxStepsPerDb))) ∧
  ∀ index, minimum ≤ index → index ≤ maximum →
    rxGainIndex profile minimum maximum (rxGainOf profile index) = index

/-- The TX conversion of one channel. -/
def TxConversion (d : GainDevice) (channel : ℕ) (handle : UInt32) : Prop :=
  let lo := d.attenMin channel
  let hi := d.attenMax channel
  (∀ v : ℚ, 0 ≤ v → v ≤ ((hi.toNat - lo.toNat : ℤ) : ℚ) / 4 →
    let index := txIndex hi v
    (index.toNat : ℤ) = hi.toNat - roundHalfAway (v * 4) ∧ lo ≤ index ∧ index ≤ hi ∧
    ∀ reads b,
      (d.setGain reads soapyTx channel (.finite v) b).2.writes =
        b.writes ++ [⟨.txAttenuation handle, index⟩] ∧
      (d.setGain reads soapyTx channel (.finite ((roundHalfAway (v * 4) : ℚ) / 4)) b).2.writes =
        b.writes ++ [⟨.txAttenuation handle, index⟩] ∧
      ((d.setGain reads soapyTx channel (.finite v) b).1 = .ok () → ∀ reads' : GainReads,
        reads'.attenuation = 0 →
          d.getGain reads' soapyTx channel (d.setGain reads soapyTx channel (.finite v) b).2 =
            .ok ((roundHalfAway (v * 4) : ℚ) / 4))) ∧
  (∀ v : ℚ, ¬ (0 ≤ v ∧ v ≤ ((hi.toNat - lo.toNat : ℤ) : ℚ) / 4) → ∀ reads b,
    ∃ e, d.setGain reads soapyTx channel (.finite v) b = (.error e, b)) ∧
  ∀ reads b, ∃ e, d.setGain reads soapyTx channel .nonFinite b = (.error e, b)

theorem rx_conversion {d : GainDevice} {profile : GainProfile} {offset : ℤ} {channel : ℕ}
    {handle : UInt32} (hprofile : profile.Stepped offset)
    (hhandle : d.getRxHandle channel = .ok handle)
    (hrange : d.rxMinimum handle ≤ d.rxMaximum handle) :
    d.RxConversion profile offset channel handle := by
  refine ⟨fun v => ⟨rxGainIndex_eq hprofile hrange v, (rxGainIndex_mem hprofile hrange v).1,
    (rxGainIndex_mem hprofile hrange v).2, fun w hvw => rxGainIndex_mono hprofile hrange hvw,
    fun reads b => ?_, rxGainOf_near hprofile⟩, fun index => rxGainIndex_rxGainOf hprofile⟩
  obtain ⟨issued, hwrites, hall, hok⟩ := setRxGain_writes reads profile hhandle v b
  refine ⟨issued, hwrites, hall, fun hresult reads' hread hgain => ?_⟩
  have hindex := hok hresult
  have hmem := rxGainIndex_mem hprofile hrange v
  rw [getRxGain_of_mem hhandle hread hgain (by rw [hindex]; exact hmem.1)
    (by rw [hindex]; exact hmem.2), hindex]

theorem tx_conversion {d : GainDevice} {channel : ℕ} {handle : UInt32}
    (hhandle : d.getTxHandle channel = .ok handle)
    (hlimits : d.attenMin channel ≤ d.attenMax channel) : d.TxConversion channel handle := by
  refine ⟨fun v h₀ h => ?_, fun v hout reads b => ?_, fun reads b => ?_⟩
  · obtain ⟨heq, hlo, hhi⟩ := txIndex_eq v h₀ h
    obtain ⟨hread₀, hread, hsame⟩ := txIndex_readback h₀ h
    refine ⟨heq, hlo, hhi, fun reads b => ?_⟩
    rw [setGain_tx, setGain_tx]
    obtain ⟨hwrites, hok⟩ := setTxGain_of_mem b hhandle hlimits h₀ h
    refine ⟨hwrites, ?_, fun hresult reads' hattenuation => ?_⟩
    · rw [(setTxGain_of_mem b hhandle hlimits hread₀ hread).1, hsame]
    · have hindex := hok hresult
      rw [getGain_tx, getTxGain_of_mem hhandle hattenuation (by rw [hindex]; exact hlo)
        (by rw [hindex]; exact hhi), hindex, txGainOf_txIndex h₀ h]
  · rw [setGain_tx]
    exact setTxGain_of_not_mem b hhandle hlimits hout
  · rw [setGain]
    cases d.validateChannel soapyTx channel with
    | error e => exact ⟨e, rfl⟩
    | ok u => exact ⟨_, rfl⟩

/-- Every profile of the driver has a whole offset and one or two steps per dB. -/
theorem gainProfile_stepped {d : GainDevice} {profile : GainProfile}
    (h : d.gainProfile = .ok profile) : ∃ offset, profile.Stepped offset := by
  have h₁ : (⟨0, 1, 76⟩ : GainProfile).Stepped 0 := ⟨by norm_num, Or.inl rfl⟩
  have h₂ : (⟨195, 2, 30⟩ : GainProfile).Stepped 195 := ⟨by norm_num, Or.inr rfl⟩
  have h₃ : (⟨187, 2, 34⟩ : GainProfile).Stepped 187 := ⟨by norm_num, Or.inr rfl⟩
  rw [gainProfile] at h
  split at h
  all_goals cases h
  all_goals first | exact ⟨_, h₁⟩ | exact ⟨_, h₂⟩ | exact ⟨_, h₃⟩

end GainDevice
/-- An X4 with one RX channel of a narrow index range and one TX channel. -/
def narrowGainDevice : GainDevice where
  card := 0
  rxHandles := [3]
  txHandles := [5]
  part := .x4
  attenMin := fun _ => 40
  attenMax := fun _ => 359
  rxMinimum := fun _ => 200
  rxMaximum := fun _ => 210
  write := fun _ => ⟨0, true⟩

end SoapySidekiq
