import SoapySidekiq.Controls.Channels
import SoapySidekiq.Foundations.Binary64
import Mathlib.Data.Rat.Floor

/-! # Sample rates and bandwidths

The sample rate and bandwidth section of `RFControls.cpp` over a card that may do anything: each read
and each write of a handle's rate and bandwidth also changes the state of the card, so clocks may be
coupled and a failed write may have taken effect. -/
set_option autoImplicit false

namespace SoapySidekiq
open Binary64

/-! ## Arguments -/

/-- The digits of a number of millionths behind the decimal point. -/
def sixDigits (n : ℕ) : String :=
  String.ofList ((Nat.toDigits 10 (10 ^ 6 + n % 10 ^ 6)).drop 1)

/-- `std::to_string` of a double: six decimals, rounded half to even. -/
def doubleText : Value → String
  | .nan => "nan"
  | .infinite negative => if negative then "-inf" else "inf"
  | .finite d =>
    let scaled : ℚ := d.mantissa.natAbs * 2 ^ d.exponent * 10 ^ 6
    let down := ⌊scaled⌋.toNat
    let millionths :=
      if scaled - down < 1 / 2 ∨ (scaled - down = 1 / 2 ∧ down % 2 = 0) then down else down + 1
    (if d.mantissa < 0 then "-" else "") ++ toString (millionths / 10 ^ 6) ++ "." ++
      sixDigits millionths

/-- `checkedUnsigned` for an unsigned type of `digits` bits. -/
def checkedUnsigned (digits : ℕ) (value : Value) (operation : String) : Except Exception ℕ :=
  match value with
  | .finite d =>
    if 0 ≤ d.value ∧ d.value < 2 ^ digits then .ok d.truncate.toNat
    else .error (.invalidArgument (operation ++ " value " ++ doubleText value ++
      " is outside the unsigned SDK parameter range"))
  | _ => .error (.invalidArgument (operation ++ " value " ++ doubleText value ++
      " is outside the unsigned SDK parameter range"))

/-! ## The card -/

/-- What one read of a handle's rate and bandwidth returns. -/
structure RateReadback where
  status : ℤ
  configuredRate : UInt32
  actualRate : Value
  actualBandwidth : UInt32

/-- A write of a handle's rate and bandwidth. -/
structure RateWrite where
  rx : Bool
  handle : UInt32
  rate : UInt32
  bandwidth : UInt32
deriving DecidableEq, Repr

/-- The rate functions of the SDK over the states `σ` of a card. -/
structure RateSdk (σ : Type) where
  read : Bool → UInt32 → σ → RateReadback × σ
  write : RateWrite → σ → ℤ × σ

/-- The card and the writes made to it. -/
structure RateCard (σ : Type) where
  card : σ
  writes : List RateWrite

/-- A readback that has passed the checks. -/
structure RateAndBandwidth where
  configuredRate : UInt32
  actualRate : Finite
  actualBandwidth : UInt32
  configured_ne : configuredRate ≠ 0
  actual_ge : 1 ≤ actualRate.value
  actual_lt : actualRate.value < 2 ^ 32
  bandwidth_ne : actualBandwidth ≠ 0

namespace Channels
variable {σ : Type}

def rateContext (c : Channels) (channel : ℕ) : String :=
  " (card " ++ toString c.card ++ ", channel " ++ toString channel ++ ")"

def rateOperation (c : Channels) (rx : Bool) (channel : ℕ) : String :=
  (if rx then "RX" else "TX") ++ " rate/bandwidth readback" ++ c.rateContext channel

/-- The checks of a readback. -/
def checkReadback (c : Channels) (rx : Bool) (channel : ℕ) (r : RateReadback) :
    Except Exception RateAndBandwidth :=
  if r.status ≠ 0 then
    .error (.runtimeError (c.rateOperation rx channel ++ " failed, status " ++ toString r.status))
  else
    match r.actualRate with
    | .finite d =>
      if hrate : r.configuredRate ≠ 0 ∧ 1 ≤ d.value ∧ d.value < 2 ^ 32 then
        if hbandwidth : r.actualBandwidth ≠ 0 then
          .ok ⟨r.configuredRate, d, r.actualBandwidth, hrate.1, hrate.2.1, hrate.2.2, hbandwidth⟩
        else
          .error (.runtimeError (c.rateOperation rx channel ++
            " returned missing or zero actual bandwidth"))
      else
        .error (.runtimeError (c.rateOperation rx channel ++ " returned an invalid sample rate"))
    | _ => .error (.runtimeError (c.rateOperation rx channel ++ " returned an invalid sample rate"))

/-- The handle of a valid channel. -/
def rateHandle (c : Channels) (rx : Bool) (channel : ℕ) : UInt32 :=
  (if rx then c.rxHandles else c.txHandles).getD channel 0

/-! ## Reading and writing -/

def readRateAndBandwidth (sdk : RateSdk σ) (c : Channels) (direction : ℤ) (channel : ℕ)
    (s : RateCard σ) : Except Exception RateAndBandwidth × RateCard σ :=
  match c.validateChannel direction channel with
  | .error e => (.error e, s)
  | .ok () =>
    let rx := direction == soapyRx
    let (r, card) := sdk.read rx (c.rateHandle rx channel) s.card
    (c.checkReadback rx channel r, { s with card := card })

def applyRateAndBandwidth (sdk : RateSdk σ) (c : Channels) (direction : ℤ) (channel : ℕ)
    (rate bandwidth : UInt32) (s : RateCard σ) : Except Exception Unit × RateCard σ :=
  match c.validateChannel direction channel with
  | .error e => (.error e, s)
  | .ok () =>
    let rx := direction == soapyRx
    let w : RateWrite := ⟨rx, c.rateHandle rx channel, rate, bandwidth⟩
    let (status, card) := sdk.write w s.card
    let s := ⟨card, s.writes ++ [w]⟩
    if status ≠ 0 then
      (.error (.runtimeError ((if rx then "RX" else "TX") ++ " rate/bandwidth write failed (card " ++
        toString c.card ++ ", channel " ++ toString channel ++ ", rate " ++ toString rate ++
        ", bandwidth " ++ toString bandwidth ++ ", status " ++ toString status ++ ")")), s)
    else
      -- The hardware has changed, also when its readback is unusable.
      match c.readRateAndBandwidth sdk direction channel s with
      | (.error e, s) => (.error e, s)
      | (.ok _, s) => (.ok (), s)

/-- What `configureInactive` throws while the RX session owns hardware or a worker. -/
def rxBusyError : Exception :=
  .logicError "Deactivate RX successfully before changing stream timing configuration"

/-- `setSampleRate`; `rxBusy` is the check of `RxStreamSession::configureInactive`. -/
def setSampleRate (sdk : RateSdk σ) (rxBusy : Bool) (c : Channels) (direction : ℤ) (channel : ℕ)
    (rate : Value) (s : RateCard σ) : Except Exception Unit × RateCard σ :=
  match c.validateChannel direction channel with
  | .error e => (.error e, s)
  | .ok () =>
    match checkedUnsigned 32 rate "setSampleRate" with
    | .error e => (.error e, s)
    | .ok requested =>
      if requested = 0 then
        (.error (.invalidArgument "setSampleRate requires at least one sample per second"), s)
      else if rxBusy then (.error rxBusyError, s)
      else
        match c.readRateAndBandwidth sdk direction channel s with
        | (.error e, s) => (.error e, s)
        | (.ok previous, s) =>
          c.applyRateAndBandwidth sdk direction channel (UInt32.ofNat requested)
            (min previous.actualBandwidth (UInt32.ofNat requested)) s

def setBandwidth (sdk : RateSdk σ) (rxBusy : Bool) (c : Channels) (direction : ℤ) (channel : ℕ)
    (bandwidth : Value) (s : RateCard σ) : Except Exception Unit × RateCard σ :=
  match c.validateChannel direction channel with
  | .error e => (.error e, s)
  | .ok () =>
    match checkedUnsigned 32 bandwidth "setBandwidth" with
    | .error e => (.error e, s)
    | .ok requested =>
      if rxBusy then (.error rxBusyError, s)
      else
        match c.readRateAndBandwidth sdk direction channel s with
        | (.error e, s) => (.error e, s)
        | (.ok previous, s) =>
          c.applyRateAndBandwidth sdk direction channel previous.configuredRate
            (UInt32.ofNat requested) s

def getSampleRate (sdk : RateSdk σ) (c : Channels) (direction : ℤ) (channel : ℕ) (s : RateCard σ) :
    Except Exception Finite × RateCard σ :=
  match c.readRateAndBandwidth sdk direction channel s with
  | (.error e, s) => (.error e, s)
  | (.ok r, s) => (.ok r.actualRate, s)

def getBandwidth (sdk : RateSdk σ) (c : Channels) (direction : ℤ) (channel : ℕ) (s : RateCard σ) :
    Except Exception UInt32 × RateCard σ :=
  match c.readRateAndBandwidth sdk direction channel s with
  | (.error e, s) => (.error e, s)
  | (.ok r, s) => (.ok r.actualBandwidth, s)

end Channels

/-! ## Runs of calls -/

inductive RateCall where
  | setSampleRate (direction : ℤ) (channel : ℕ) (rate : Value)
  | setBandwidth (direction : ℤ) (channel : ℕ) (bandwidth : Value)
  | getSampleRate (direction : ℤ) (channel : ℕ)
  | getBandwidth (direction : ℤ) (channel : ℕ)

namespace RateCall
variable {σ : Type}

/-- What a call threw. -/
def thrown {α : Type} : Except Exception α → Option Exception
  | .ok _ => none
  | .error e => some e

def direction : RateCall → ℤ
  | .setSampleRate direction _ _ | .setBandwidth direction _ _ | .getSampleRate direction _
  | .getBandwidth direction _ => direction

def channel : RateCall → ℕ
  | .setSampleRate _ channel _ | .setBandwidth _ channel _ | .getSampleRate _ channel
  | .getBandwidth _ channel => channel

def sets : RateCall → Bool
  | .setSampleRate _ _ _ | .setBandwidth _ _ _ => true
  | _ => false

/-- One call, which finds the RX session busy or not. -/
def perform (sdk : RateSdk σ) (c : Channels) (rxBusy : Bool) (s : RateCard σ) :
    RateCall → Option Exception × RateCard σ
  | .setSampleRate direction channel rate =>
    (c.setSampleRate sdk rxBusy direction channel rate s).map thrown id
  | .setBandwidth direction channel bandwidth =>
    (c.setBandwidth sdk rxBusy direction channel bandwidth s).map thrown id
  | .getSampleRate direction channel => (c.getSampleRate sdk direction channel s).map thrown id
  | .getBandwidth direction channel => (c.getBandwidth sdk direction channel s).map thrown id

/-- Calls one after the other: what each of them threw, and the card after the last. -/
def performAll (sdk : RateSdk σ) (c : Channels) (s : RateCard σ) :
    List (Bool × RateCall) → List (Option Exception) × RateCard σ
  | [] => ([], s)
  | (rxBusy, call) :: calls =>
    let (e, s) := perform sdk c rxBusy s call
    let (es, s) := performAll sdk c s calls
    (e :: es, s)

/-- What a call asks for, once the card has read back `previous`. -/
def Asks (previous : RateAndBandwidth) : RateCall → RateWrite → Prop
  | .setSampleRate _ _ rate, w => ∃ d, rate = .finite d ∧ 1 ≤ d.value ∧ d.value < 2 ^ 32 ∧
      (w.rate.toNat : ℤ) = ⌊d.value⌋ ∧ w.bandwidth = min previous.actualBandwidth w.rate
  | .setBandwidth _ _ bandwidth, w => ∃ d, bandwidth = .finite d ∧ 0 ≤ d.value ∧ d.value < 2 ^ 32 ∧
      (w.bandwidth.toNat : ℤ) = ⌊d.value⌋ ∧ w.rate = previous.configuredRate
  | _, _ => False

/-- A write that `call` may make to a card in the state `card`: to the handle of a channel that the
device has, after a readback of that handle which passed the checks. -/
structure Justified (sdk : RateSdk σ) (c : Channels) (call : RateCall) (card : σ) (w : RateWrite) :
    Prop where
  channel : c.validateChannel call.direction call.channel = .ok ()
  rx : w.rx = (call.direction == soapyRx)
  handle : w.handle = c.rateHandle w.rx call.channel
  asked : ∃ previous,
    c.checkReadback w.rx call.channel (sdk.read w.rx w.handle card).1 = .ok previous ∧
      call.Asks previous w

/-- The write succeeds and what is read back after it passes the checks. -/
def Confirmed (sdk : RateSdk σ) (c : Channels) (call : RateCall) (card : σ) (w : RateWrite) : Prop :=
  (sdk.write w card).1 = 0 ∧ ∃ now, c.checkReadback w.rx call.channel
    (sdk.read w.rx w.handle (sdk.write w card).2).1 = .ok now

/-- What a call did to the card, by what it threw and the write that it made, if any. -/
structure Contract (sdk : RateSdk σ) (c : Channels) (rxBusy : Bool) (call : RateCall)
    (s s' : RateCard σ) (e : Option Exception) (made : Option RateWrite) : Prop where
  writes : s'.writes = s.writes ++ made.toList
  justified : ∀ w ∈ made, rxBusy = false ∧ call.sets = true ∧ call.Justified sdk c s.card w
  returned : e = none → call.sets = true →
    ∃ w ∈ made, call.Confirmed sdk c (sdk.read w.rx w.handle s.card).2 w
  frozen : rxBusy = true → call.sets = true → s' = s

/-- Every call of a run keeps its contract, where the run finds the card. -/
def KeepContracts (sdk : RateSdk σ) (c : Channels) :
    RateCard σ → List (Bool × RateCall) → List (Option Exception × Option RateWrite) → Prop
  | _, [], [] => True
  | s, (rxBusy, call) :: calls, (e, made) :: did =>
    let s' := (perform sdk c rxBusy s call).2
    Contract sdk c rxBusy call s s' e made ∧ KeepContracts sdk c s' calls did
  | _, _, _ => False

/-! ## What a call writes -/

theorem truncate_eq_floor {d : Finite} (h : 0 ≤ d.value) : d.truncate = ⌊d.value⌋ := by
  unfold Finite.truncate
  split
  · next hexponent =>
    have hvalue : d.value = ((d.mantissa * 2 ^ d.exponent.toNat : ℤ) : ℚ) := by
      rw [Finite.value, ← Int.toNat_of_nonneg hexponent, zpow_natCast, Int.toNat_natCast]
      push_cast
      rfl
    rw [hvalue, Int.floor_intCast]
  · next hexponent =>
    obtain ⟨n, hn⟩ := Int.eq_ofNat_of_zero_le (show 0 ≤ -d.exponent by omega)
    have hvalue : d.value = (d.mantissa : ℚ) / ((2 ^ n : ℕ) : ℚ) := by
      rw [Finite.value, show d.exponent = -(n : ℤ) by omega, zpow_neg, zpow_natCast, div_eq_mul_inv]
      push_cast
      rfl
    have hmantissa : 0 ≤ d.mantissa := by
      rw [hvalue, div_nonneg_iff] at h
      rcases h with ⟨hm, -⟩ | ⟨-, hpow⟩
      · exact_mod_cast hm
      · exact absurd hpow (by simp)
    rw [hvalue, Rat.floor_intCast_div_natCast, Int.tdiv_eq_ediv_of_nonneg hmantissa, hn]
    simp

theorem checkedUnsigned_ok {digits n : ℕ} {value : Value} {operation : String}
    (h : checkedUnsigned digits value operation = .ok n) :
    ∃ d, value = .finite d ∧ 0 ≤ d.value ∧ d.value < 2 ^ digits ∧ (n : ℤ) = ⌊d.value⌋ := by
  unfold checkedUnsigned at h
  split at h
  · next d =>
    split at h
    · next hrange =>
      cases h
      refine ⟨d, rfl, hrange.1, hrange.2, ?_⟩
      rw [truncate_eq_floor hrange.1, Int.toNat_of_nonneg (Int.floor_nonneg.mpr hrange.1)]
    · cases h
  · cases h

theorem toNat_of_floor {n : ℕ} {d : Finite} (hlt : d.value < 2 ^ 32) (hn : (n : ℤ) = ⌊d.value⌋) :
    (UInt32.ofNat n).toNat = n := by
  have hfloor : ⌊d.value⌋ < 2 ^ 32 := Int.floor_lt.mpr (by exact_mod_cast hlt)
  exact UInt32.toNat_ofNat_of_lt' (by rw [UInt32.size]; omega)

theorem readRateAndBandwidth_eq {sdk : RateSdk σ} {c : Channels} {direction : ℤ} {channel : ℕ}
    (hvalid : c.validateChannel direction channel = .ok ()) (s : RateCard σ) :
    c.readRateAndBandwidth sdk direction channel s =
      (c.checkReadback (direction == soapyRx) channel
        (sdk.read (direction == soapyRx) (c.rateHandle (direction == soapyRx) channel) s.card).1,
      { s with card :=
        (sdk.read (direction == soapyRx) (c.rateHandle (direction == soapyRx) channel) s.card).2 }) := by
  rw [Channels.readRateAndBandwidth, hvalid]

/-- A read makes no write, whatever it returns. -/
theorem readRateAndBandwidth_writes (sdk : RateSdk σ) (c : Channels) (direction : ℤ) (channel : ℕ)
    (s : RateCard σ) : (c.readRateAndBandwidth sdk direction channel s).2.writes = s.writes := by
  unfold Channels.readRateAndBandwidth
  split <;> rfl

/-- The write is made whatever its status is, and the call returns only after a valid readback. -/
theorem applyRateAndBandwidth_spec (sdk : RateSdk σ) {c : Channels} {direction : ℤ} {channel : ℕ}
    (hvalid : c.validateChannel direction channel = .ok ()) (rate bandwidth : UInt32)
    (s : RateCard σ) {w : RateWrite}
    (hw : w = ⟨direction == soapyRx, c.rateHandle (direction == soapyRx) channel, rate, bandwidth⟩) :
    (c.applyRateAndBandwidth sdk direction channel rate bandwidth s).2.writes = s.writes ++ [w] ∧
      ((c.applyRateAndBandwidth sdk direction channel rate bandwidth s).1 = .ok () →
        (sdk.write w s.card).1 = 0 ∧ ∃ now, c.checkReadback w.rx channel
          (sdk.read w.rx w.handle (sdk.write w s.card).2).1 = .ok now) := by
  subst hw
  rw [Channels.applyRateAndBandwidth, hvalid]
  dsimp only
  split
  · exact ⟨rfl, by simp⟩
  · next hstatus =>
    rw [readRateAndBandwidth_eq hvalid]
    split
    · next heq =>
      obtain ⟨-, rfl⟩ := Prod.mk.inj heq
      exact ⟨rfl, by simp⟩
    · next now s' heq =>
      obtain ⟨hnow, rfl⟩ := Prod.mk.inj heq
      exact ⟨rfl, fun _ => ⟨by simpa using hstatus, now, hnow⟩⟩

/-- A call that throws without a write. -/
theorem Contract.refused {sdk : RateSdk σ} {c : Channels} {rxBusy : Bool} {call : RateCall}
    {s : RateCard σ} {e : Exception} : Contract sdk c rxBusy call s s (some e) none where
  writes := by simp
  justified := by simp
  returned := by simp
  frozen _ _ := rfl

/-- What `setSampleRate` refuses leaves the card alone; otherwise it has found RX inactive. -/
theorem setSampleRate_cases (sdk : RateSdk σ) (rxBusy : Bool) (c : Channels) (direction : ℤ)
    (channel : ℕ) (rate : Value) (s : RateCard σ) :
    (∃ e, c.setSampleRate sdk rxBusy direction channel rate s = (.error e, s)) ∨
      rxBusy = false ∧ c.validateChannel direction channel = .ok () ∧
        ∃ (d : Finite) (requested : UInt32), rate = .finite d ∧ 1 ≤ d.value ∧ d.value < 2 ^ 32 ∧
          (requested.toNat : ℤ) = ⌊d.value⌋ ∧ c.setSampleRate sdk rxBusy direction channel rate s =
            match c.readRateAndBandwidth sdk direction channel s with
            | (.error e, s) => (.error e, s)
            | (.ok previous, s) => c.applyRateAndBandwidth sdk direction channel requested
                (min previous.actualBandwidth requested) s := by
  unfold Channels.setSampleRate
  cases c.validateChannel direction channel with
  | error e => exact .inl ⟨e, rfl⟩
  | ok u =>
    cases hchecked : checkedUnsigned 32 rate "setSampleRate" with
    | error e => exact .inl ⟨e, rfl⟩
    | ok requested =>
      dsimp only
      split
      · exact .inl ⟨_, rfl⟩
      · next hzero =>
        cases rxBusy with
        | true => exact .inl ⟨_, rfl⟩
        | false =>
          obtain ⟨d, hd, -, hhigh, hfloor⟩ := checkedUnsigned_ok hchecked
          have hone : (1 : ℤ) ≤ ⌊d.value⌋ := by omega
          exact .inr ⟨rfl, rfl, d, _, hd, by exact_mod_cast Int.le_floor.mp hone, hhigh,
            by rw [toNat_of_floor hhigh hfloor]; exact hfloor, rfl⟩

theorem setBandwidth_cases (sdk : RateSdk σ) (rxBusy : Bool) (c : Channels) (direction : ℤ)
    (channel : ℕ) (bandwidth : Value) (s : RateCard σ) :
    (∃ e, c.setBandwidth sdk rxBusy direction channel bandwidth s = (.error e, s)) ∨
      rxBusy = false ∧ c.validateChannel direction channel = .ok () ∧
        ∃ (d : Finite) (requested : UInt32), bandwidth = .finite d ∧ 0 ≤ d.value ∧ d.value < 2 ^ 32 ∧
          (requested.toNat : ℤ) = ⌊d.value⌋ ∧ c.setBandwidth sdk rxBusy direction channel bandwidth s =
            match c.readRateAndBandwidth sdk direction channel s with
            | (.error e, s) => (.error e, s)
            | (.ok previous, s) => c.applyRateAndBandwidth sdk direction channel
                previous.configuredRate requested s := by
  unfold Channels.setBandwidth
  cases c.validateChannel direction channel with
  | error e => exact .inl ⟨e, rfl⟩
  | ok u =>
    cases hchecked : checkedUnsigned 32 bandwidth "setBandwidth" with
    | error e => exact .inl ⟨e, rfl⟩
    | ok requested =>
      cases rxBusy with
      | true => exact .inl ⟨_, rfl⟩
      | false =>
        obtain ⟨d, hd, hlow, hhigh, hfloor⟩ := checkedUnsigned_ok hchecked
        exact .inr ⟨rfl, rfl, d, _, hd, hlow, hhigh,
          by rw [toNat_of_floor hhigh hfloor]; exact hfloor, rfl⟩

/-- The common end of the two setters: a readback, then a write that may depend on it. -/
theorem contract_of_change {sdk : RateSdk σ} {c : Channels} (call : RateCall) {s : RateCard σ}
    {result : Except Exception Unit × RateCard σ} (request : RateAndBandwidth → UInt32 × UInt32)
    (hvalid : c.validateChannel call.direction call.channel = .ok ()) (hsets : call.sets = true)
    (hresult : result = match c.readRateAndBandwidth sdk call.direction call.channel s with
      | (.error e, s) => (.error e, s)
      | (.ok previous, s) => c.applyRateAndBandwidth sdk call.direction call.channel
          (request previous).1 (request previous).2 s)
    (hasks : ∀ previous rx handle,
      call.Asks previous ⟨rx, handle, (request previous).1, (request previous).2⟩) :
    ∃ made : Option RateWrite, Contract sdk c false call s result.2 (thrown result.1) made := by
  rw [readRateAndBandwidth_eq hvalid] at hresult
  cases hread : c.checkReadback (call.direction == soapyRx) call.channel
    (sdk.read (call.direction == soapyRx) (c.rateHandle (call.direction == soapyRx) call.channel)
      s.card).1 with
  | error e =>
    rw [hread] at hresult
    subst hresult
    exact ⟨none, by simp, by simp, by simp [thrown], by simp⟩
  | ok previous =>
    rw [hread] at hresult
    obtain ⟨hmade, hreturned⟩ := applyRateAndBandwidth_spec sdk hvalid
      (request previous).1 (request previous).2 { s with card := (sdk.read (call.direction == soapyRx)
        (c.rateHandle (call.direction == soapyRx) call.channel) s.card).2 } rfl
    subst hresult
    refine ⟨some _, hmade, fun w hw => ?_, fun he _ => ?_, by simp⟩
    · cases hw
      exact ⟨rfl, hsets, hvalid, rfl, rfl, previous, hread, hasks _ _ _⟩
    · refine ⟨_, rfl, hreturned ?_⟩
      generalize (c.applyRateAndBandwidth sdk _ _ _ _ _).1 = r at he ⊢
      cases r with
      | ok u => rfl
      | error e => cases he

theorem perform_contract (sdk : RateSdk σ) (c : Channels) (rxBusy : Bool) (s : RateCard σ)
    (call : RateCall) : ∃ made : Option RateWrite, Contract sdk c rxBusy call s
      (perform sdk c rxBusy s call).2 (perform sdk c rxBusy s call).1 made := by
  cases call with
  | getSampleRate direction channel | getBandwidth direction channel =>
    have hwrites := readRateAndBandwidth_writes sdk c direction channel s
    refine ⟨none, ?_, by simp, by simp [sets], by simp [sets]⟩
    simp only [perform, Channels.getSampleRate, Channels.getBandwidth, Prod.map, id]
    split <;> simp_all
  | setSampleRate direction channel rate =>
    simp only [perform]
    rcases setSampleRate_cases sdk rxBusy c direction channel rate s with
      ⟨e, he⟩ | ⟨rfl, hvalid, d, requested, rfl, hlow, hhigh, hfloor, hset⟩
    · rw [he]
      exact ⟨none, .refused⟩
    · exact contract_of_change (.setSampleRate direction channel (.finite d))
        (fun previous => (requested, min previous.actualBandwidth requested)) hvalid rfl hset
        fun _ _ _ => ⟨d, rfl, hlow, hhigh, hfloor, rfl⟩
  | setBandwidth direction channel bandwidth =>
    simp only [perform]
    rcases setBandwidth_cases sdk rxBusy c direction channel bandwidth s with
      ⟨e, he⟩ | ⟨rfl, hvalid, d, requested, rfl, hlow, hhigh, hfloor, hset⟩
    · rw [he]
      exact ⟨none, .refused⟩
    · exact contract_of_change (.setBandwidth direction channel (.finite d))
        (fun previous => (previous.configuredRate, requested)) hvalid rfl hset
        fun _ _ _ => ⟨d, rfl, hlow, hhigh, hfloor, rfl⟩

/-! ## What a run writes -/

theorem handle_mem {c : Channels} {direction : ℤ} {channel : ℕ}
    (h : c.validateChannel direction channel = .ok ()) :
    c.rateHandle (direction == soapyRx) channel ∈
      if (direction == soapyRx) = true then c.rxHandles else c.txHandles := by
  by_cases hrx : direction = soapyRx
  · subst hrx
    have hlt := Channels.validateChannel_rx.mp h
    simp [Channels.rateHandle, hlt]
  by_cases htx : direction = soapyTx
  · subst htx
    have hlt := Channels.validateChannel_tx.mp h
    simp [Channels.rateHandle, soapyTx, soapyRx, hlt]
  · simp [Channels.validateChannel, Channels.getNumChannels, hrx, htx] at h

theorem Asks.rate_ne {previous : RateAndBandwidth} {call : RateCall} {w : RateWrite}
    (h : call.Asks previous w) : w.rate ≠ 0 := by
  rintro hzero
  cases call with
  | setSampleRate =>
    obtain ⟨d, -, hlow, -, hfloor, -⟩ := h
    have hone : (1 : ℤ) ≤ ⌊d.value⌋ := Int.le_floor.mpr (by exact_mod_cast hlow)
    rw [← hfloor, hzero] at hone
    simp at hone
  | setBandwidth =>
    obtain ⟨d, -, -, -, -, hrate⟩ := h
    exact previous.configured_ne (hrate ▸ hzero)
  | getSampleRate | getBandwidth => exact h

theorem Justified.sound {sdk : RateSdk σ} {c : Channels} {call : RateCall} {card : σ} {w : RateWrite}
    (h : call.Justified sdk c card w) :
    w.rate ≠ 0 ∧ w.handle ∈ if w.rx = true then c.rxHandles else c.txHandles := by
  obtain ⟨hchannel, hrx, hhandle, previous, -, hasks⟩ := h
  refine ⟨hasks.rate_ne, ?_⟩
  rw [hhandle, hrx]
  exact handle_mem hchannel

/-- Every run of calls, against a card that may do anything: what is written are the writes of the
calls that set something and have found RX inactive, one for each that returns and at most one for
each that throws. -/
theorem rate_calls_write_what_is_asked (sdk : RateSdk σ) (c : Channels) (s : RateCard σ)
    (calls : List (Bool × RateCall)) : ∃ did : List (Option Exception × Option RateWrite),
      did.map Prod.fst = (performAll sdk c s calls).1 ∧
      (performAll sdk c s calls).2.writes = s.writes ++ did.filterMap Prod.snd ∧
      KeepContracts sdk c s calls did ∧ ∀ w ∈ did.filterMap Prod.snd,
        w.rate ≠ 0 ∧ w.handle ∈ if w.rx = true then c.rxHandles else c.txHandles := by
  induction calls generalizing s with
  | nil => exact ⟨[], rfl, by simp [performAll], trivial, by simp⟩
  | cons call calls ih =>
    obtain ⟨rxBusy, call⟩ := call
    obtain ⟨made, hcontract⟩ := perform_contract sdk c rxBusy s call
    obtain ⟨did, hthrown, hrest, hcontracts, hsound⟩ := ih (perform sdk c rxBusy s call).2
    refine ⟨((perform sdk c rxBusy s call).1, made) :: did, ?_, ?_, ⟨hcontract, hcontracts⟩, ?_⟩
    · rw [List.map_cons, hthrown, performAll]
    · rw [performAll]
      dsimp only
      rw [hrest, hcontract.writes, List.append_assoc]
      cases made <;> rfl
    · intro w hw
      obtain ⟨d, hd, hdw⟩ := List.mem_filterMap.mp hw
      rcases List.mem_cons.mp hd with rfl | hd
      · exact (hcontract.justified w hdw).2.2.sound
      · exact hsound w (List.mem_filterMap.mpr ⟨d, hd, hdw⟩)

end RateCall

end SoapySidekiq
