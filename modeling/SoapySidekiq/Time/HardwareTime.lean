import SoapySidekiq.Names
import SoapySidekiq.Time.ConversionExact

/-! # Hardware time

`getHardwareTime` and `setHardwareTime` of `TimeClock.cpp` over the card's system counter. The RF
branch of the former goes through floating point and stays a parameter. -/
set_option autoImplicit false

namespace SoapySidekiq

/-- The system counter of the card, and the value that the next PPS edge loads into it. -/
structure SystemClock where
  frequency : UInt64
  counter : UInt64
  onPps : Option UInt64
deriving DecidableEq

/-- The statuses that the SDK returns, and the clock that a failed update leaves behind. -/
structure ClockSdk where
  readFrequency : ℤ
  readTimestamp : ℤ
  update : ℤ
  failedUpdate : SystemClock

/-- `getHardwareTime`; `rfTime` is the branch for the RF counters (`true` for RX). -/
def getHardwareTime (arith : Arithmetic) (rfTime : Bool → Except Exception ℤ) (sdk : ClockSdk)
    (clock : SystemClock) (what : String) : Except Exception ℤ :=
  if what.isEmpty || equalsIgnoreCase what "sys_timestamp" then
    if sdk.readFrequency ≠ 0 then
      .error (.runtimeError s!"skiq_read_sys_timestamp_freq failed: {sdk.readFrequency}")
    else if clock.frequency = 0 then
      .error (.runtimeError "System timestamp frequency is missing or zero")
    else if sdk.readTimestamp ≠ 0 then
      .error (.runtimeError s!"skiq_read_curr_sys_timestamp failed: {sdk.readTimestamp}")
    else ticksToNanoseconds arith clock.counter clock.frequency
  else
    let rx := equalsIgnoreCase what "rx_rf_timestamp"
    let tx := equalsIgnoreCase what "tx_rf_timestamp"
    if !rx && !tx then .error (.invalidArgument s!"Unknown hardware timestamp: {what}")
    else rfTime rx

/-- `setHardwareTime`; `rxBusy` is the check of `RxStreamSession::configureInactive`. -/
def setHardwareTime (sdk : ClockSdk) (rxBusy : Bool) (clock : SystemClock) (timeNs : Int64)
    (what : String) : Except Exception Unit × SystemClock :=
  let now := what.isEmpty || equalsIgnoreCase what "now"
  let onPps := equalsIgnoreCase what "1pps"
  if !now && !onPps then
    (.error (.invalidArgument s!"Unknown hardware-time update: {what}"), clock)
  else if timeNs < 0 then (.error (.invalidArgument "Hardware time cannot be negative"), clock)
  else if rxBusy then
    (.error (.logicError "Deactivate RX successfully before changing stream timing configuration"),
      clock)
  else if sdk.readFrequency ≠ 0 then
    (.error (.runtimeError s!"skiq_read_sys_timestamp_freq failed: {sdk.readFrequency}"), clock)
  else
    match nanosecondsToTicks timeNs clock.frequency with
    | .error e => (.error e, clock)
    | .ok timestamp =>
      if sdk.update ≠ 0 then
        let call := if now then "skiq_update_timestamps" else "skiq_write_timestamp_update_on_1pps"
        (.error (.runtimeError s!"{call} failed: {sdk.update}"), sdk.failedUpdate)
      else if now then (.ok (), { clock with counter := timestamp })
      else (.ok (), { clock with onPps := some timestamp })

/-! ## Setting and reading back -/

theorem nanosecondsToTicks_ok {n : Int64} {f k : UInt64} (h : nanosecondsToTicks n f = .ok k) :
    0 ≤ n.toInt ∧ 0 < f.toNat ∧ k.toNat = n.toInt.toNat * f.toNat / 1000000000 := by
  have hvalid : ¬(n.toInt < 0 ∨ f = 0) := fun hc => by
    rw [(nanosecondsToTicks_invalid hc).2] at h
    cases h
  have hn : 0 ≤ n.toInt := Int.not_lt.mp fun hc => hvalid (.inl hc)
  have hf : 0 < f.toNat := toNat_pos_of_ne fun hc => hvalid (.inr hc)
  rw [(nanosecondsToTicks_exact hn hf).2] at h
  split at h
  · rename_i hle
    refine ⟨hn, hf, ?_⟩
    rw [← Except.ok.inj h, Word64.toNat_ofNat (by unfold uint64Max at hle; omega)]
  · cases h

theorem ticksToNanoseconds_ok {arith : Arithmetic} {ticks f : UInt64} {n : ℤ} (hf : 0 < f.toNat)
    (h : ticksToNanoseconds arith ticks f = .ok n) :
    ticks.toNat * 1000000000 / f.toNat ≤ int64Max ∧
      n = ((ticks.toNat * 1000000000 / f.toNat : ℕ) : ℤ) := by
  rw [(ticksToNanoseconds_exact arith ticks hf).2] at h
  split at h
  · rename_i hle
    exact ⟨hle, (Except.ok.inj h).symm⟩
  · cases h

/-- The counter value of a time reads back as that time, less at most a tick and a nanosecond. -/
theorem ticks_read_back (arith : Arithmetic) {n : Int64} {f k : UInt64}
    (h : nanosecondsToTicks n f = .ok k) :
    ∃ m, ticksToNanoseconds arith k f = .ok m ∧ m ≤ n.toInt ∧
      (n.toInt - m) * f.toNat < 10 ^ 9 + f.toNat ∧
      ((10 ^ 9 : ℤ) ∣ n.toInt * f.toNat → m = n.toInt) := by
  obtain ⟨hn, hf, hk⟩ := nanosecondsToTicks_ok h
  have hmax : n.toInt.toNat ≤ int64Max := by
    have := n.toInt_lt
    unfold int64Max
    omega
  obtain ⟨x, hx⟩ := Int.eq_ofNat_of_zero_le hn
  rw [hx, Int.toNat_natCast] at hk hmax
  obtain ⟨hle, herror, hexact⟩ := Word64.round_trip x f.toNat 1000000000 hf (by decide)
  have hread := (ticksToNanoseconds_exact arith k hf).2
  rw [hk, if_pos (hle.trans hmax)] at hread
  refine ⟨_, hread, ?_, ?_, fun hdvd => ?_⟩ <;> rw [hx] at *
  · exact_mod_cast hle
  · rw [← Nat.cast_sub hle]
    exact_mod_cast herror
  · exact_mod_cast hexact (by exact_mod_cast hdvd)

/-- What a successful immediate update leaves: the counter holds the ticks of the requested time. -/
theorem setHardwareTime_now {sdk : ClockSdk} {rxBusy : Bool} {clock clock' : SystemClock} {n : Int64}
    {what : String} (hnow : (what.isEmpty || equalsIgnoreCase what "now") = true)
    (h : setHardwareTime sdk rxBusy clock n what = (.ok (), clock')) :
    ∃ k, nanosecondsToTicks n clock.frequency = .ok k ∧ clock' = { clock with counter := k } := by
  simp only [setHardwareTime, hnow, Bool.not_true, Bool.false_and, Bool.false_eq_true, if_false,
    if_true] at h
  split at h
  · cases h
  · split at h
    · cases h
    · split at h
      · cases h
      · split at h
        · cases h
        · rename_i k hk
          split at h
          · cases h
          · exact ⟨k, hk, (Prod.ext_iff.mp h).2.symm⟩

end SoapySidekiq
