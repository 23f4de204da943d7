import SoapySidekiq.Time.TimestampRate
import Mathlib.Tactic.Ring

/-! # Deadlines of the blocking calls

How `RxSampleQueue::read`, `writeStream` and `readStreamStatus` compute the time point until which
they wait, in the signed 64-bit nanoseconds of `std::chrono::steady_clock`. A computation that
overflows is `none`. -/
set_option autoImplicit false

namespace SoapySidekiq

/-- A value of a signed 64-bit representation. -/
def checkedInt64 (n : ℤ) : Option ℤ := if -int64Max - 1 ≤ n ∧ n ≤ int64Max then some n else none

/-- `now + std::chrono::microseconds(us)`: both operands in nanoseconds first. -/
def addMicroseconds (now us : ℤ) : Option ℤ := do
  let ns ← checkedInt64 (us * 1000)
  checkedInt64 (now + ns)

/-- The wait of `read`: `wait_for` adds the timeout to the clock without a check. -/
def readDeadline (timeoutUs now : ℤ) : Option ℤ := addMicroseconds now timeoutUs

/-- The deadline of `writeStream` and `readStreamStatus`, with its clamp. -/
def clampedDeadline (timeoutUs now : ℤ) : Option ℤ := do
  let budget := timeoutUs
  let remaining := (← checkedInt64 (int64Max - now)).tdiv 1000
  if budget ≥ remaining then return int64Max else addMicroseconds now budget

/-- The time points until which the polls of `readStreamStatus` sleep, one for each reading of the
clock at the end of a poll, up to the one that ends the call. -/
def pollWakes (deadline : ℤ) : List ℤ → Option (List ℤ)
  | [] => some []
  | now :: rest =>
    if now ≥ deadline then some []
    else do
      let wake := min deadline (← checkedInt64 (now + 1000000))
      return wake :: (← pollWakes deadline rest)

/-- A blocking call; `readings` are the clock values at the end of the polls of a status call. -/
inductive BlockingCall where
  | readStream
  | writeStream
  | readStreamStatus (readings : List ℤ)

/-- The time point until which a call waits, when no step of its computation overflows. -/
def BlockingCall.deadline (timeoutUs now : ℤ) : BlockingCall → Option ℤ
  | .readStream => readDeadline timeoutUs now
  | .writeStream => clampedDeadline timeoutUs now
  | .readStreamStatus readings => do
    let deadline ← clampedDeadline timeoutUs now
    let _ ← pollWakes deadline readings
    return deadline

/-! ## When the deadline is the saturated sum -/

theorem int64Max_eq : (int64Max : ℤ) = 9223372036854775807 := rfl

theorem checkedInt64_eq {n : ℤ} (h1 : -int64Max - 1 ≤ n) (h2 : n ≤ int64Max) :
    checkedInt64 n = some n := if_pos ⟨h1, h2⟩

theorem checkedInt64_overflow {n : ℤ} (h : int64Max < n) : checkedInt64 n = none :=
  if_neg fun hc => absurd hc.2 (not_le.mpr h)

theorem addMicroseconds_eq {now us : ℤ} (hnow : 0 ≤ now) (hus : 0 ≤ us) :
    addMicroseconds now us =
      if now + us * 1000 ≤ int64Max then some (now + us * 1000) else none := by
  have hmax := int64Max_eq
  unfold addMicroseconds
  by_cases hproduct : us * 1000 ≤ int64Max
  · rw [checkedInt64_eq (by omega) hproduct, Option.bind_eq_bind, Option.bind_some]
    split
    · exact checkedInt64_eq (by omega) ‹_›
    · exact checkedInt64_overflow (by omega)
  · rw [checkedInt64_overflow (by omega), if_neg (by omega)]
    rfl

/-- The clamp never overflows; it compares the budget with the whole microseconds that remain. -/
theorem clampedDeadline_eq {timeoutUs now : ℤ} (ht : 0 ≤ timeoutUs) (hn : 0 ≤ now)
    (hle : now ≤ int64Max) :
    clampedDeadline timeoutUs now = some (if (int64Max - now) / 1000 ≤ timeoutUs
      then (int64Max : ℤ) else now + timeoutUs * 1000) := by
  have hmax := int64Max_eq
  unfold clampedDeadline
  rw [checkedInt64_eq (by omega) (by omega), Option.bind_eq_bind, Option.bind_some,
    Int.tdiv_eq_ediv_of_nonneg (by omega)]
  simp only [ge_iff_le]
  split
  · rfl
  · rw [addMicroseconds_eq hn ht, if_pos (by omega)]

/-- The polls overflow exactly when one of them ends within a millisecond of the clock's end. -/
theorem pollWakes_isSome (deadline : ℤ) (readings : List ℤ) (h : ∀ now ∈ readings, 0 ≤ now) :
    (pollWakes deadline readings).isSome ↔
      ∀ now ∈ readings.takeWhile (· < deadline), now + 1000000 ≤ int64Max := by
  induction readings with
  | nil => simp [pollWakes]
  | cons now rest ih =>
    have hmax := int64Max_eq
    have hnow := h now List.mem_cons_self
    have hrest := ih fun x hx => h x (List.mem_cons_of_mem _ hx)
    by_cases hbefore : now < deadline
    · rw [pollWakes, if_neg (not_le.mpr hbefore),
        List.takeWhile_cons_of_pos (by simpa using hbefore), List.forall_mem_cons, ← hrest]
      by_cases hfit : now + 1000000 ≤ int64Max
      · rw [checkedInt64_eq (by omega) hfit]
        cases pollWakes deadline rest <;> simp [hfit]
      · rw [checkedInt64_overflow (not_le.mp hfit)]
        simp [hfit]
    · rw [pollWakes, if_pos (not_lt.mp hbefore),
        List.takeWhile_cons_of_neg (by simpa using hbefore)]
      simp

/-! ## The claim and its condition -/

/-- The timeouts and readings for which a call computes the saturated sum without overflow. -/
def BlockingCall.Saturates (timeoutUs now : ℤ) : BlockingCall → Prop
  | .readStream => now + timeoutUs * 1000 ≤ int64Max
  | .writeStream => timeoutUs ≠ (int64Max - now) / 1000 ∨ 1000 ∣ int64Max - now
  | .readStreamStatus readings =>
    (timeoutUs ≠ (int64Max - now) / 1000 ∨ 1000 ∣ int64Max - now) ∧
      ∀ reading ∈ readings.takeWhile (· < min (now + timeoutUs * 1000) int64Max),
        reading + 1000000 ≤ int64Max

theorem clampedDeadline_saturates {timeoutUs now : ℤ} (ht : 0 ≤ timeoutUs) (hn : 0 ≤ now)
    (hle : now ≤ int64Max) :
    clampedDeadline timeoutUs now = some (min (now + timeoutUs * 1000) int64Max) ↔
      timeoutUs ≠ (int64Max - now) / 1000 ∨ (1000 : ℤ) ∣ int64Max - now := by
  rw [clampedDeadline_eq ht hn hle, Option.some.injEq]
  split <;> omega

theorem deadline_saturated_iff (call : BlockingCall) (timeoutUs now : ℤ) (ht : 0 ≤ timeoutUs)
    (hn : 0 ≤ now) (hle : now ≤ int64Max)
    (hreadings : ∀ readings, call = .readStreamStatus readings →
      ∀ reading ∈ readings, now ≤ reading) :
    call.deadline timeoutUs now = some (min (now + timeoutUs * 1000) int64Max) ↔
      call.Saturates timeoutUs now := by
  cases call with
  | readStream =>
    rw [BlockingCall.deadline, readDeadline, addMicroseconds_eq hn ht]
    unfold BlockingCall.Saturates
    split
    · rename_i hfit
      rw [min_eq_left hfit]
      exact ⟨fun _ => hfit, fun _ => rfl⟩
    · rename_i hfit
      exact ⟨fun h => by simp at h, fun h => absurd h hfit⟩
  | writeStream => exact clampedDeadline_saturates ht hn hle
  | readStreamStatus readings =>
    have hnonneg : ∀ reading ∈ readings, 0 ≤ reading := fun reading hr =>
      hn.trans (hreadings readings rfl reading hr)
    rw [BlockingCall.Saturates, ← clampedDeadline_saturates ht hn hle,
      ← pollWakes_isSome _ readings hnonneg, BlockingCall.deadline]
    constructor
    · intro h
      obtain ⟨deadline, hclamp, h⟩ := Option.bind_eq_some_iff.mp h
      obtain ⟨wakes, hwakes, h⟩ := Option.bind_eq_some_iff.mp h
      rw [Option.some.inj h] at hclamp hwakes
      exact ⟨hclamp, by rw [hwakes]; rfl⟩
    · rintro ⟨hclamp, hwakes⟩
      obtain ⟨wakes, hwakes⟩ := Option.isSome_iff_exists.mp hwakes
      rw [hclamp, Option.bind_eq_bind, Option.bind_some, hwakes]
      rfl

/-- One hour, a hundred seconds after the start of the clock. -/
theorem deadline_saturated_hour :
    BlockingCall.readStream.deadline 3600000000 100000000000 =
      some (min (100000000000 + 3600000000 * 1000) int64Max) :=
  (deadline_saturated_iff .readStream 3600000000 100000000000 (by decide) (by decide) (by decide)
    (fun _ h => nomatch h)).mpr (by unfold BlockingCall.Saturates; decide)

/-- `readStream` with the timeout `LONG_MAX`: the microseconds do not fit in nanoseconds. -/
theorem read_deadline_overflows : ¬BlockingCall.readStream.deadline int64Max 0 =
    some (min (0 + int64Max * 1000) int64Max) := by
  decide

end SoapySidekiq
