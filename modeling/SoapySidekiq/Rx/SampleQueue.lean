import SoapySidekiq.Time.TimestampRate

/-! # The RX sample queue

`RxSampleQueue.hpp` and `RxSampleQueue.cpp`: the bounded handoff between the receive worker and
`readStream`. Every definition below is one critical section of `mutex_`, so a run of the queue is a
sequence of these in any order. A section that throws returns the exception together with the queue
as it stands at the throw.

The components are of any type `α` (`int16_t` in the driver): the queue moves them and never looks
at their values. -/
set_option autoImplicit false

namespace SoapySidekiq

inductive RxReadStatus where
  | samples
  | timeout
  | stopped
  | error
deriving DecidableEq, Repr

inductive RxPushStatus where
  | accepted
  | droppedOldest
  | stopped
deriving DecidableEq, Repr

structure RxReadResult where
  status : RxReadStatus
  samples : ℕ
  timeNs : ℤ
  hasTime : Bool
deriving DecidableEq, Repr

/-- `std::vector<std::int16_t>`: its size is a `size_t`. -/
structure SampleVector (α : Type) where
  data : List α
  size_lt : data.length < 2 ^ 64
deriving DecidableEq

namespace SampleVector
variable {α : Type}

def size (v : SampleVector α) : ℕ := v.data.length

/-- The vector of the `2 * complexSamples` components from a pointer on. -/
def ofPointer (samples : ℕ → α) (complexSamples : ℕ) (h : complexSamples ≤ (2 ^ 64 - 1) / 2) :
    SampleVector α :=
  ⟨(List.range (complexSamples * 2)).map samples, by
    rw [List.length_map, List.length_range]
    omega⟩

end SampleVector

/-- An owned block and the next unread complex sample. -/
structure Block (α : Type) where
  samples : SampleVector α
  offset : ℕ
  timeNs : ℤ
  sampleRate : TimestampRate
  timeRemainder : UInt64
  timeDenominator : UInt64

structure RxSampleQueue (α : Type) where
  capacityBlocks : ℕ
  blocks : List (Block α)
  running : Bool
  failed : Bool
  droppedBlocks : ℕ

namespace RxSampleQueue
variable {α : Type}

/-- The constructor. -/
def create (capacityBlocks : ℕ) : Except Exception (RxSampleQueue α) :=
  if capacityBlocks = 0 then .error (.invalidArgument "RX queue capacity must be positive")
  else .ok ⟨capacityBlocks, [], false, false, 0⟩

/-! ## Lifecycle -/

def start (q : RxSampleQueue α) : RxSampleQueue α :=
  { q with blocks := [], running := true, failed := false, droppedBlocks := 0 }

def stop (q : RxSampleQueue α) : RxSampleQueue α := { q with running := false }

def fail (q : RxSampleQueue α) : RxSampleQueue α := { q with running := false, failed := true }

def reset (q : RxSampleQueue α) : RxSampleQueue α :=
  { q with blocks := [], running := false, failed := false, droppedBlocks := 0 }

/-! ## Producer side -/

abbrev PushOutcome (α : Type) := Except Exception RxPushStatus × RxSampleQueue α

def pushWithPhase (q : RxSampleQueue α) (samples : SampleVector α) (timeNs : ℤ)
    (sampleRate : TimestampRate) (remainder denominator : UInt64) : PushOutcome α :=
  if samples.size = 0 ∨ samples.size % 2 ≠ 0 then
    (.error (.invalidArgument "RX sample data must contain complete IQ pairs"), q)
  else if !sampleRate.valid then
    (.error (.invalidArgument "RX sample rate cannot be zero"), q)
  else
    let block : Block α := ⟨samples, 0, timeNs, sampleRate, remainder, denominator⟩
    if !q.running || q.failed then (.ok .stopped, q)
    else if q.blocks.length = q.capacityBlocks then
      (.ok .droppedOldest,
        { q with blocks := q.blocks.tail ++ [block], droppedBlocks := q.droppedBlocks + 1 })
    else (.ok .accepted, { q with blocks := q.blocks ++ [block] })

/-- `push` of an owned vector. -/
def push (q : RxSampleQueue α) (samples : SampleVector α) (timeNs : ℤ)
    (sampleRate : TimestampRate) : PushOutcome α :=
  q.pushWithPhase samples timeNs sampleRate 0 1

/-- `pushTicks` of an owned vector: the conversion precedes the checks on the samples. -/
def pushTicks (arith : Arithmetic) (q : RxSampleQueue α) (samples : SampleVector α)
    (timestamp : UInt64) (timestampFrequency sampleRate : TimestampRate) : PushOutcome α :=
  match timestampFrequency.convert arith timestamp with
  | .error e => (.error e, q)
  | .ok phase =>
    q.pushWithPhase samples phase.nanoseconds sampleRate phase.remainder phase.denominator

/-- The checks of the pointer overloads, in front of the vector that they build. -/
def fromPointer (q : RxSampleQueue α) (samples : Option (ℕ → α)) (complexSamples : ℕ)
    (forward : SampleVector α → PushOutcome α) : PushOutcome α :=
  if h : complexSamples = 0 ∨ complexSamples > (2 ^ 64 - 1) / 2 then
    (.error (.invalidArgument "RX sample count must be positive"), q)
  else
    match samples with
    | none => (.error (.invalidArgument "RX samples cannot be null"), q)
    | some pointer => forward (.ofPointer pointer complexSamples (by omega))

/-- `push` from a pointer. -/
def pushPointer (q : RxSampleQueue α) (samples : Option (ℕ → α)) (complexSamples : ℕ)
    (timeNs : ℤ) (sampleRate : TimestampRate) : PushOutcome α :=
  q.fromPointer samples complexSamples fun v => q.push v timeNs sampleRate

/-- `pushTicks` from a pointer. -/
def pushTicksPointer (arith : Arithmetic) (q : RxSampleQueue α) (samples : Option (ℕ → α))
    (complexSamples : ℕ) (timestamp : UInt64) (timestampFrequency sampleRate : TimestampRate) :
    PushOutcome α :=
  q.fromPointer samples complexSamples fun v =>
    pushTicks arith q v timestamp timestampFrequency sampleRate

/-! ## Consumer side -/

/-- The timestamp of the next unread sample of a block. -/
def blockTime (arith : Arithmetic) (block : Block α) : Except Exception ℤ :=
  match block.sampleRate.convert arith (UInt64.ofNat block.offset) with
  | .error e => .error e
  | .ok offsetPhase =>
    let offsetNs := offsetPhase.nanoseconds
    if offsetNs > 0 ∧ block.timeNs > int64Max - offsetNs then
      .error (.overflowError "RX timestamp does not fit in nanoseconds")
    else
      let timeNs := block.timeNs + offsetNs
      if block.timeRemainder ≠ 0 ∧ offsetPhase.remainder ≠ 0 then
        let threshold := multiplyDivide arith (offsetPhase.denominator - offsetPhase.remainder)
          block.timeDenominator offsetPhase.denominator
        let minimumPhase := threshold.quotient + (if threshold.remainder ≠ 0 then 1 else 0)
        if block.timeRemainder ≥ minimumPhase then
          if timeNs = int64Max then
            .error (.overflowError "RX timestamp does not fit in nanoseconds")
          else .ok (timeNs + 1)
        else .ok timeNs
      else .ok timeNs

/-- The wait predicate of `read`. -/
def ready (q : RxSampleQueue α) : Bool := !q.blocks.isEmpty || q.failed || !q.running

/-- `std::memcpy` into a buffer, from component `position` on. -/
def memcpy (output : List α) (position : ℕ) (source : List α) : List α :=
  output.take position ++ source ++ output.drop (position + source.length)

/-- The copy loop of `read`, with `samples` complex samples already copied. -/
def readLoop (requested : ℕ) : List (Block α) → ℕ → List α → List (Block α) × ℕ × List α
  | [], samples, output => ([], samples, output)
  | block :: rest, samples, output =>
    if samples < requested then
      let blockSamples := block.samples.size / 2
      let available := blockSamples - block.offset
      let toCopy := min available (requested - samples)
      let output := memcpy output (samples * 2)
        ((block.samples.data.drop (block.offset * 2)).take (toCopy * 2))
      let block := { block with offset := block.offset + toCopy }
      let samples := samples + toCopy
      if block.offset = blockSamples then readLoop requested rest samples output
      -- A block that stays at the front has met the request, so the loop test fails next.
      else (block :: rest, samples, output)
    else (block :: rest, samples, output)

/-- What one `read` returns, the caller's buffer after it, and the queue. -/
structure ReadOutcome (α : Type) where
  result : Except Exception RxReadResult
  output : Option (List α)
  queue : RxSampleQueue α

/-- The rest of `read` once its wait is over with the predicate true. -/
def readReady (arith : Arithmetic) (q : RxSampleQueue α) (output : Option (List α))
    (requested : ℕ) : ReadOutcome α :=
  match q.blocks with
  | [] => ⟨.ok ⟨if q.failed then .error else .stopped, 0, 0, false⟩, output, q⟩
  | front :: _ =>
    match blockTime arith front with
    | .error e => ⟨.error e, output, q⟩
    | .ok timeNs =>
      let copied := readLoop requested q.blocks 0 (output.getD [])
      ⟨.ok ⟨.samples, copied.2.1, timeNs, true⟩, some copied.2.2,
        { q with blocks := copied.1 }⟩

/-- `read`, as the section that ends it: a read whose predicate is false waits, which changes
nothing, and either runs this section later or gives up here with `timeout`. -/
def read (arith : Arithmetic) (q : RxSampleQueue α) (output : Option (List α)) (requested : ℕ)
    (timeoutUs : ℤ) : ReadOutcome α :=
  if requested ≠ 0 ∧ output.isNone then
    ⟨.error (.invalidArgument "RX output cannot be null"), output, q⟩
  else if timeoutUs < 0 then
    ⟨.error (.invalidArgument "RX timeout cannot be negative"), output, q⟩
  else if requested = 0 then ⟨.ok ⟨.samples, 0, 0, false⟩, output, q⟩
  else if !q.ready then ⟨.ok ⟨.timeout, 0, 0, false⟩, output, q⟩
  else readReady arith q output requested

end RxSampleQueue

end SoapySidekiq
