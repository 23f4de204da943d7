import SoapySidekiq.Foundations.LossyFifo
import SoapySidekiq.Rx.QueueInvariant
import SoapySidekiq.Time.TimestampExact

/-! # Runs of the sample queue

The queue under any sequence of its sections, observed by a ledger of the current session: the
blocks that pushes accepted, the pieces that reads delivered and the remainders that pushes into a
full queue discarded. A session lasts from a `start` or `reset` to the next one. -/
set_option autoImplicit false

namespace SoapySidekiq
open Interleaved LossyFifo
variable {α : Type}

/-! ## Operations -/

/-- The timestamp argument of a push: nanoseconds, or ticks of a clock. -/
inductive Stamp where
  | nanoseconds (timeNs : ℤ)
  | ticks (timestamp : UInt64) (frequency : TimestampRate)
deriving DecidableEq

/-- The sample argument of a push: an owned vector, or a pointer and a count. -/
inductive Source (α : Type) where
  | vector (samples : SampleVector α)
  | pointer (samples : Option (ℕ → α)) (complexSamples : ℕ)

/-- One critical section of the queue. A read brings a buffer with room for its request. -/
inductive QueueOp (α : Type) where
  | start
  | stop
  | fail
  | reset
  | push (source : Source α) (stamp : Stamp) (sampleRate : TimestampRate)
  | read (output : Option (List α)) (requested : ℕ) (timeoutUs : ℤ)
      (room : ∀ out, output = some out → requested * 2 ≤ out.length)

inductive OpResult where
  | done
  | pushed (status : RxPushStatus)
  | read (result : RxReadResult)

structure OpOutcome (α : Type) where
  result : Except Exception OpResult
  output : Option (List α)
  queue : RxSampleQueue α

namespace RxSampleQueue

/-- The overload that a push selects. -/
def pushOf (arith : Arithmetic) (q : RxSampleQueue α) (sampleRate : TimestampRate) :
    Source α → Stamp → PushOutcome α
  | .vector v, .nanoseconds timeNs => q.push v timeNs sampleRate
  | .vector v, .ticks timestamp frequency => pushTicks arith q v timestamp frequency sampleRate
  | .pointer p n, .nanoseconds timeNs => q.pushPointer p n timeNs sampleRate
  | .pointer p n, .ticks timestamp frequency =>
    pushTicksPointer arith q p n timestamp frequency sampleRate

def perform (arith : Arithmetic) (q : RxSampleQueue α) : QueueOp α → OpOutcome α
  | .start => ⟨.ok .done, none, q.start⟩
  | .stop => ⟨.ok .done, none, q.stop⟩
  | .fail => ⟨.ok .done, none, q.fail⟩
  | .reset => ⟨.ok .done, none, q.reset⟩
  | .push source stamp sampleRate =>
    let r := pushOf arith q sampleRate source stamp
    ⟨r.1.map .pushed, none, r.2⟩
  | .read output requested timeoutUs _ =>
    let r := read arith q output requested timeoutUs
    ⟨r.result.map .read, r.output, r.queue⟩

end RxSampleQueue

/-! ## The session ledger -/

structure Pushed (α : Type) where
  samples : SampleVector α
  stamp : Stamp
  sampleRate : TimestampRate
deriving DecidableEq

structure Session (α : Type) where
  blocks : List (Pushed α)
  ledger : Ledger (α × α)

namespace Session

def empty : Session α := ⟨[], .empty⟩

/-- The pairs of all accepted pushes, in push order. -/
def pushedPairs (s : Session α) : List (α × α) := s.blocks.flatMap fun p => p.samples.iqPairs

def accept (s : Session α) (p : Pushed α) : Session α :=
  ⟨s.blocks ++ [p], s.ledger.push p.samples.iqPairs⟩

def remove (s : Session α) (fate : Fate) (pairs : List (α × α)) : Session α :=
  ⟨s.blocks, s.ledger.remove fate pairs⟩

end Session

theorem pointer_size {complexSamples : ℕ}
    (h : ¬ (complexSamples = 0 ∨ complexSamples > (2 ^ 64 - 1) / 2)) :
    complexSamples ≤ (2 ^ 64 - 1) / 2 := by
  omega

/-- The vector that the pointer overloads build, when their checks pass. -/
def pointerVector (samples : Option (ℕ → α)) (complexSamples : ℕ) : Option (SampleVector α) :=
  if h : complexSamples = 0 ∨ complexSamples > (2 ^ 64 - 1) / 2 then none
  else samples.map fun pointer => .ofPointer pointer complexSamples (pointer_size h)

def Source.vector? : Source α → Option (SampleVector α)
  | .vector v => some v
  | .pointer samples complexSamples => pointerVector samples complexSamples

/-- A queue together with the ledger of its current session. -/
structure Observed (α : Type) where
  queue : RxSampleQueue α
  session : Session α

namespace Observed
open RxSampleQueue

/-- What a section with outcome `r` adds to the ledger. -/
def record (st : Observed α) (op : QueueOp α) (r : OpOutcome α) : Session α :=
  match op with
  | .start => .empty
  | .reset => .empty
  | .stop => st.session
  | .fail => st.session
  | .push source stamp sampleRate =>
    match source.vector?, r.result with
    | some v, .ok (.pushed .accepted) => st.session.accept ⟨v, stamp, sampleRate⟩
    | some v, .ok (.pushed .droppedOldest) =>
      (st.session.remove .discarded (unreadPairs (st.queue.blocks.take 1))).accept
        ⟨v, stamp, sampleRate⟩
    | _, _ => st.session
  | .read _ _ _ _ =>
    match r.result, r.output with
    | .ok (.read ⟨.samples, samples, _, _⟩), some out =>
      st.session.remove .delivered (pairs (out.take (samples * 2)))
    | _, _ => st.session

def step (arith : Arithmetic) (st : Observed α) (op : QueueOp α) : Observed α :=
  ⟨(perform arith st.queue op).queue, st.record op (perform arith st.queue op)⟩

def run (arith : Arithmetic) (st : Observed α) (ops : List (QueueOp α)) : Observed α :=
  ops.foldl (step arith) st

end Observed

/-! ## Which blocks the queue holds -/

/-- The block carries the samples, the rate and the exact time of an accepted push. -/
def Stamped (arith : Arithmetic) (p : Pushed α) (b : Block α) : Prop :=
  b.samples = p.samples ∧ b.sampleRate = p.sampleRate ∧
  match p.stamp with
  | .nanoseconds timeNs => b.timeNs = timeNs ∧ b.timeRemainder = 0 ∧ b.timeDenominator = 1
  | .ticks timestamp frequency => frequency.convert arith timestamp =
      .ok ⟨b.timeNs, b.timeRemainder, b.timeDenominator⟩

namespace RxSampleQueue

theorem convert_phase {arith : Arithmetic} {r : TimestampRate} {ticks : UInt64}
    {phase : TimestampPhase} (h : r.convert arith ticks = .ok phase) :
    phase.remainder < phase.denominator := by
  have hv : r.valid = true := by
    by_contra hv
    unfold TimestampRate.convert at h
    rw [if_pos (by simpa using hv)] at h
    cases h
  rw [r.convert_eq arith hv] at h
  split at h
  · cases h
    have hn := TimestampRate.numerator_pos hv
    apply UInt64.lt_iff_toNat_lt.mpr
    have hlt := Nat.mod_lt (r.scaledTicks ticks.toNat) hn
    rw [Word64.toNat_ofNat (hlt.trans r.numerator.toNat_lt)]
    exact hlt
  · cases h

theorem fromPointer_some {q : RxSampleQueue α} {samples : Option (ℕ → α)} {complexSamples : ℕ}
    {v : SampleVector α} (h : pointerVector samples complexSamples = some v)
    (forward : SampleVector α → PushOutcome α) :
    q.fromPointer samples complexSamples forward = forward v := by
  unfold pointerVector at h
  by_cases hn : complexSamples = 0 ∨ complexSamples > (2 ^ 64 - 1) / 2
  · rw [dif_pos hn] at h
    cases h
  · rw [dif_neg hn] at h
    cases samples with
    | none => cases h
    | some pointer =>
      cases h
      exact dif_neg hn

theorem fromPointer_none {q : RxSampleQueue α} {samples : Option (ℕ → α)} {complexSamples : ℕ}
    (h : pointerVector samples complexSamples = none) (forward : SampleVector α → PushOutcome α) :
    ∃ e, q.fromPointer samples complexSamples forward = (.error e, q) := by
  unfold pointerVector at h
  by_cases hn : complexSamples = 0 ∨ complexSamples > (2 ^ 64 - 1) / 2
  · exact ⟨_, dif_pos hn⟩
  · rw [dif_neg hn] at h
    cases samples with
    | none => exact ⟨_, dif_neg hn⟩
    | some pointer => cases h

/-- A push of a vector either throws without touching the queue, or runs `pushWithPhase` on a block
that carries its arguments. -/
theorem pushOf_vector (arith : Arithmetic) (q : RxSampleQueue α) (sampleRate : TimestampRate)
    (v : SampleVector α) (stamp : Stamp) :
    (∃ e, pushOf arith q sampleRate (.vector v) stamp = (.error e, q)) ∨
    ∃ b, Stamped arith ⟨v, stamp, sampleRate⟩ b ∧ b.offset = 0 ∧
      b.timeRemainder < b.timeDenominator ∧
      PushCase q b (pushOf arith q sampleRate (.vector v) stamp) := by
  cases stamp with
  | nanoseconds timeNs =>
    have hphase : (0 : UInt64) < 1 := by decide
    exact .inr ⟨_, ⟨rfl, rfl, rfl, rfl, rfl⟩, rfl, hphase, pushWithPhase_cases q v timeNs _ 0 1⟩
  | ticks timestamp frequency =>
    simp only [pushOf, pushTicks]
    cases hc : frequency.convert arith timestamp with
    | error e => exact .inl ⟨e, rfl⟩
    | ok phase =>
      exact .inr ⟨_, ⟨rfl, rfl, hc⟩, rfl, convert_phase hc, pushWithPhase_cases q v _ _ _ _⟩

theorem pushOf_cases (arith : Arithmetic) (q : RxSampleQueue α) (sampleRate : TimestampRate)
    (source : Source α) (stamp : Stamp) :
    (∃ e, pushOf arith q sampleRate source stamp = (.error e, q)) ∨
    ∃ v b, source.vector? = some v ∧ Stamped arith ⟨v, stamp, sampleRate⟩ b ∧ b.offset = 0 ∧
      b.timeRemainder < b.timeDenominator ∧
      PushCase q b (pushOf arith q sampleRate source stamp) := by
  cases source with
  | vector v =>
    rcases pushOf_vector arith q sampleRate v stamp with h | ⟨b, hb⟩
    · exact .inl h
    · exact .inr ⟨v, b, rfl, hb⟩
  | pointer samples complexSamples =>
    cases hv : pointerVector samples complexSamples with
    | none =>
      left
      cases stamp with
      | nanoseconds timeNs => exact fromPointer_none hv fun v => q.push v timeNs sampleRate
      | ticks timestamp frequency =>
        exact fromPointer_none hv fun v => pushTicks arith q v timestamp frequency sampleRate
    | some v =>
      have hforward : pushOf arith q sampleRate (.pointer samples complexSamples) stamp =
          pushOf arith q sampleRate (.vector v) stamp := by
        cases stamp with
        | nanoseconds timeNs => exact fromPointer_some hv fun v => q.push v timeNs sampleRate
        | ticks timestamp frequency =>
          exact fromPointer_some hv fun v => pushTicks arith q v timestamp frequency sampleRate
      rw [hforward]
      rcases pushOf_vector arith q sampleRate v stamp with h | ⟨b, hb⟩
      · exact .inl h
      · exact .inr ⟨v, b, hv, hb⟩

/-! ## The read section -/

/-- Everything that a read can do. -/
inductive ReadCase (arith : Arithmetic) (q : RxSampleQueue α) (output : Option (List α))
    (requested : ℕ) : ReadOutcome α → Prop where
  | failed (e : Exception) : ReadCase arith q output requested ⟨.error e, output, q⟩
  | nothing (status : RxReadStatus) (h : requested = 0 ∨ q.blocks = []) :
      ReadCase arith q output requested ⟨.ok ⟨status, 0, 0, false⟩, output, q⟩
  | copied (front : Block α) (rest : List (Block α)) (out : List α) (timeNs : ℤ)
      (hblocks : q.blocks = front :: rest) (hout : output = some out) (hreq : requested ≠ 0)
      (htime : blockTime arith front = .ok timeNs) :
      ReadCase arith q output requested
        ⟨.ok ⟨.samples, (readLoop requested q.blocks 0 out).2.1, timeNs, true⟩,
          some (readLoop requested q.blocks 0 out).2.2,
          { q with blocks := (readLoop requested q.blocks 0 out).1 }⟩

theorem read_cases (arith : Arithmetic) (q : RxSampleQueue α) (output : Option (List α))
    (requested : ℕ) (timeoutUs : ℤ) :
    ReadCase arith q output requested (read arith q output requested timeoutUs) := by
  unfold read
  split
  · exact .failed _
  rename_i hnull
  split
  · exact .failed _
  split
  · rename_i hz
    exact .nothing _ (.inl hz)
  rename_i hreq
  split
  · rename_i hready
    have hempty : q.blocks = [] := by
      cases hb : q.blocks with
      | nil => rfl
      | cons b rest => simp [ready, hb] at hready
    exact .nothing _ (.inr hempty)
  · unfold readReady
    split
    · rename_i hempty
      exact .nothing _ (.inr hempty)
    · rename_i front rest hblocks
      split
      · exact .failed _
      · rename_i timeNs htime
        cases output with
        | none => exact absurd ⟨hreq, rfl⟩ hnull
        | some out => exact .copied front rest out timeNs hblocks rfl hreq htime

/-- A read that asks for something finds the front block and reports its time. -/
theorem read_front (arith : Arithmetic) {q : RxSampleQueue α} {front : Block α}
    {rest : List (Block α)} (hblocks : q.blocks = front :: rest) (out : List α) {requested : ℕ}
    (hreq : requested ≠ 0) {timeoutUs : ℤ} (htimeout : 0 ≤ timeoutUs) :
    RxSampleQueue.read arith q (some out) requested timeoutUs =
      match blockTime arith front with
      | .error e => ⟨.error e, some out, q⟩
      | .ok timeNs =>
        ⟨.ok ⟨.samples, (readLoop requested q.blocks 0 out).2.1, timeNs, true⟩,
          some (readLoop requested q.blocks 0 out).2.2,
          { q with blocks := (readLoop requested q.blocks 0 out).1 }⟩ := by
  have hready : q.ready = true := by simp [ready, hblocks]
  unfold RxSampleQueue.read
  rw [if_neg (by simp), if_neg (by omega), if_neg hreq, if_neg (by simp [hready])]
  unfold readReady
  rw [hblocks]
  rfl

end RxSampleQueue

end SoapySidekiq
