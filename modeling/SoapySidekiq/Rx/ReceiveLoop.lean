import SoapySidekiq.Rx.QueueTime
import SoapySidekiq.Rx.Ownership

/-! # What the receive worker makes of the backend's results

The results that the worker's calls of `receive` end with, classified one by one: which of them carry
a block for the queue, which end the worker and with what code. The session beside a record of these
results and of the blocks that enter the queue keeps the record and the counters in step. -/
set_option autoImplicit false

namespace SoapySidekiq
open Transition
variable {α τ : Type}

/-! ## The results -/

/-- How a call of `receive` ends. -/
abbrev ReceiveEnd (α : Type) : Type := Except Exception (RxReceiveResult α)

namespace RxSessionConfiguration

def selectedTimestamp (c : RxSessionConfiguration) (result : RxReceiveResult α) : UInt64 :=
  if c.useRfTimestamp then result.rfTimestamp else result.systemTimestamp

def selectedClock (c : RxSessionConfiguration) : TimestampRate :=
  if c.useRfTimestamp then c.sampleRate else .ofFrequency c.systemTimestampFrequency

/-- A block of the configured size from the configured handle. -/
def wellFormed (c : RxSessionConfiguration) : ReceiveEnd α → Option (RxReceiveResult α)
  | .error _ => none
  | .ok result =>
    if result.status = .success ∧ result.handle = c.handle ∧
      result.samples.size = c.blockSamples * 2 then some result else none

/-- The nanoseconds of the selected timestamp do not fit. -/
def overflows (c : RxSessionConfiguration) (result : RxReceiveResult α) : Bool :=
  decide (int64Max < c.selectedClock.floorNs (c.selectedTimestamp result).toNat)

/-- The code with which a result ends the worker, if it does. -/
def terminal (c : RxSessionConfiguration) : ReceiveEnd α → Option ℤ
  | .error _ => some (-1)
  | .ok result =>
    match result.status with
    | .noData | .overrun => none
    | .error => some result.errorCode
    | .success =>
      if result.handle ≠ c.handle then none
      else if result.samples.size ≠ c.blockSamples * 2 then some (-1)
      else if c.overflows result then some (-1)
      else none

def isOverrun : ReceiveEnd α → Bool
  | .error _ => false
  | .ok result => result.status == .overrun

/-- The block that a result puts into the queue. -/
def block (c : RxSessionConfiguration) (arith : Arithmetic) (received : ReceiveEnd α) :
    Option (Block α) :=
  match c.wellFormed received with
  | none => none
  | some result =>
    match c.selectedClock.convert arith (c.selectedTimestamp result) with
    | .error _ => none
    | .ok phase =>
      some (RxSampleQueue.newBlock result.samples phase.nanoseconds c.sampleRate phase.remainder
        phase.denominator)

/-- The pairs of neighbours in the list of timestamps that are not one block apart. -/
def gaps (c : RxSessionConfiguration) (timestamps : List UInt64) : ℕ :=
  (timestamps.zip timestamps.tail).countP fun p => p.2 != p.1 + UInt64.ofNat c.blockSamples

/-- The RF timestamps of the well-formed blocks. -/
def timestamps (c : RxSessionConfiguration) (outcomes : List (ReceiveEnd α)) : List UInt64 :=
  (outcomes.filterMap c.wellFormed).map RxReceiveResult.rfTimestamp

/-- The results up to the first terminal one, which is the last that the worker takes. -/
def upToTerminal (c : RxSessionConfiguration) : List (ReceiveEnd α) → List (ReceiveEnd α)
  | [] => []
  | received :: rest =>
    if (c.terminal received).isSome then [received] else received :: c.upToTerminal rest

end RxSessionConfiguration

/-! ## The record -/

/-- The session, the results that its workers have received and the blocks that they have put into
the queue. -/
structure ReceiveRun (α τ : Type) where
  world : SessionWorld α τ
  outcomes : List (ReceiveEnd α)
  pushed : List (Block α)

namespace Worker

/-- What a step of the worker adds to the record of results. -/
def received (w : Worker α) (incoming : ReceiveEnd α) : List (ReceiveEnd α) :=
  match w.pc with
  | .receiving => [incoming]
  | _ => []

/-- What a step of the worker adds to the record of blocks. -/
def enqueued (w : Worker α) (arith : Arithmetic) (queue : RxSampleQueue α) : List (Block α) :=
  match w.pc with
  | .push samples timestamp =>
    match RxSampleQueue.pushTicks arith queue samples timestamp w.frequency
      w.configuration.sampleRate with
    | (.ok .accepted, queue) | (.ok .droppedOldest, queue) => queue.blocks.getLast?.toList
    | _ => []
  | _ => []

end Worker

namespace SessionWorld

/-- The result that a worker receives in this step. -/
def received (w : SessionWorld α τ) : SessionAction α τ → List (ReceiveEnd α)
  | .worker incoming => (w.session.receiveThread.map fun worker => worker.received incoming).getD []
  | _ => []

/-- The block that a worker puts into the queue in this step. -/
def enqueued (arith : Arithmetic) (w : SessionWorld α τ) : SessionAction α τ → List (Block α)
  | .worker _ =>
    (w.session.receiveThread.map fun worker => worker.enqueued arith w.session.queue).getD []
  | _ => []

end SessionWorld

/-- A call that requests a deactivation. -/
def SessionAction.deactivates : SessionAction α τ → Bool
  | .call (.deactivate _) | .call .shutdown => true
  | _ => false

namespace ReceiveRun

def next (arith : Arithmetic) (s : ReceiveRun α τ) (a : SessionAction α τ) :
    Option (ReceiveRun α τ) :=
  (s.world.next arith a).map fun w =>
    ⟨w, s.outcomes ++ s.world.received a, s.pushed ++ s.world.enqueued arith a⟩

end ReceiveRun

/-! ## Gaps -/

theorem zip_tail_snoc {β : Type} (l : List β) (x : β) :
    (l ++ [x]).zip (l ++ [x]).tail =
      l.zip l.tail ++ (l.getLast?.map fun last => (last, x)).toList := by
  induction l with
  | nil => rfl
  | cons y l ih =>
    cases l with
    | nil => rfl
    | cons z l => simpa using ih

namespace RxSessionConfiguration

theorem gaps_snoc (c : RxSessionConfiguration) (timestamps : List UInt64) (timestamp : UInt64) :
    c.gaps (timestamps ++ [timestamp]) = c.gaps timestamps +
      if (match timestamps.getLast? with
        | some last => timestamp != last + UInt64.ofNat c.blockSamples
        | none => false) then 1 else 0 := by
  unfold gaps
  rw [zip_tail_snoc, List.countP_append]
  cases timestamps.getLast? <;> simp [List.countP_cons]

theorem timestamps_snoc (c : RxSessionConfiguration) (outcomes : List (ReceiveEnd α))
    (received : ReceiveEnd α) :
    c.timestamps (outcomes ++ [received]) =
      c.timestamps outcomes ++ ((c.wellFormed received).map RxReceiveResult.rfTimestamp).toList := by
  unfold timestamps
  rw [List.filterMap_append, List.map_append]
  cases h : c.wellFormed received <;> simp [h]

/-- A terminal result puts nothing into the queue. -/
theorem check_cases {c : RxSessionConfiguration} (h : c.check = none) :
    0 < c.blockSamples ∧ c.sampleRate.valid = true ∧ c.selectedClock.valid = true := by
  unfold check at h
  split at h
  · cases h
  · next hsize =>
    split at h
    · cases h
    · next hrate =>
      split at h
      · cases h
      · next hclock =>
        have hvalid : c.sampleRate.valid = true := by simpa using hrate
        refine ⟨by omega, hvalid, ?_⟩
        unfold selectedClock
        split
        · exact hvalid
        · next hsystem =>
          simpa [hsystem, TimestampRate.valid, TimestampRate.ofFrequency] using hclock

theorem wellFormed_some {c : RxSessionConfiguration} {received : ReceiveEnd α}
    {result : RxReceiveResult α} (h : c.wellFormed received = some result) :
    received = .ok result ∧ result.status = .success ∧ result.handle = c.handle ∧
      result.samples.size = c.blockSamples * 2 := by
  unfold wellFormed at h
  split at h
  · cases h
  · split at h
    · next hresult => cases h; exact ⟨rfl, hresult⟩
    · cases h

/-- The block of a well-formed result whose timestamp fits. -/
theorem block_wellFormed {c : RxSessionConfiguration} (hc : c.check = none) (arith : Arithmetic)
    {received : ReceiveEnd α} {result : RxReceiveResult α} (h : c.wellFormed received = some result) :
    c.block arith received = none ↔ c.overflows result = true := by
  unfold block overflows
  simp only [h]
  rw [TimestampRate.convert_eq arith _ (check_cases hc).2.2, decide_eq_true_iff]
  rcases Nat.lt_or_ge int64Max (c.selectedClock.floorNs (c.selectedTimestamp result).toNat) with hlt | hle
  · rw [if_neg (Nat.not_le.mpr hlt)]
    simp [hlt]
  · rw [if_pos hle]
    simp [Nat.not_lt.mpr hle]

/-- A terminal result puts nothing into the queue. -/
theorem block_eq_none {c : RxSessionConfiguration} (hc : c.check = none) (arith : Arithmetic)
    {received : ReceiveEnd α} {code : ℤ} (h : c.terminal received = some code) :
    c.block arith received = none := by
  cases hwf : c.wellFormed received with
  | none => unfold block; rw [hwf]
  | some result =>
    obtain ⟨rfl, hstatus, hhandle, hsize⟩ := wellFormed_some hwf
    refine (block_wellFormed hc arith hwf).mpr ?_
    by_contra hoverflow
    simp [terminal, hstatus, hhandle, hsize, hoverflow] at h

end RxSessionConfiguration

/-! ## The worker -/

namespace RxSessionConfiguration

def Nonterminal (c : RxSessionConfiguration) (outcomes : List (ReceiveEnd α)) : Prop :=
  ∀ received ∈ outcomes, c.terminal received = none

/-- The last result, and no other, is terminal. -/
def Ended (c : RxSessionConfiguration) (outcomes : List (ReceiveEnd α)) (code : ℤ) : Prop :=
  ∃ before received, outcomes = before ++ [received] ∧ c.Nonterminal before ∧
    c.terminal received = some code

theorem Nonterminal.snoc {c : RxSessionConfiguration} {outcomes : List (ReceiveEnd α)}
    {received : ReceiveEnd α} (h : c.Nonterminal outcomes) (hlast : c.terminal received = none) :
    c.Nonterminal (outcomes ++ [received]) := by
  intro other hother
  rcases List.mem_append.mp hother with hother | hother
  · exact h other hother
  · rw [List.mem_singleton.mp hother]; exact hlast

end RxSessionConfiguration

namespace RxStreamSession

/-- The diagnostic counters after the results. -/
def Counted (s : RxStreamSession α) (c : RxSessionConfiguration) (outcomes : List (ReceiveEnd α)) :
    Prop :=
  s.hardwareOverruns = outcomes.countP RxSessionConfiguration.isOverrun ∧
    s.timestampDiscontinuities = c.gaps (c.timestamps outcomes)

/-- Where the session stands in the four publications of a failure. -/
structure Flags (s : RxStreamSession α) (receiveError : ℤ) (failed running queueFailed : Bool) :
    Prop where
  receiveError : s.receiveError = receiveError
  failed : s.failed = failed
  running : s.running = running
  queueRunning : s.queue.running = !queueFailed
  queueFailed : s.queue.failed = queueFailed

/-- What the worker has made of the results at its place, the last of which may be in progress. -/
def AtWorker (arith : Arithmetic) (s : RxStreamSession α) (c : RxSessionConfiguration)
    (outcomes : List (ReceiveEnd α)) (pushed : List (Block α)) (last : Option UInt64) :
    WorkerPc α → Prop
  | .loop | .receiving =>
    c.Nonterminal outcomes ∧ s.Counted c outcomes ∧ pushed = outcomes.filterMap (c.block arith) ∧
      last = (c.timestamps outcomes).getLast? ∧ s.Flags 0 false true false
  | .received result | .process result =>
    ∃ before, outcomes = before ++ [.ok result] ∧ c.Nonterminal before ∧ s.Counted c before ∧
      pushed = before.filterMap (c.block arith) ∧ last = (c.timestamps before).getLast? ∧
      s.Flags 0 false true false
  | .push samples timestamp =>
    ∃ before result, outcomes = before ++ [.ok result] ∧ c.wellFormed (.ok result) = some result ∧
      samples = result.samples ∧ timestamp = c.selectedTimestamp result ∧ c.Nonterminal before ∧
      s.Counted c outcomes ∧ pushed = before.filterMap (c.block arith) ∧
      last = (c.timestamps outcomes).getLast? ∧ s.Flags 0 false true false
  | .storeError code =>
    c.Ended outcomes code ∧ s.Counted c outcomes ∧ pushed = outcomes.filterMap (c.block arith) ∧
      s.Flags 0 false true false
  | .storeFailed =>
    ∃ code, c.Ended outcomes code ∧ s.Counted c outcomes ∧
      pushed = outcomes.filterMap (c.block arith) ∧ s.Flags code false true false
  | .storeStopped =>
    ∃ code, c.Ended outcomes code ∧ s.Counted c outcomes ∧
      pushed = outcomes.filterMap (c.block arith) ∧ s.Flags code true true false
  | .storeQueue =>
    ∃ code, c.Ended outcomes code ∧ s.Counted c outcomes ∧
      pushed = outcomes.filterMap (c.block arith) ∧ s.Flags code true false false
  | .finished =>
    ∃ code, c.Ended outcomes code ∧ s.Counted c outcomes ∧
      pushed = outcomes.filterMap (c.block arith) ∧ s.Flags code true false true

/-- A result that is neither an overrun nor a well-formed block moves no counter. -/
theorem Counted.other {s : RxStreamSession α} {c : RxSessionConfiguration}
    {outcomes : List (ReceiveEnd α)} {received : ReceiveEnd α} (h : s.Counted c outcomes)
    (hoverrun : RxSessionConfiguration.isOverrun received = false) (hblock : c.wellFormed received = none) :
    s.Counted c (outcomes ++ [received]) := by
  refine ⟨?_, ?_⟩
  · rw [h.1, List.countP_append, List.countP_singleton, hoverrun]
    rfl
  · rw [h.2, c.timestamps_snoc, hblock]
    simp

theorem blocks_snoc {arith : Arithmetic} {c : RxSessionConfiguration}
    {outcomes : List (ReceiveEnd α)} {received : ReceiveEnd α} (h : c.block arith received = none) :
    (outcomes ++ [received]).filterMap (c.block arith) = outcomes.filterMap (c.block arith) := by
  simp [List.filterMap_append, h]

theorem block_none {arith : Arithmetic} {c : RxSessionConfiguration} {received : ReceiveEnd α}
    (h : c.wellFormed received = none) : c.block arith received = none := by
  unfold RxSessionConfiguration.block
  rw [h]

theorem timestamps_last {c : RxSessionConfiguration} {outcomes : List (ReceiveEnd α)}
    {received : ReceiveEnd α} (h : c.wellFormed received = none) :
    c.timestamps (outcomes ++ [received]) = c.timestamps outcomes := by
  rw [c.timestamps_snoc, h]
  simp

end RxStreamSession

/-! ## Steps of the worker -/

theorem Worker.frequency_eq (w : Worker α) : w.frequency = w.configuration.selectedClock := rfl

namespace RxStreamSession

/-- The worker of `s` stands where the record says. -/
def At (arith : Arithmetic) (s : RxStreamSession α) (c : RxSessionConfiguration)
    (outcomes : List (ReceiveEnd α)) (pushed : List (Block α)) : Prop :=
  ∃ last pc, s.receiveThread = some ⟨c, last, pc⟩ ∧ s.AtWorker arith c outcomes pushed last pc

theorem processResult_at {arith : Arithmetic} {s : RxStreamSession α} {c : RxSessionConfiguration}
    {outcomes : List (ReceiveEnd α)} {pushed : List (Block α)} {last : Option UInt64}
    {result : RxReceiveResult α} (h : s.AtWorker arith c outcomes pushed last (.process result)) :
    (s.processResult ⟨c, last, .process result⟩ result).At arith c outcomes pushed := by
  obtain ⟨before, rfl, hbefore, hcounted, rfl, rfl, hflags⟩ := h
  unfold processResult
  cases hstatus : result.status with
  | noData =>
    have hwf : c.wellFormed (.ok result) = none := by
      simp [RxSessionConfiguration.wellFormed, hstatus]
    refine ⟨_, _, rfl, ?_, ?_, ?_, ?_, { hflags with }⟩
    · exact hbefore.snoc (by simp [RxSessionConfiguration.terminal, hstatus])
    · exact hcounted.other (by simp [RxSessionConfiguration.isOverrun, hstatus]) hwf
    · exact (blocks_snoc (block_none hwf)).symm
    · rw [timestamps_last hwf]
  | overrun =>
    have hwf : c.wellFormed (.ok result) = none := by
      simp [RxSessionConfiguration.wellFormed, hstatus]
    refine ⟨_, _, rfl, ?_, ⟨?_, ?_⟩, ?_, ?_, { hflags with }⟩
    · exact hbefore.snoc (by simp [RxSessionConfiguration.terminal, hstatus])
    · rw [List.countP_append, List.countP_singleton, ← hcounted.1]
      simp [RxSessionConfiguration.isOverrun, hstatus, setThread]
    · rw [timestamps_last hwf]
      exact hcounted.2
    · exact (blocks_snoc (block_none hwf)).symm
    · rw [timestamps_last hwf]
  | error =>
    have hwf : c.wellFormed (.ok result) = none := by
      simp [RxSessionConfiguration.wellFormed, hstatus]
    refine ⟨_, _, rfl, ⟨before, _, rfl, hbefore, ?_⟩, ?_, ?_, { hflags with }⟩
    · simp [RxSessionConfiguration.terminal, hstatus]
    · exact hcounted.other (by simp [RxSessionConfiguration.isOverrun, hstatus]) hwf
    · exact (blocks_snoc (block_none hwf)).symm
  | success =>
    dsimp only
    have hoverrun : RxSessionConfiguration.isOverrun (.ok result) = false := by
      simp [RxSessionConfiguration.isOverrun, hstatus]
    by_cases hhandle : result.handle = c.handle
    · by_cases hsize : result.samples.size = c.blockSamples * 2
      · have hwf : c.wellFormed (.ok result) = some result := by
          simp [RxSessionConfiguration.wellFormed, hstatus, hhandle, hsize]
        rw [if_neg (not_not.mpr hhandle), if_neg (not_not.mpr hsize)]
        refine ⟨_, _, rfl, before, result, rfl, hwf, rfl, rfl, hbefore, ⟨?_, ?_⟩, rfl, ?_,
          { hflags with }⟩
        · rw [List.countP_append, List.countP_singleton, hoverrun, ← hcounted.1]
          rfl
        · rw [c.timestamps_snoc, hwf, Option.map_some, Option.toList_some, c.gaps_snoc, ← hcounted.2]
          rfl
        · rw [c.timestamps_snoc, hwf]
          simp
      · have hwf : c.wellFormed (.ok result) = none := by
          simp [RxSessionConfiguration.wellFormed, hsize]
        rw [if_neg (not_not.mpr hhandle), if_pos hsize]
        refine ⟨_, _, rfl, ⟨before, _, rfl, hbefore, ?_⟩, ?_, ?_, { hflags with }⟩
        · simp [RxSessionConfiguration.terminal, hstatus, hhandle, hsize]
        · exact hcounted.other hoverrun hwf
        · exact (blocks_snoc (block_none hwf)).symm
    · have hwf : c.wellFormed (.ok result) = none := by
        simp [RxSessionConfiguration.wellFormed, hhandle]
      rw [if_pos hhandle]
      refine ⟨_, _, rfl, ?_, ?_, ?_, ?_, { hflags with }⟩
      · exact hbefore.snoc (by simp [RxSessionConfiguration.terminal, hstatus, hhandle])
      · exact hcounted.other hoverrun hwf
      · exact (blocks_snoc (block_none hwf)).symm
      · rw [timestamps_last hwf]

/-- A push of a well-formed block into the running queue. -/
theorem push_at {arith : Arithmetic} {s t : RxStreamSession α} {c : RxSessionConfiguration}
    (hc : c.check = none) {outcomes : List (ReceiveEnd α)} {pushed : List (Block α)}
    {last : Option UInt64} {samples : SampleVector α} {timestamp : UInt64}
    {incoming : ReceiveEnd α} (h : s.AtWorker arith c outcomes pushed last (.push samples timestamp))
    (hstep : s.workerStep arith ⟨c, last, .push samples timestamp⟩ incoming = some t) :
    t.At arith c outcomes
      (pushed ++ Worker.enqueued ⟨c, last, .push samples timestamp⟩ arith s.queue) := by
  obtain ⟨before, result, rfl, hwf, rfl, rfl, hbefore, hcounted, rfl, rfl, hflags⟩ := h
  obtain ⟨hsize, hrate, hclock⟩ := RxSessionConfiguration.check_cases hc
  obtain ⟨-, hstatus, hhandle, hwords⟩ := RxSessionConfiguration.wellFormed_some hwf
  have hterminal : c.terminal (.ok result) = if c.overflows result then some (-1) else none := by
    simp [RxSessionConfiguration.terminal, hstatus, hhandle, hwords]
  simp only [workerStep, Worker.frequency_eq] at hstep
  simp only [Worker.enqueued, Worker.frequency_eq]
  unfold RxSampleQueue.pushTicks at hstep ⊢
  have hblock := RxSessionConfiguration.block_wellFormed hc arith hwf
  cases hconvert : c.selectedClock.convert arith (c.selectedTimestamp result) with
  | error e =>
    simp only [hconvert, Option.some.injEq] at hstep ⊢
    subst hstep
    have hnone : c.block arith (.ok result) = none := by
      simp [RxSessionConfiguration.block, hwf, hconvert]
    refine ⟨_, _, rfl, ⟨before, _, rfl, hbefore, ?_⟩, hcounted, ?_, { hflags with }⟩
    · rw [hterminal, if_pos (hblock.mp hnone)]
    · rw [blocks_snoc hnone, List.append_nil]
  | ok phase =>
    simp only [hconvert] at hstep ⊢
    have hsome : c.block arith (.ok result) = some (RxSampleQueue.newBlock result.samples
        phase.nanoseconds c.sampleRate phase.remainder phase.denominator) := by
      simp [RxSessionConfiguration.block, hwf, hconvert]
    have hnone : c.terminal (.ok result) = none := by
      rw [hterminal, if_neg]
      intro hoverflow
      rw [hblock.mpr hoverflow] at hsome
      cases hsome
    have hcase := RxSampleQueue.pushWithPhase_cases s.queue result.samples phase.nanoseconds
      c.sampleRate phase.remainder phase.denominator
    generalize s.queue.pushWithPhase result.samples phase.nanoseconds c.sampleRate phase.remainder
      phase.denominator = outcome at hstep hcase ⊢
    have hqueue := hflags.queueRunning
    have hfailed := hflags.queueFailed
    cases hcase with
    | invalid e hinvalid =>
      simp only [RxSampleQueue.newBlock] at hinvalid
      rcases hinvalid with hzero | hodd | hinvalid
      · omega
      · omega
      · simp [hrate] at hinvalid
    | stopped hstopped => simp [hqueue, hfailed] at hstopped
    | dropped | accepted =>
      cases hstep
      refine ⟨_, _, rfl, hbefore.snoc hnone, hcounted, ?_, rfl, { hflags with }⟩
      simp [List.filterMap_append, hsome]

theorem workerStep_at {arith : Arithmetic} {s t : RxStreamSession α} {c : RxSessionConfiguration}
    (hc : c.check = none) {outcomes : List (ReceiveEnd α)} {pushed : List (Block α)}
    {last : Option UInt64} {pc : WorkerPc α} {incoming : ReceiveEnd α}
    (h : s.AtWorker arith c outcomes pushed last pc)
    (hstep : s.workerStep arith ⟨c, last, pc⟩ incoming = some t) :
    t.At arith c (outcomes ++ Worker.received ⟨c, last, pc⟩ incoming)
      (pushed ++ Worker.enqueued ⟨c, last, pc⟩ arith s.queue) := by
  cases pc with
  | push samples timestamp =>
    simp only [Worker.received, List.append_nil]
    exact push_at hc h hstep
  | receiving =>
    obtain ⟨hnone, hcounted, hpushed, hlast, hflags⟩ := h
    simp only [Worker.received, Worker.enqueued, List.append_nil]
    cases incoming with
    | error e =>
      cases hstep
      refine ⟨_, _, rfl, ⟨outcomes, _, rfl, hnone, rfl⟩, hcounted.other rfl rfl, ?_, { hflags with }⟩
      rw [hpushed, blocks_snoc rfl]
    | ok result =>
      cases hstep
      exact ⟨_, _, rfl, outcomes, rfl, hnone, hcounted, hpushed, hlast, { hflags with }⟩
  | process result =>
    cases hstep
    simp only [Worker.received, Worker.enqueued, List.append_nil]
    exact processResult_at h
  | loop =>
    obtain ⟨hnone, hcounted, hpushed, hlast, hflags⟩ := h
    simp only [workerStep, hflags.running, if_true] at hstep
    cases hstep
    simp only [Worker.received, Worker.enqueued, List.append_nil]
    exact ⟨_, _, rfl, hnone, hcounted, hpushed, hlast, { hflags with }⟩
  | received result =>
    obtain ⟨before, hout, hnone, hcounted, hpushed, hlast, hflags⟩ := h
    simp only [workerStep, hflags.running, if_true] at hstep
    cases hstep
    simp only [Worker.received, Worker.enqueued, List.append_nil]
    exact ⟨_, _, rfl, before, hout, hnone, hcounted, hpushed, hlast, { hflags with }⟩
  | storeError code =>
    obtain ⟨hended, hcounted, hpushed, hflags⟩ := h
    cases hstep
    simp only [Worker.received, Worker.enqueued, List.append_nil]
    exact ⟨_, _, rfl, code, hended, hcounted, hpushed, { hflags with receiveError := rfl }⟩
  | storeFailed =>
    obtain ⟨code, hended, hcounted, hpushed, hflags⟩ := h
    cases hstep
    simp only [Worker.received, Worker.enqueued, List.append_nil]
    exact ⟨_, _, rfl, code, hended, hcounted, hpushed, { hflags with failed := rfl }⟩
  | storeStopped =>
    obtain ⟨code, hended, hcounted, hpushed, hflags⟩ := h
    cases hstep
    simp only [Worker.received, Worker.enqueued, List.append_nil]
    exact ⟨_, _, rfl, code, hended, hcounted, hpushed, { hflags with running := rfl }⟩
  | storeQueue =>
    obtain ⟨code, hended, hcounted, hpushed, hflags⟩ := h
    cases hstep
    simp only [Worker.received, Worker.enqueued, List.append_nil]
    exact ⟨_, _, rfl, code, hended, hcounted, hpushed,
      { hflags with queueRunning := rfl, queueFailed := rfl }⟩
  | finished => cases hstep

end RxStreamSession

/-! ## Runs -/

theorem RxSampleQueue.read_flags (arith : Arithmetic) (q : RxSampleQueue α)
    (output : Option (List α)) (requested : ℕ) (timeoutUs : ℤ) :
    (RxSampleQueue.read arith q output requested timeoutUs).queue.running = q.running ∧
      (RxSampleQueue.read arith q output requested timeoutUs).queue.failed = q.failed := by
  unfold RxSampleQueue.read
  split
  · exact ⟨rfl, rfl⟩
  · split
    · exact ⟨rfl, rfl⟩
    · split
      · exact ⟨rfl, rfl⟩
      · split
        · exact ⟨rfl, rfl⟩
        · unfold RxSampleQueue.readReady
          split
          · exact ⟨rfl, rfl⟩
          · split <;> exact ⟨rfl, rfl⟩

namespace ReceiveRun

/-- What an activation has prepared for its worker, and that no deactivation is in progress. -/
def Launch (s : RxStreamSession α) : LifecyclePc τ → Prop
  | .starting c _ => c.check = none
  | .startQueue c =>
    c.check = none ∧ s.hardwareOverruns = 0 ∧ s.timestampDiscontinuities = 0 ∧ s.receiveError = 0 ∧
      s.failed = false
  | .setRunning c =>
    c.check = none ∧ s.hardwareOverruns = 0 ∧ s.timestampDiscontinuities = 0 ∧ s.receiveError = 0 ∧
      s.failed = false ∧ s.queue.running = true ∧ s.queue.failed = false
  | .createThread c =>
    c.check = none ∧ s.hardwareOverruns = 0 ∧ s.timestampDiscontinuities = 0 ∧
      s.Flags 0 false true false
  | .deactivate _ _ | .clearRunning _ _ | .stopQueue _ _ | .stopping _ _ | .joining _ _ => False
  | _ => True

/-- The worker has the record's results behind it. -/
structure Specified (arith : Arithmetic) (s : ReceiveRun α τ) : Prop where
  fallbacks : s.world.fallbacks = []
  launch : Launch s.world.session s.world.pc
  idle : s.world.session.receiveThread = none → s.outcomes = [] ∧ s.pushed = []
  worker : ∀ worker, s.world.session.receiveThread = some worker →
    worker.configuration.check = none ∧
      s.world.session.AtWorker arith worker.configuration s.outcomes s.pushed worker.lastTimestamp
        worker.pc

/-- A step of a lifecycle call that leaves the session alone. -/
theorem Specified.moved {arith : Arithmetic} {s : ReceiveRun α τ} (h : s.Specified arith)
    {w : SessionWorld α τ} (hsession : w.session = s.world.session)
    (hfallbacks : w.fallbacks = s.world.fallbacks) (hlaunch : Launch s.world.session w.pc) :
    Specified arith { s with world := w } where
  fallbacks := hfallbacks.trans h.fallbacks
  launch := by dsimp only; rw [hsession]; exact hlaunch
  idle hnone := h.idle (hsession ▸ hnone)
  worker worker hworker := by
    dsimp only at hworker ⊢
    rw [hsession] at hworker ⊢
    exact h.worker worker hworker

/-- A step of an activation before its worker exists. -/
theorem Specified.prepared {arith : Arithmetic} {s : ReceiveRun α τ} (h : s.Specified arith)
    {w : SessionWorld α τ} (hjoin : s.world.joinable = false)
    (hthread : w.session.receiveThread = s.world.session.receiveThread)
    (hfallbacks : w.fallbacks = s.world.fallbacks) (hlaunch : Launch w.session w.pc) :
    Specified arith { s with world := w } := by
  have hnone : s.world.session.receiveThread = none := by
    simpa [SessionWorld.joinable] using hjoin
  refine ⟨hfallbacks.trans h.fallbacks, hlaunch, fun _ => h.idle hnone, fun worker hworker => ?_⟩
  dsimp only at hworker
  rw [hthread, hnone] at hworker
  cases hworker

/-- Only the flags of the queue, which a read keeps, matter to the worker's record. -/
theorem flags_queue {s : RxStreamSession α} {queue : RxSampleQueue α} {receiveError : ℤ}
    {failed running queueFailed : Bool} (h : s.Flags receiveError failed running queueFailed)
    (hrunning : queue.running = s.queue.running) (hfailed : queue.failed = s.queue.failed) :
    ({ s with queue := queue } : RxStreamSession α).Flags receiveError failed running queueFailed :=
  { h with queueRunning := hrunning.trans h.queueRunning, queueFailed := hfailed.trans h.queueFailed }

theorem Specified.read {arith : Arithmetic} {s : ReceiveRun α τ} (h : s.Specified arith)
    {queue : RxSampleQueue α} (hrunning : queue.running = s.world.session.queue.running)
    (hfailed : queue.failed = s.world.session.queue.failed) :
    Specified arith { s with
      world := { s.world with session := { s.world.session with queue := queue } } } := by
  refine ⟨h.fallbacks, ?_, h.idle, fun worker hworker => ?_⟩
  · have hlaunch := h.launch
    dsimp only
    generalize s.world.pc = pc at hlaunch ⊢
    cases pc with
    | setRunning c =>
      obtain ⟨hc, h1, h2, h3, h4, h5, h6⟩ := hlaunch
      exact ⟨hc, h1, h2, h3, h4, hrunning.trans h5, hfailed.trans h6⟩
    | createThread c =>
      obtain ⟨hc, h1, h2, h3⟩ := hlaunch
      exact ⟨hc, h1, h2, flags_queue h3 hrunning hfailed⟩
    | _ => exact hlaunch
  · obtain ⟨hc, hat⟩ := h.worker worker hworker
    refine ⟨hc, ?_⟩
    dsimp only
    generalize worker.pc = pc at hat ⊢
    cases pc with
    | loop | receiving =>
      obtain ⟨h1, h2, h3, h4, h5⟩ := hat
      exact ⟨h1, h2, h3, h4, flags_queue h5 hrunning hfailed⟩
    | received | process =>
      obtain ⟨before, h1, h2, h3, h4, h5, h6⟩ := hat
      exact ⟨before, h1, h2, h3, h4, h5, flags_queue h6 hrunning hfailed⟩
    | push =>
      obtain ⟨before, result, h1, h2, h3, h4, h5, h6, h7, h8, h9⟩ := hat
      exact ⟨before, result, h1, h2, h3, h4, h5, h6, h7, h8, flags_queue h9 hrunning hfailed⟩
    | storeError =>
      obtain ⟨h1, h2, h3, h4⟩ := hat
      exact ⟨h1, h2, h3, flags_queue h4 hrunning hfailed⟩
    | storeFailed | storeStopped | storeQueue | finished =>
      obtain ⟨code, h1, h2, h3, h4⟩ := hat
      exact ⟨code, h1, h2, h3, flags_queue h4 hrunning hfailed⟩

/-- The new worker has received nothing. -/
theorem Specified.created {arith : Arithmetic} {s : ReceiveRun α τ} (h : s.Specified arith)
    {c : RxSessionConfiguration} (hpc : s.world.pc = .createThread c)
    (hjoin : s.world.joinable = false) :
    Specified arith { s with world := s.world.createThread c none } := by
  have hlaunch := h.launch
  rw [hpc] at hlaunch
  obtain ⟨hc, hoverruns, hgaps, hflags⟩ := hlaunch
  obtain ⟨houtcomes, hpushed⟩ := h.idle (by simpa [SessionWorld.joinable] using hjoin)
  refine ⟨h.fallbacks, trivial, by simp [SessionWorld.createThread, SessionWorld.leave,
    RxStreamSession.setThread], fun worker hworker => ?_⟩
  obtain rfl := Option.some.inj hworker
  dsimp only
  rw [houtcomes, hpushed]
  exact ⟨hc, by simp [RxSessionConfiguration.Nonterminal], ⟨hoverruns, hgaps⟩, rfl, rfl,
    { hflags with }⟩

end ReceiveRun

namespace ReceiveRun

theorem Specified.lifecycle {arith : Arithmetic} {s : ReceiveRun α τ} (h : s.Specified arith)
    (hs : s.world.Ownership) {input : LifecycleInput τ} {w : SessionWorld α τ}
    (hstep : s.world.lifecycleStep input = some w) : Specified arith { s with world := w } := by
  have hat := hs.atPc
  have hlaunch := h.launch
  unfold SessionWorld.lifecycleStep at hstep
  split at hstep
  case h_1 p hpc =>
    split at hstep <;> cases hstep <;> exact h.moved rfl rfl trivial
  case h_2 p hpc =>
    split at hstep <;> cases hstep <;> exact h.moved rfl rfl trivial
  case h_3 hpc =>
    split at hstep <;> cases hstep <;> exact h.moved rfl rfl trivial
  case h_4 timing thrown hpc =>
    cases hstep
    exact h.moved rfl rfl trivial
  case h_5 c prepare hpc =>
    split at hstep
    · cases hstep
      exact h.moved rfl rfl trivial
    · next hcheck =>
      split at hstep
      · cases hstep
        exact h.moved rfl rfl trivial
      · cases hstep
        exact h.moved rfl rfl hcheck
  case h_6 c prepare result hpc =>
    rw [hpc] at hat hlaunch
    have hjoin := (SessionWorld.owned_eq_false.mp hat.1).2
    cases hstep
    unfold SessionWorld.started
    cases result with
    | error e => exact h.moved rfl rfl trivial
    | ok status =>
      dsimp only
      split
      · exact h.moved rfl rfl trivial
      · exact h.prepared hjoin rfl rfl ⟨hlaunch, rfl, rfl, rfl, rfl⟩
  case h_7 c hpc =>
    rw [hpc] at hat hlaunch
    obtain ⟨hc, h1, h2, h3, h4⟩ := hlaunch
    cases hstep
    exact h.prepared hat.2.1 rfl rfl ⟨hc, h1, h2, h3, h4, rfl, rfl⟩
  case h_8 c hpc =>
    rw [hpc] at hat hlaunch
    obtain ⟨hc, h1, h2, h3, h4, h5, h6⟩ := hlaunch
    cases hstep
    exact h.prepared hat.2.1 rfl rfl ⟨hc, h1, h2, ⟨h3, h4, rfl, h5, h6⟩⟩
  case h_9 c hpc =>
    rw [hpc] at hat
    cases hstep
    exact h.created hpc hat.2.1
  case h_10 c e hpc =>
    cases hstep
    exact h.moved rfl rfl trivial
  case h_11 c e hpc =>
    rw [hpc] at hat
    cases hstep
    exact h.prepared hat.2.1 rfl rfl trivial
  case h_12 c e hpc =>
    rw [hpc] at hat
    cases hstep
    exact h.prepared hat.2.1 rfl rfl trivial
  case h_13 c e result hpc =>
    rw [hpc] at hat
    cases hstep
    exact h.prepared hat.2.1 rfl rfl trivial
  case h_14 onPps quiet hpc => rw [hpc] at hlaunch; exact hlaunch.elim
  case h_15 onPps quiet hpc => rw [hpc] at hlaunch; exact hlaunch.elim
  case h_16 onPps quiet hpc => rw [hpc] at hlaunch; exact hlaunch.elim
  case h_17 onPps quiet result hpc => rw [hpc] at hlaunch; exact hlaunch.elim
  case h_18 result quiet hpc => rw [hpc] at hlaunch; exact hlaunch.elim
  case h_19 => cases hstep

theorem Specified.stepped {arith : Arithmetic} {s : ReceiveRun α τ} (h : s.Specified arith)
    (hs : s.world.Ownership) {worker : Worker α} (hworker : s.world.session.receiveThread = some worker)
    {incoming : ReceiveEnd α} {session : RxStreamSession α}
    (hstep : s.world.session.workerStep arith worker incoming = some session) :
    Specified arith ⟨{ s.world with session := session }, s.outcomes ++ worker.received incoming,
      s.pushed ++ worker.enqueued arith s.world.session.queue⟩ := by
  obtain ⟨hc, hat⟩ := h.worker worker hworker
  obtain ⟨last, pc, hthread, hafter⟩ := RxStreamSession.workerStep_at hc hat hstep
  refine ⟨h.fallbacks, ?_, ?_, fun worker' hworker' => ?_⟩
  · have hlaunch := h.launch
    have hatPc := hs.atPc
    have hjoin : s.world.joinable = true := by simp [SessionWorld.joinable, hworker]
    dsimp only
    generalize s.world.pc = pc at hlaunch hatPc ⊢
    cases pc with
    | startQueue | setRunning | createThread => simp [hatPc.2.1] at hjoin
    | _ => exact hlaunch
  · intro hnone
    dsimp only at hnone
    rw [hthread] at hnone
    cases hnone
  · dsimp only at hworker'
    rw [hthread] at hworker'
    cases hworker'
    exact ⟨hc, hafter⟩

theorem Specified.step {arith : Arithmetic} {s t : ReceiveRun α τ} (h : s.Specified arith)
    (hs : s.world.Ownership) {a : SessionAction α τ} (hquiet : a.deactivates = false)
    (hnext : s.next arith a = some t) : t.Specified arith := by
  obtain ⟨w, hw, rfl⟩ := Option.map_eq_some_iff.mp hnext
  cases a with
  | call call =>
    simp only [SessionWorld.next] at hw
    split at hw
    · cases hw
      simp only [SessionWorld.received, SessionWorld.enqueued, List.append_nil]
      cases call with
      | deactivate | shutdown => cases hquiet
      | _ => exact h.moved rfl rfl trivial
    · cases hw
  | lifecycle input =>
    simp only [SessionWorld.received, SessionWorld.enqueued, List.append_nil]
    exact h.lifecycle hs hw
  | worker incoming =>
    simp only [SessionWorld.next] at hw
    split at hw
    · cases hw
    · next worker hworker =>
      obtain ⟨session, hstep, rfl⟩ := Option.map_eq_some_iff.mp hw
      simp only [SessionWorld.received, SessionWorld.enqueued, hworker, Option.map_some,
        Option.getD_some]
      exact h.stepped hs hworker hstep
  | fallback index =>
    simp only [SessionWorld.next, SessionWorld.fallbackStep, h.fallbacks] at hw
    simp at hw
  | read output requested timeoutUs =>
    cases hw
    simp only [SessionWorld.received, SessionWorld.enqueued, List.append_nil]
    obtain ⟨hrunning, hfailed⟩ :=
      RxSampleQueue.read_flags arith s.world.session.queue output requested timeoutUs
    exact h.read hrunning hfailed

/-- An inactive session, with nothing received by a worker of its next activation. -/
theorem specified_inactive (arith : Arithmetic) {w : SessionWorld α τ} (hfree : w.pc = .free)
    (howned : w.owned = false) (hfallbacks : w.fallbacks = []) :
    Specified arith ⟨w, [], []⟩ := by
  have hnone : w.session.receiveThread = none := by
    simpa [SessionWorld.joinable] using (SessionWorld.owned_eq_false.mp howned).2
  refine ⟨hfallbacks, ?_, fun _ => ⟨rfl, rfl⟩, fun worker hworker => ?_⟩
  · dsimp only
    rw [hfree]
    trivial
  · dsimp only at hworker
    rw [hnone] at hworker
    cases hworker

theorem Specified.run {arith : Arithmetic} {s t : ReceiveRun α τ} (h : s.Specified arith)
    (hs : s.world.Ownership) {actions : List (SessionAction α τ)}
    (hquiet : ∀ a ∈ actions, a.deactivates = false)
    (hrun : Transition.run (next arith) s actions = some t) :
    t.world.Ownership ∧ t.Specified arith := by
  induction actions generalizing s with
  | nil => cases hrun; exact ⟨hs, h⟩
  | cons a actions ih =>
    obtain ⟨u, ha, hrest⟩ := run_cons.mp hrun
    have hu : u.world.Ownership := by
      obtain ⟨w, hw, rfl⟩ := Option.map_eq_some_iff.mp ha
      exact hs.next a hw
    exact ih (h.step hs (hquiet a List.mem_cons_self) ha) hu
      (fun b hb => hquiet b (List.mem_cons_of_mem _ hb)) hrest

/-! ## Progress -/

/-- How many steps of its own the worker is at most away from its loop or its end. -/
def rank : WorkerPc α → ℕ
  | .loop | .finished => 0
  | .storeQueue => 1
  | .storeStopped => 2
  | .storeFailed => 3
  | .storeError _ => 4
  | .push _ _ => 5
  | .process _ => 6
  | .received _ => 7
  | .receiving => 8

theorem workerStep_rank {arith : Arithmetic} {s t : RxStreamSession α} {w : Worker α}
    {incoming : ReceiveEnd α} (hstep : s.workerStep arith w incoming = some t)
    (hpc : 0 < rank w.pc) :
    ∃ w', t.receiveThread = some w' ∧ w'.configuration = w.configuration ∧
      rank w'.pc < rank w.pc := by
  obtain ⟨c, last, pc⟩ := w
  cases pc with
  | loop | finished => cases hpc
  | receiving =>
    cases incoming <;> cases hstep <;> exact ⟨_, rfl, rfl, by simp [rank, Worker.goto]⟩
  | received result =>
    simp only [RxStreamSession.workerStep] at hstep
    cases hstep
    refine ⟨_, rfl, rfl, ?_⟩
    cases s.running <;> simp [rank, Worker.goto]
  | process result =>
    cases hstep
    unfold RxStreamSession.processResult
    split
    · exact ⟨_, rfl, rfl, by simp [rank, Worker.goto]⟩
    · exact ⟨_, rfl, rfl, by simp [rank, Worker.goto]⟩
    · exact ⟨_, rfl, rfl, by simp [rank, Worker.goto]⟩
    · split
      · exact ⟨_, rfl, rfl, by simp [rank, Worker.goto]⟩
      · split <;> exact ⟨_, rfl, rfl, by simp [rank, Worker.goto]⟩
  | push samples timestamp =>
    simp only [RxStreamSession.workerStep] at hstep
    split at hstep <;> cases hstep <;> exact ⟨_, rfl, rfl, by simp [rank, Worker.goto]⟩
  | storeError | storeFailed | storeStopped | storeQueue =>
    cases hstep
    exact ⟨_, rfl, rfl, by simp [rank, Worker.goto]⟩

theorem workerStep_enabled (arith : Arithmetic) (s : RxStreamSession α) (w : Worker α)
    (incoming : ReceiveEnd α) (hpc : 0 < rank w.pc) : ∃ t, s.workerStep arith w incoming = some t := by
  obtain ⟨c, last, pc⟩ := w
  cases pc with
  | loop | finished => cases hpc
  | receiving => cases incoming <;> exact ⟨_, rfl⟩
  | push samples timestamp =>
    simp only [RxStreamSession.workerStep]
    split <;> exact ⟨_, rfl⟩
  | _ => exact ⟨_, rfl⟩

theorem next_worker {arith : Arithmetic} {s : ReceiveRun α τ} {w : Worker α} {incoming : ReceiveEnd α}
    {session : RxStreamSession α} (hw : s.world.session.receiveThread = some w)
    (hstep : s.world.session.workerStep arith w incoming = some session) :
    next arith s (.worker incoming) = some ⟨{ s.world with session := session },
      s.outcomes ++ w.received incoming, s.pushed ++ w.enqueued arith s.world.session.queue⟩ := by
  simp only [next, SessionWorld.next, hw, hstep, Option.map_some, SessionWorld.received,
    SessionWorld.enqueued, Option.getD_some]

/-- A worker that has its result comes back to its loop, or to its end, without receiving more. -/
theorem finish_result (arith : Arithmetic) (s : ReceiveRun α τ) {w : Worker α}
    (hw : s.world.session.receiveThread = some w) (hreceiving : rank w.pc < 8) :
    ∃ actions t w', (∀ a ∈ actions, a.deactivates = false) ∧
      Transition.run (next arith) s actions = some t ∧ t.outcomes = s.outcomes ∧
      t.world.session.receiveThread = some w' ∧ w'.configuration = w.configuration ∧
      rank w'.pc = 0 := by
  induction hrank : rank w.pc using Nat.strongRecOn generalizing s w with
  | ind n ih =>
    subst hrank
    rcases Nat.eq_zero_or_pos (rank w.pc) with hzero | hpos
    · exact ⟨[], s, w, by simp, rfl, rfl, hw, rfl, hzero⟩
    · obtain ⟨session, hstep⟩ := workerStep_enabled arith s.world.session w (.error .foreign) hpos
      obtain ⟨w₁, hw₁, hconfig, hlt⟩ := workerStep_rank hstep hpos
      have hreceived : w.received (.error .foreign) = [] := by
        obtain ⟨c, last, pc⟩ := w
        cases pc with
        | receiving => exact absurd hreceiving (Nat.lt_irrefl 8)
        | _ => rfl
      have hnext := next_worker hw hstep
      rw [hreceived, List.append_nil] at hnext
      obtain ⟨actions, t, w', hquiet, hrun, hout, hw', hconfig', hzero⟩ :=
        ih (rank w₁.pc) hlt ⟨{ s.world with session := session }, s.outcomes,
          s.pushed ++ w.enqueued arith s.world.session.queue⟩ hw₁ (hlt.trans hreceiving) rfl
      refine ⟨.worker (.error .foreign) :: actions, t, w', ?_, run_cons.mpr ⟨_, hnext, hrun⟩, hout,
        hw', hconfig'.trans hconfig, hzero⟩
      intro a ha
      rcases List.mem_cons.mp ha with rfl | ha
      · rfl
      · exact hquiet a ha

end ReceiveRun

namespace ReceiveRun

/-- A worker in its loop takes one more result, whatever it is. -/
theorem take_result {arith : Arithmetic} {s : ReceiveRun α τ} (h : s.Specified arith)
    {w : Worker α} (hw : s.world.session.receiveThread = some w) (hpc : w.pc = .loop)
    (incoming : ReceiveEnd α) :
    ∃ actions t w', (∀ a ∈ actions, a.deactivates = false) ∧
      Transition.run (next arith) s actions = some t ∧ t.outcomes = s.outcomes ++ [incoming] ∧
      t.world.session.receiveThread = some w' ∧ w'.configuration = w.configuration ∧
      rank w'.pc = 0 := by
  obtain ⟨c, last, pc⟩ := w
  obtain rfl : pc = .loop := hpc
  obtain ⟨-, -, -, -, -, hflags⟩ := h.worker _ hw
  have hrunning := hflags.running
  have hloop : s.world.session.workerStep arith ⟨c, last, .loop⟩ incoming =
      some (s.world.session.setThread ⟨c, last, .receiving⟩) := by
    simp [RxStreamSession.workerStep, hrunning, Worker.goto]
  obtain ⟨s₁, hs₁, hw₁, hout₁⟩ : ∃ s₁, next arith s (.worker incoming) = some s₁ ∧
      s₁.world.session.receiveThread = some ⟨c, last, .receiving⟩ ∧ s₁.outcomes = s.outcomes :=
    ⟨_, next_worker hw hloop, rfl, List.append_nil _⟩
  obtain ⟨s₂, w₂, hs₂, hw₂, hconfig₂, hout₂, hrank₂⟩ :
      ∃ s₂ w₂, next arith s₁ (.worker incoming) = some s₂ ∧
        s₂.world.session.receiveThread = some w₂ ∧ w₂.configuration = c ∧
        s₂.outcomes = s₁.outcomes ++ [incoming] ∧ rank w₂.pc < 8 := by
    cases incoming with
    | error e => exact ⟨_, _, next_worker hw₁ rfl, rfl, rfl, rfl, by simp [rank, Worker.goto]⟩
    | ok result => exact ⟨_, _, next_worker hw₁ rfl, rfl, rfl, rfl, by simp [rank, Worker.goto]⟩
  obtain ⟨actions, t, w', hquiet, hrun, hout, hw', hconfig, hzero⟩ :=
    finish_result arith s₂ hw₂ hrank₂
  refine ⟨.worker incoming :: .worker incoming :: actions, t, w', ?_,
    run_cons.mpr ⟨s₁, hs₁, run_cons.mpr ⟨s₂, hs₂, hrun⟩⟩, ?_, hw', hconfig.trans hconfig₂, hzero⟩
  · intro a ha
    rcases List.mem_cons.mp ha with rfl | ha
    · rfl
    · rcases List.mem_cons.mp ha with rfl | ha
      · rfl
      · exact hquiet a ha
  · rw [hout, hout₂, hout₁]

/-- A worker in its loop takes any results up to the first terminal one. -/
theorem take_results {arith : Arithmetic} {s : ReceiveRun α τ} (h : s.Specified arith)
    (hs : s.world.Ownership) {w : Worker α} (hw : s.world.session.receiveThread = some w)
    (hpc : w.pc = .loop) (results : List (ReceiveEnd α)) :
    ∃ actions t w', (∀ a ∈ actions, a.deactivates = false) ∧
      Transition.run (next arith) s actions = some t ∧
      t.outcomes = s.outcomes ++ w.configuration.upToTerminal results ∧
      t.world.session.receiveThread = some w' ∧ (w'.pc = .loop ∨ w'.pc = .finished) := by
  induction results generalizing s w with
  | nil =>
    exact ⟨[], s, w, by simp, rfl, by simp [RxSessionConfiguration.upToTerminal], hw, .inl hpc⟩
  | cons incoming results ih =>
    obtain ⟨actions, t, w', hquiet, hrun, hout, hw', hconfig, hzero⟩ :=
      take_result h hw hpc incoming
    obtain ⟨ht, hspec⟩ := h.run hs hquiet hrun
    have hat := (hspec.worker w' hw').2
    rw [hconfig] at hat
    cases hpc' : w'.pc with
    | loop =>
      rw [hpc', hout] at hat
      have hnone : w.configuration.terminal incoming = none := hat.1 incoming (by simp)
      obtain ⟨actions', t', w'', hquiet', hrun', hout', hw'', hend⟩ := ih hspec ht hw' hpc'
      refine ⟨actions ++ actions', t', w'', ?_, run_append.mpr ⟨t, hrun, hrun'⟩, ?_, hw'', hend⟩
      · intro a ha
        exact (List.mem_append.mp ha).elim (hquiet a) (hquiet' a)
      · rw [hout', hout, hconfig]
        simp [RxSessionConfiguration.upToTerminal, hnone]
    | finished =>
      rw [hpc', hout] at hat
      obtain ⟨code, ⟨before, last, hsplit, -, hcode⟩, -⟩ := hat
      obtain ⟨-, hlast⟩ := List.append_inj' hsplit rfl
      cases hlast
      refine ⟨actions, t, w', hquiet, hrun, ?_, hw', .inr hpc'⟩
      rw [hout]
      simp [RxSessionConfiguration.upToTerminal, hcode]
    | _ => simp [hpc', rank] at hzero

/-! ## The theorem -/

/-- The worker with configuration `c` at `pc`, against the results that it has received. -/
structure ReceiveContract (arith : Arithmetic) (s : ReceiveRun α τ) (c : RxSessionConfiguration)
    (pc : WorkerPc α) : Prop where
  /-- Nothing is received after the first terminal result. -/
  last : ∀ before received after, s.outcomes = before ++ received :: after →
    (c.terminal received).isSome = true → after = []
  settled : pc = .loop ∨ pc = .receiving ∨ pc = .finished →
    s.pushed = s.outcomes.filterMap (c.block arith) ∧
    s.world.session.hardwareOverruns = s.outcomes.countP RxSessionConfiguration.isOverrun ∧
    s.world.session.timestampDiscontinuities = c.gaps (c.timestamps s.outcomes)
  live : pc = .loop ∨ pc = .receiving → (∀ received ∈ s.outcomes, c.terminal received = none) ∧
    s.world.session.Flags 0 false true false
  ended : pc = .finished → ∃ received ∈ s.outcomes, ∃ code, c.terminal received = some code ∧
    s.world.session.Flags code true false true
  /-- The error code is published before `failed_`, that before `running_`, and that before the
  failure of the queue. -/
  code : s.world.session.failed = true →
    ∃ received ∈ s.outcomes, c.terminal received = some s.world.session.receiveError
  stopped : s.world.session.running = false → s.world.session.failed = true
  queue : s.world.session.queue.failed = true ∨ s.world.session.queue.running = false →
    s.world.session.running = false
  /-- Any results can follow, and the worker takes them up to the first terminal one. -/
  takes : pc = .loop → ∀ results, ∃ actions t w', (∀ a ∈ actions, a.deactivates = false) ∧
    Transition.run (next arith) s actions = some t ∧
    t.outcomes = s.outcomes ++ c.upToTerminal results ∧
    t.world.session.receiveThread = some w' ∧ (w'.pc = .loop ∨ w'.pc = .finished)

theorem Nonterminal.last {c : RxSessionConfiguration} {outcomes before after : List (ReceiveEnd α)}
    {received : ReceiveEnd α} (h : c.Nonterminal outcomes)
    (hsplit : outcomes = before ++ received :: after) : c.terminal received = none :=
  h received (by simp [hsplit])

/-- After results that are not terminal, only the last one can be. -/
theorem terminal_last {c : RxSessionConfiguration} {before : List (ReceiveEnd α)}
    {newest : ReceiveEnd α} (h : c.Nonterminal before) {earlier after : List (ReceiveEnd α)}
    {received : ReceiveEnd α} (hsplit : before ++ [newest] = earlier ++ received :: after)
    (hterminal : (c.terminal received).isSome = true) : after = [] := by
  rcases List.eq_nil_or_concat after with rfl | ⟨rest, last, rfl⟩
  · rfl
  · have hsplit' : before ++ [newest] = (earlier ++ received :: rest) ++ [last] := by
      simpa using hsplit
    obtain ⟨rfl, -⟩ := List.append_inj' hsplit' rfl
    simp [h received (by simp)] at hterminal

theorem Specified.last {arith : Arithmetic} {s : ReceiveRun α τ} {c : RxSessionConfiguration}
    {last : Option UInt64} {pc : WorkerPc α}
    (h : s.world.session.AtWorker arith c s.outcomes s.pushed last pc)
    {before after : List (ReceiveEnd α)} {received : ReceiveEnd α}
    (hsplit : s.outcomes = before ++ received :: after)
    (hterminal : (c.terminal received).isSome = true) : after = [] := by
  cases pc with
  | loop | receiving => simp [h.1 received (by simp [hsplit])] at hterminal
  | received | process =>
    obtain ⟨earlier, hout, hnone, -⟩ := h
    exact terminal_last hnone (hout.symm.trans hsplit) hterminal
  | push =>
    obtain ⟨earlier, result, hout, -, -, -, hnone, -⟩ := h
    exact terminal_last hnone (hout.symm.trans hsplit) hterminal
  | storeError =>
    obtain ⟨⟨earlier, newest, hout, hnone, -⟩, -⟩ := h
    exact terminal_last hnone (hout.symm.trans hsplit) hterminal
  | storeFailed | storeStopped | storeQueue | finished =>
    obtain ⟨code, ⟨earlier, newest, hout, hnone, -⟩, -⟩ := h
    exact terminal_last hnone (hout.symm.trans hsplit) hterminal

/-- Where the worker stands in the publications of a failure. -/
theorem flags_of {arith : Arithmetic} {s : RxStreamSession α} {c : RxSessionConfiguration}
    {outcomes : List (ReceiveEnd α)} {pushed : List (Block α)} {last : Option UInt64}
    {pc : WorkerPc α} (h : s.AtWorker arith c outcomes pushed last pc) :
    s.Flags 0 false true false ∨ ∃ code failed running queueFailed, c.Ended outcomes code ∧
      s.Flags code failed running queueFailed ∧ (running = false → failed = true) ∧
      (queueFailed = true → running = false) := by
  cases pc with
  | loop | receiving => exact .inl h.2.2.2.2
  | received | process => obtain ⟨_, _, _, _, _, _, hflags⟩ := h; exact .inl hflags
  | push => obtain ⟨_, _, _, _, _, _, _, _, _, _, hflags⟩ := h; exact .inl hflags
  | storeError => exact .inl h.2.2.2
  | storeFailed | storeStopped | storeQueue | finished =>
    obtain ⟨code, hended, -, -, hflags⟩ := h
    exact .inr ⟨code, _, _, _, hended, hflags, by decide, by decide⟩

theorem ended_mem {c : RxSessionConfiguration} {outcomes : List (ReceiveEnd α)} {code : ℤ}
    (h : c.Ended outcomes code) : ∃ received ∈ outcomes, c.terminal received = some code := by
  obtain ⟨before, received, rfl, -, hcode⟩ := h
  exact ⟨received, by simp, hcode⟩

/-- The receive worker, in every run of a session from its activation on in which nobody requests a
deactivation: what it pushes, counts and publishes is determined by the results that it has received,
up to the first terminal one. -/
theorem receive_worker_specified (arith : Arithmetic) {capacity : ℕ} {timing : τ}
    {w₀ w : SessionWorld α τ} (hcreate : SessionWorld.create capacity timing = .ok w₀)
    {earlier : List (SessionAction α τ)}
    (hearlier : Transition.run (SessionWorld.next arith) w₀ earlier = some w) (hfree : w.pc = .free)
    (howned : w.owned = false) (hfallbacks : w.fallbacks = []) {actions : List (SessionAction α τ)}
    (hquiet : ∀ a ∈ actions, a.deactivates = false) {s : ReceiveRun α τ}
    (hrun : Transition.run (next arith) ⟨w, [], []⟩ actions = some s) {worker : Worker α}
    (hworker : s.world.session.receiveThread = some worker) :
    s.ReceiveContract arith worker.configuration worker.pc := by
  have hw : w.Ownership := run_invariant (fun _ a _ hs hn => hs.next a hn)
    (SessionWorld.Ownership.create hcreate) hearlier
  obtain ⟨hs, hspec⟩ :=
    (specified_inactive arith hfree howned hfallbacks).run hw hquiet hrun
  obtain ⟨hc, hat⟩ := hspec.worker worker hworker
  have hflags := flags_of hat
  refine
    { last := fun before received after hsplit hterminal => Specified.last hat hsplit hterminal
      settled := fun hpc => ?_
      live := fun hpc => ?_
      ended := fun hpc => ?_
      code := fun hfailed => ?_
      stopped := fun hstopped => ?_
      queue := fun hqueue => ?_
      takes := fun hpc results => take_results hspec hs hworker hpc results }
  · rcases hpc with hpc | hpc | hpc <;> rw [hpc] at hat
    · exact ⟨hat.2.2.1, hat.2.1⟩
    · exact ⟨hat.2.2.1, hat.2.1⟩
    · obtain ⟨code, -, hcounted, hpushed, -⟩ := hat
      exact ⟨hpushed, hcounted⟩
  · rcases hpc with hpc | hpc <;> rw [hpc] at hat <;> exact ⟨hat.1, hat.2.2.2.2⟩
  · rw [hpc] at hat
    obtain ⟨code, hended, -, -, hflags⟩ := hat
    obtain ⟨received, hreceived, hcode⟩ := ended_mem hended
    exact ⟨received, hreceived, code, hcode, hflags⟩
  · rcases hflags with hflags | ⟨code, _, _, _, hended, hflags, -⟩
    · simp [hflags.failed] at hfailed
    · rw [hflags.receiveError]
      exact ended_mem hended
  · rcases hflags with hflags | ⟨code, failed, running, queueFailed, -, hflags, hstop, -⟩
    · simp [hflags.running] at hstopped
    · exact hflags.failed.trans (hstop (hflags.running.symm.trans hstopped))
  · rcases hflags with hflags | ⟨code, failed, running, queueFailed, -, hflags, -, hqueue'⟩
    · simp [hflags.queueFailed, hflags.queueRunning] at hqueue
    · refine hflags.running.trans (hqueue' ?_)
      rw [hflags.queueFailed, hflags.queueRunning] at hqueue
      cases queueFailed <;> simp_all

end ReceiveRun

namespace ReceiveRun

/-- Two blocks with a gap between them, around an overrun and a block of another handle, and then an
error of the backend. -/
def sampleResults : List (ReceiveEnd ℤ) :=
  let block (handle : UInt32) (timestamp : UInt64) : ReceiveEnd ℤ :=
    .ok ⟨.success, handle, ⟨[1, 2, 3, 4], by decide⟩, timestamp, 0, 0⟩
  [block 7 10, .ok ⟨.overrun, 0, ⟨[], by decide⟩, 0, 0, 0⟩, block 8 50, block 7 13,
    .ok ⟨.error, 0, ⟨[], by decide⟩, 0, 0, 9⟩]

/-- An activation whose worker receives these results. -/
def sampleRun : List (SessionAction ℤ (RxTiming UInt64)) :=
  let take (steps : ℕ) (received : ReceiveEnd ℤ) : List (SessionAction ℤ (RxTiming UInt64)) :=
    List.replicate steps (.worker received)
  SessionWorld.sampleActivation 2 ++ [.lifecycle (.backend (.ok 0)), .lifecycle .proceed,
    .lifecycle .proceed, .lifecycle .proceed] ++
    (List.zipWith take [5, 4, 4, 5, 8] sampleResults).flatten

theorem receive_worker_specified_error :
    ∃ (s : ReceiveRun ℤ (RxTiming UInt64)) (c : RxSessionConfiguration),
      Transition.run (next .int128) ⟨SessionWorld.sampleSession, [], []⟩ sampleRun = some s ∧
      s.ReceiveContract .int128 c .finished ∧ s.outcomes = sampleResults ∧ s.pushed.length = 2 ∧
      s.world.session.hardwareOverruns = 1 ∧ s.world.session.timestampDiscontinuities = 1 ∧
      s.world.session.receiveError = 9 := by
  have hcreate : SessionWorld.create 4 SessionWorld.sampleSession.timing =
      .ok SessionWorld.sampleSession := rfl
  have hquiet : ∀ a ∈ sampleRun, a.deactivates = false := by
    simp [sampleRun, SessionWorld.sampleActivation, sampleResults, SessionAction.deactivates]
  have hearlier : Transition.run (SessionWorld.next .int128) SessionWorld.sampleSession [] =
      some SessionWorld.sampleSession := rfl
  exact ⟨_, _, rfl, receive_worker_specified .int128 hcreate hearlier rfl rfl rfl hquiet rfl rfl,
    rfl, rfl, rfl, rfl, rfl⟩

end ReceiveRun

end SoapySidekiq
