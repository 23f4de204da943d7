import Mathlib.Algebra.Group.Nat.Defs
import SoapySidekiq.Foundations.Monitor
import SoapySidekiq.Tx.Gate

/-! # Underrun events

The TX system beside the SDK's underrun counter, with a record of what the status calls have read. The
counter starts at zero with every successful start and grows until the next one. Between
`tx_status_mutex` and the gate, the host's baseline is the last reading of the activation whenever a
call can compare with it. -/
set_option autoImplicit false

namespace SoapySidekiq

/-! ## The counter beside the system -/

/-- A successful reading of the counter, by a status call, which has reported an underflow or not. -/
structure UnderrunReading where
  poller : ℕ
  errors : ℕ
  reported : Bool

/-- The last reading, or zero in front of the first. -/
def lastReading (readings : List UnderrunReading) : ℕ :=
  Monitor.after (fun _ (r : UnderrunReading) => r.errors) 0 readings

/-- The call ends with an underflow. -/
def Poller.underflowed (p : Poller) : Bool :=
  match p.pc with
  | .leaving status | .notifying status | .returned status => status == soapyUnderflow
  | _ => false

/-- The step is the return of a start of the hardware that has succeeded. -/
def TxSystem.starts (s : TxSystem) : TxAction → Bool
  | .lifecycle (.sdk status) =>
    match s.lifecycle with
    | .starting _ => status == 0
    | _ => false
  | .pps (.ok status) =>
    match s.device.txStreamingThread with
    | some (.starting _) => status == 0
    | _ => false
  | _ => false

structure CountedTx where
  system : TxSystem
  /-- The SDK's underrun counter. -/
  counter : ℕ
  /-- The count that the SDK has taken for a call that is in its read. -/
  taken : ℕ → ℕ
  /-- The readings since the last successful start, in the order in which they were compared. -/
  readings : List UnderrunReading
  /-- The readings of the activations before, newest first. -/
  earlier : List (List UnderrunReading)

inductive CountedAction where
  | tx (action : TxAction)
  | underruns (count : ℕ)
  /-- The SDK takes the count for a call that is in its read. -/
  | take (id : ℕ)

namespace CountedTx

/-- The counter and the record after a step of the system. -/
def observe (s : CountedTx) (a : TxAction) (t : TxSystem) : Option CountedTx :=
  if s.system.starts a then
    some { s with system := t, counter := 0, readings := [], earlier := s.readings :: s.earlier }
  else
    match a with
    | .poller id .run =>
      some { s with system := t, taken := Function.update s.taken id s.counter }
    | .poller id (.sdk status errors) =>
      if status ≠ 0 then some { s with system := t }
      else if errors.toNat = s.taken id then
        some { s with
          system := t
          readings := s.readings ++ [⟨id, s.taken id, (t.pollers[id]?.map Poller.underflowed).getD false⟩] }
      else none
    | _ => some { s with system := t }

def next (s : CountedTx) : CountedAction → Option CountedTx
  | .tx a => (s.system.next a).bind (s.observe a)
  | .underruns count =>
    -- The counter does not wrap.
    if s.counter + count < 2 ^ 32 then some { s with counter := s.counter + count } else none
  | .take id =>
    if (s.system.pollers[id]?.map Poller.inRead).getD false then
      some { s with taken := Function.update s.taken id s.counter }
    else none

def create (config : TxConfiguration) : CountedTx := ⟨.create config, 0, fun _ => 0, [], []⟩

def Reachable (config : TxConfiguration) (s : CountedTx) : Prop :=
  ∃ actions, Transition.run next (create config) actions = some s

end CountedTx

/-! ## Status calls -/

namespace Poller

@[simp] theorem wakeChanged_inRead (p : Poller) : p.wakeChanged.inRead = p.inRead :=
  wakeChanged_keeps inRead p fun hpc => by simp [inRead, goto, hpc]

@[simp] theorem wakeChanged_holdsStatus (p : Poller) :
    p.wakeChanged.holds .status = p.holds .status :=
  wakeChanged_keeps (fun p => p.holds .status) p fun hpc => by simp [holds, goto, hpc]

@[simp] theorem wakeChanged_underflowed (p : Poller) : p.wakeChanged.underflowed = p.underflowed :=
  wakeChanged_keeps underflowed p fun hpc => by simp [underflowed, goto, hpc]

theorem inRead_holdsStatus {p : Poller} (h : p.inRead = true) : p.holds .status = true := by
  cases hpc : p.pc <;> simp [inRead, hpc] at h
  simp [holds, hpc]

end Poller

namespace TxDevice

/-- The start on the PPS is pending: the gate is shut and the worker has published nothing. -/
def Pending (d : TxDevice) : Prop := d.firstTransmit = true ∧ d.txStartFinished = false

end TxDevice

/-- Only `tx_status_mutex` lets a call in front of the SDK read. -/
theorem status_lock {free : Mutex → Bool} {d d' : TxDevice} {p p' : Poller} {input : StatusInput}
    (h : d.pollerStep free p input = some (d', p')) (hp' : p'.holds .status = true) :
    p.holds .status = true ∨ free .status = true := by
  cases poller_move h with
  | statusLocked hpc =>
    cases input with
    | run =>
      refine .inr ?_
      by_contra hfree
      simp [TxDevice.pollerStep, hpc, hfree] at h
    | timeout | wake | sdk => simp_all [TxDevice.pollerStep, Poller.goto]
  | _ => simp_all [Poller.holds]

/-- A call comes to the read from the check, which has found that no start is pending. -/
theorem reading_checked {free : Mutex → Bool} {d d' : TxDevice} {p p' : Poller} {input : StatusInput}
    (h : d.pollerStep free p input = some (d', p')) (hp' : p'.inRead = true) :
    input = .run ∧ ¬ d.Pending ∧ p.holds .status = true := by
  cases poller_move h with
  | reads hpc =>
    cases input with
    | run =>
      refine ⟨rfl, fun hpending => ?_, by simp [Poller.holds, hpc]⟩
      simp only [TxDevice.pollerStep, hpc, TxDevice.checkGate, hpending.1, hpending.2,
        Option.some.injEq] at h
      split at h <;> simp_all [Poller.goto]
    | timeout | wake | sdk => simp_all [TxDevice.pollerStep]
  | _ => simp_all [Poller.inRead]

/-- The end of a successful read: the comparison with the baseline and the new baseline. -/
theorem reading_compared {free : Mutex → Bool} {d d' : TxDevice} {p p' : Poller} {errors : UInt32}
    (h : d.pollerStep free p (.sdk 0 errors) = some (d', p')) :
    p.inRead = true ∧ d'.txUnderruns = errors ∧ p'.underflowed = decide (d.txUnderruns < errors) := by
  simp only [TxDevice.pollerStep] at h
  split at h
  · next hpc =>
    simp only [TxDevice.readUnderruns, ne_eq, not_true_eq_false, if_false, Option.some.injEq] at h
    split at h
    · next hgt =>
      cases h
      exact ⟨by simp [Poller.inRead, hpc], rfl, by simpa [Poller.underflowed] using hgt⟩
    · next hgt =>
      cases h
      exact ⟨by simp [Poller.inRead, hpc], rfl, by simpa [Poller.underflowed] using hgt⟩
  · cases h

/-- Every other step of a status call keeps the baseline and does not decide on an underflow. -/
theorem poller_quiet {free : Mutex → Bool} {d d' : TxDevice} {p p' : Poller} {input : StatusInput}
    (h : d.pollerStep free p input = some (d', p')) (hinput : ∀ errors, input ≠ .sdk 0 errors) :
    d'.txUnderruns = d.txUnderruns ∧ p'.underflowed = p.underflowed := by
  cases poller_move h with
  | unchecked status hpc hcheck =>
    have hstatus : status = soapyStreamError := by
      unfold TxDevice.checkStatus at hcheck
      split at hcheck
      · cases hcheck; rfl
      · split at hcheck <;> cases hcheck; rfl
    subst hstatus
    exact ⟨rfl, by simp [Poller.underflowed, hpc, soapyStreamError, soapyUnderflow]⟩
  | readMore errors hpc | readNone errors hpc =>
    cases input with
    | sdk status errors' =>
      have hstatus : status ≠ 0 := fun hzero => hinput errors' (by rw [hzero])
      simp [TxDevice.pollerStep, hpc, TxDevice.readUnderruns, hstatus, Poller.goto,
        soapyStreamError, soapyUnderflow] at h
    | run | timeout | wake => simp [TxDevice.pollerStep, hpc] at h
  | readFailed status hpc => exact ⟨rfl, by simp [Poller.underflowed, hpc, soapyStreamError, soapyUnderflow]⟩
  | _ => simp_all [Poller.underflowed, soapyStreamError, soapyUnderflow, soapyTimeout]

/-! ## The baseline under the other steps -/

theorem WriterMove.underruns {d d' : TxDevice} {id : ℕ} {w w' : Writer}
    (h : WriterMove d id w d' w') : d'.txUnderruns = d.txUnderruns := by
  cases h with
  | submitted _ _ hfill => subst hfill; rfl
  | _ => rfl

/-- The worker resets the baseline as it publishes a successful start. -/
theorem pps_underruns {free : Mutex → Bool} {d d' : TxDevice} {result : Except Exception ℤ}
    {wake : Wake} (h : d.ppsStep free result = some (d', wake)) :
    d'.txUnderruns = if d.txStreamingThread = some (.publishing 0) then 0 else d.txUnderruns := by
  simp only [TxDevice.ppsStep] at h
  split at h
  · cases h
  · next hthread => cases h; simp [hthread]
  · next hthread => cases h; simp [hthread]
  · next status hthread =>
    split at h
    · cases h; simp [hthread]
    · cases h
  · next hthread => cases h; simp [hthread]
  · cases h

theorem BeginMove.underruns {d : TxDevice} {step : TxLifecycleStep} (h : BeginMove d step) :
    step.device.txUnderruns = d.txUnderruns ∧ step.device.firstTransmit = d.firstTransmit ∧
      step.device.txStartFinished = d.txStartFinished ∧
      step.device.txStreamingThread = d.txStreamingThread ∧ step.pc ≠ .resetUnderruns := by
  cases h with
  | activates onPps handle =>
    unfold TxDevice.configure
    split <;> exact ⟨rfl, rfl, rfl, rfl, by simp⟩
  | _ => exact ⟨rfl, rfl, rfl, rfl, by simp⟩

theorem stopped_underruns (d : TxDevice) (caller : StopCaller) (status : ℤ) :
    (d.stopped caller status).device.txUnderruns = d.txUnderruns ∧
      (d.stopped caller status).device.txStreamingThread = d.txStreamingThread ∧
      (d.stopped caller status).pc ≠ .resetUnderruns := by
  unfold TxDevice.stopped
  cases caller with
  | close => dsimp only; split <;> exact ⟨rfl, rfl, by simp⟩
  | deactivate | destroy => exact ⟨rfl, rfl, by simp⟩

/-- The lifecycle step that resets the baseline is the only one that touches it. -/
theorem LifecycleMove.underruns {free : Mutex → Bool} {d : TxDevice} {pc : TxLifecyclePc}
    {step : TxLifecycleStep} (h : LifecycleMove free d pc step) :
    step.device.txUnderruns = if pc = .resetUnderruns then 0 else d.txUnderruns := by
  cases h with
  | unneeded | unstopped | stopped => exact (stopped_underruns _ _ _).1
  | configured onPps txHandle call rest => cases rest <;> rfl
  | _ => rfl

/-- A worker that is about to publish is neither made nor joined by the lifecycle. -/
theorem LifecycleMove.publishing {free : Mutex → Bool} {d : TxDevice} {pc : TxLifecyclePc}
    {step : TxLifecycleStep} (h : LifecycleMove free d pc step) (hplace : d.Place pc) (status : ℤ) :
    step.device.txStreamingThread = some (.publishing status) ↔
      d.txStreamingThread = some (.publishing status) := by
  have hjoined : (∀ worker, d.txStreamingThread = some worker → ∃ status, worker = .finished status) →
      d.txStreamingThread ≠ some (.publishing status) := by
    intro hthread hpublishing
    obtain ⟨_, hfinished⟩ := hthread _ hpublishing
    cases hfinished
  cases h with
  | stops _ _ hthread => simp [hjoined hthread]
  | unneeded caller hthread =>
    rw [(stopped_underruns _ _ _).2.1]
    simp [hjoined hthread]
  | unstopped | stopped => rw [(stopped_underruns _ _ _).2.1]; exact Iff.rfl
  | configured onPps txHandle call rest => cases rest <;> exact Iff.rfl
  | created => simp [hplace.1]
  | _ => exact Iff.rfl

/-- While calls can be in a read the lifecycle leaves the gate alone. -/
theorem LifecycleMove.pending {free : Mutex → Bool} {d : TxDevice} {pc : TxLifecyclePc}
    {step : TxLifecycleStep} (h : LifecycleMove free d pc step) :
    pc.isClosed = true ∧ pc.isDraining = false ∨ (step.device.Pending ↔ d.Pending) := by
  cases h with
  | flagged | notifiedCv | notifiedChanged | drained | waits | woken => exact .inr Iff.rfl
  | _ => exact .inl ⟨rfl, rfl⟩

/-- Only the successful return of an immediate start leads to the reset of the baseline. -/
theorem start_returns {free : Mutex → Bool} {d : TxDevice} {pc : TxLifecyclePc}
    {input : TxLifecycleInput} {step : TxLifecycleStep} (h : d.lifecycleStep free pc input = some step)
    (hstep : step.pc = .resetUnderruns) : ∃ txHandle, pc = .starting txHandle ∧ input = .sdk 0 := by
  cases lifecycle_move h with
  | started txHandle =>
    refine ⟨txHandle, rfl, ?_⟩
    cases input with
    | sdk status =>
      simp only [TxDevice.lifecycleStep] at h
      split at h
      · cases congrArg (Option.map TxLifecycleStep.pc) h
      · next hstatus => rw [not_not.mp hstatus]
    | run | wake | throw => cases h
  | unneeded | unstopped | stopped => exact absurd hstep (stopped_underruns _ _ _).2.2
  | configured onPps txHandle call rest => cases rest <;> cases hstep
  | _ => cases hstep

/-- Only the successful return of a start on the PPS leaves the worker with a success to publish. -/
theorem pps_returns {free : Mutex → Bool} {d d' : TxDevice} {result : Except Exception ℤ}
    {wake : Wake} (h : d.ppsStep free result = some (d', wake))
    (hthread : d'.txStreamingThread = some (.publishing 0)) :
    ∃ txHandle, d.txStreamingThread = some (.starting txHandle) ∧ result = .ok 0 := by
  simp only [TxDevice.ppsStep] at h
  split at h
  · cases h
  · cases h; cases hthread
  · next txHandle hstarting =>
    cases h
    refine ⟨txHandle, hstarting, ?_⟩
    simp only [TxDevice.log_txStreamingThread, Option.some.injEq, PpsWorker.publishing.injEq] at hthread
    cases result with
    | error e => simp [TxDevice.startStatus, soapyStreamError] at hthread
    | ok status => exact congrArg Except.ok hthread
  · split at h
    · cases h; cases hthread
    · cases h
  · cases h; cases hthread
  · cases h

/-! ## The invariant -/

theorem TxDevice.Standing.quiet {d : TxDevice} {pc : TxLifecyclePc} (h : d.Standing pc)
    (hclosed : pc.isClosed = true) (hdrain : pc.isDraining = false) : d.activeTxStatusReaders = 0 :=
  (h.drained (h.closed hclosed) hdrain).2

/-- A successful start has returned and the baseline is not yet reset. -/
def TxSystem.Fresh (s : TxSystem) : Prop :=
  s.lifecycle = .resetUnderruns ∨ s.device.txStreamingThread = some (.publishing 0)

/-- Each reading is reported exactly if it exceeds the one before it. -/
abbrev Consumed : List UnderrunReading → Prop :=
  Monitor.Always (fun _ (r : UnderrunReading) => r.errors) 0 fun last r =>
    last ≤ r.errors ∧ (r.reported = true ↔ last < r.errors)

namespace CountedTx

structure Counted (s : CountedTx) : Prop where
  exclusive : s.system.pollers.countP (fun p => p.holds .status) ≤ 1
  settled : ∀ p ∈ s.system.pollers, p.inRead = true → ¬ s.system.device.Pending
  fresh : s.system.Fresh → s.readings = []
  baseline : ¬ s.system.Fresh → s.system.device.txUnderruns.toNat = lastReading s.readings
  taken : ∀ (id : ℕ) (p : Poller), s.system.pollers[id]? = some p → p.inRead = true →
    lastReading s.readings ≤ s.taken id ∧ s.taken id ≤ s.counter
  bound : lastReading s.readings ≤ s.counter ∧ s.counter < 2 ^ 32
  consumed : ∀ readings ∈ s.readings :: s.earlier, Consumed readings
  polls : ∀ id : ℕ,
    (s.readings :: s.earlier).flatten.countP (fun r => r.poller == id && r.reported) =
      ((s.system.pollers[id]?.map Poller.underflowed).getD false).toNat

theorem lastReading_snoc (readings : List UnderrunReading) (r : UnderrunReading) :
    lastReading (readings ++ [r]) = r.errors := by
  simp [lastReading, Monitor.after]

/-- Nobody reads while the worker's start is pending. -/
theorem Counted.unread {s : CountedTx} (h : s.Counted) (hs : s.system.Admission) (hg : s.system.Gate)
    {worker : PpsWorker} (hthread : s.system.device.txStreamingThread = some worker)
    (hpending : worker.pending = true) : ∀ p ∈ s.system.pollers, p.inRead = false := by
  intro p hp
  by_contra hread
  have hread := (Bool.not_eq_false _).mp hread
  obtain ⟨id, hid⟩ := List.getElem?_of_mem hp
  have hlive := hs.reader_pos hid (Poller.inRead_admitted hread)
  obtain ⟨hworker, hgate⟩ := hg.live (.inr (.inr hlive))
  refine h.settled p hp hread ⟨?_, ?_⟩
  · unfold TxDevice.GateState at hgate
    cases worker <;> simp_all [PpsWorker.pending]
  · unfold TxDevice.WorkerState at hworker
    cases worker <;> simp_all [PpsWorker.pending]

/-- Nobody reads while the lifecycle is past its drain. -/
theorem unread_quiet {s : TxSystem} (hs : s.Admission) (hclosed : s.lifecycle.isClosed = true)
    (hdrain : s.lifecycle.isDraining = false) : ∀ p ∈ s.pollers, p.inRead = false := by
  intro p hp
  have hzero := hs.readers.symm.trans (hs.standing.quiet hclosed hdrain)
  by_contra hread
  have hadmitted := Poller.inRead_admitted ((Bool.not_eq_false _).mp hread)
  simp [ThreadPool.not_of_countP_zero hzero p hp] at hadmitted

/-- A step that leaves the status calls and the counter alone. -/
theorem Counted.moved {s : CountedTx} (h : s.Counted) {t : TxSystem}
    (hpollers : t.pollers = s.system.pollers)
    (hpending : (∃ p ∈ s.system.pollers, p.inRead = true) → ¬ s.system.device.Pending →
      ¬ t.device.Pending)
    (hfresh : t.Fresh → s.readings = [])
    (hbaseline : ¬ t.Fresh → t.device.txUnderruns.toNat = lastReading s.readings) :
    Counted { s with system := t } where
  exclusive := by dsimp only; rw [hpollers]; exact h.exclusive
  settled p hp hread := by
    dsimp only at hp
    rw [hpollers] at hp
    exact hpending ⟨p, hp, hread⟩ (h.settled p hp hread)
  fresh := hfresh
  baseline := hbaseline
  taken id p hp := h.taken id p (by rwa [← hpollers])
  bound := h.bound
  consumed := h.consumed
  polls id := by dsimp only; rw [hpollers]; exact h.polls id

/-- A step that also keeps the baseline. -/
theorem Counted.kept {s : CountedTx} (h : s.Counted) {t : TxSystem}
    (hpollers : t.pollers = s.system.pollers)
    (hpending : (∃ p ∈ s.system.pollers, p.inRead = true) → ¬ s.system.device.Pending →
      ¬ t.device.Pending)
    (hfresh : t.Fresh ↔ s.system.Fresh)
    (hunderruns : t.device.txUnderruns = s.system.device.txUnderruns) :
    Counted { s with system := t } :=
  h.moved hpollers hpending (fun hf => h.fresh (hfresh.mp hf))
    fun hf => hunderruns ▸ h.baseline fun hf' => hf (hfresh.mpr hf')

theorem Counted.notify {s : CountedTx} {t : TxSystem} (h : Counted { s with system := t })
    (wake : Wake) : Counted { s with system := t.notify wake } := by
  cases wake with
  | nobody => exact h
  | cv => exact { h with }
  | changed =>
    have hfresh : (t.notify .changed).Fresh ↔ t.Fresh := by
      refine or_congr ?_ Iff.rfl
      simp only [TxSystem.notify]
      split
      · next hpc => simp [hpc]
      · exact Iff.rfl
    have hget : ∀ (id : ℕ) (p : Poller), (t.pollers.map Poller.wakeChanged)[id]? = some p →
        ∃ q : Poller, t.pollers[id]? = some q ∧ p = q.wakeChanged := by
      intro id p hp
      obtain ⟨q, hq, rfl⟩ := Option.map_eq_some_iff.mp (List.getElem?_map ▸ hp)
      exact ⟨q, hq, rfl⟩
    refine ⟨?_, ?_, fun hf => h.fresh (hfresh.mp hf), fun hf => h.baseline fun hf' => hf (hfresh.mpr hf'),
      ?_, h.bound, h.consumed, ?_⟩
    · have hcount := ThreadPool.countP_map (p := fun q => Poller.holds q .status)
        Poller.wakeChanged_holdsStatus t.pollers
      exact Nat.le_trans (Nat.le_of_eq hcount) h.exclusive
    · exact ThreadPool.forall_map h.settled fun p hp hread => hp (by simpa using hread)
    · intro id p hp hread
      obtain ⟨q, hq, rfl⟩ := hget id p hp
      exact h.taken id q hq (by simpa using hread)
    · intro id
      have hpolls := h.polls id
      simp only [TxSystem.notify, List.getElem?_map, Option.map_map] at hpolls ⊢
      rw [hpolls]
      congr 3
      exact funext fun p => p.wakeChanged_underflowed.symm

end CountedTx

namespace CountedTx

/-! ## Steps -/

/-- Nobody is in a read while the reset of the baseline is due. -/
theorem Counted.unread_fresh {s : CountedTx} (h : s.Counted) (hs : s.system.Admission)
    (hg : s.system.Gate) (hfresh : s.system.Fresh) : ∀ p ∈ s.system.pollers, p.inRead = false := by
  rcases hfresh with hpc | hthread
  · exact unread_quiet hs (by rw [hpc]; rfl) (by rw [hpc]; rfl)
  · exact h.unread hs hg hthread rfl

/-- A step of a status call keeps `tx_status_mutex` exclusive. -/
theorem Counted.locked {s : CountedTx} (h : s.Counted) {id : ℕ} {p p' : Poller} {d' : TxDevice}
    {input : StatusInput} (hp : s.system.pollers[id]? = some p)
    (hstep : s.system.device.pollerStep s.system.free p input = some (d', p')) :
    (s.system.pollers.set id p').countP (fun q => q.holds .status) ≤ 1 := by
  have hcount := ThreadPool.countP_set (p := fun q => Poller.holds q .status) (b := p') hp
  have hexclusive := h.exclusive
  cases hp' : p'.holds .status with
  | false =>
    simp only [hp', Bool.toNat_false] at hcount
    omega
  | true =>
    simp only [hp', Bool.toNat_true] at hcount
    rcases status_lock hstep hp' with hheld | hfree
    · simp only [hheld, Bool.toNat_true] at hcount
      omega
    · simp only [TxSystem.free, Bool.and_eq_true, List.all_eq_true, Bool.not_eq_true'] at hfree
      have hzero : s.system.pollers.countP (fun q => q.holds .status) = 0 :=
        List.countP_eq_zero.mpr fun q hq => by simp [hfree.2 q hq]
      omega

/-- A status call's step leaves the gate alone. -/
theorem PollerMove.pending {d d' : TxDevice} {p p' : Poller} (h : PollerMove d p d' p') :
    d'.Pending ↔ d.Pending := by
  obtain ⟨_, _, _, rfl⟩ := h.changes
  exact Iff.rfl

theorem Counted.polled {s : CountedTx} (h : s.Counted) {id : ℕ} {p p' : Poller} {d' : TxDevice}
    {input : StatusInput} {taken : ℕ → ℕ} (hp : s.system.pollers[id]? = some p)
    (hstep : s.system.device.pollerStep s.system.free p input = some (d', p'))
    (hinput : ∀ errors, input ≠ .sdk 0 errors) (hothers : ∀ other, other ≠ id → taken other = s.taken other)
    (htaken : input = .run → taken id = s.counter) :
    Counted { s with system := s.system.setPoller id d' p', taken := taken } := by
  have hmove := poller_move hstep
  have hframe := hmove.frame
  obtain ⟨hunderruns, hunderflowed⟩ := poller_quiet hstep hinput
  have hfresh : (s.system.setPoller id d' p').Fresh ↔ s.system.Fresh :=
    or_congr Iff.rfl (by rw [TxSystem.setPoller_device, hframe.txStreamingThread])
  refine ⟨h.locked hp hstep, ?_, fun hf => h.fresh (hfresh.mp hf),
    fun hf => (congrArg UInt32.toNat hunderruns).trans (h.baseline fun hf' => hf (hfresh.mpr hf')),
    ?_, h.bound, h.consumed, ?_⟩
  · intro q hq hread
    rw [TxSystem.setPoller_device, PollerMove.pending hmove]
    rcases List.mem_or_eq_of_mem_set hq with hq | rfl
    · exact h.settled q hq hread
    · exact (reading_checked hstep hread).2.1
  · intro other q hq hread
    by_cases hother : id = other
    · subst hother
      obtain rfl : p' = q := by
        simpa [List.getElem?_set_self (List.getElem?_eq_some_iff.mp hp).1] using hq
      dsimp only
      rw [htaken (reading_checked hstep hread).1]
      exact ⟨h.bound.1, Nat.le_refl _⟩
    · dsimp only
      rw [hothers other (Ne.symm hother)]
      exact h.taken other q (by simpa [List.getElem?_set_ne hother] using hq) hread
  · intro other
    rw [h.polls other]
    by_cases hother : id = other
    · subst hother
      simp [List.getElem?_set_self (List.getElem?_eq_some_iff.mp hp).1, hp, hunderflowed]
    · simp [List.getElem?_set_ne hother]

/-- The end of a read: the record of the reading is what the call has decided. -/
theorem Counted.compared {s : CountedTx} (h : s.Counted) (hs : s.system.Admission)
    (hg : s.system.Gate) {id : ℕ} {p p' : Poller} {d' : TxDevice} {errors : UInt32}
    (hp : s.system.pollers[id]? = some p)
    (hstep : s.system.device.pollerStep s.system.free p (.sdk 0 errors) = some (d', p'))
    (herrors : errors.toNat = s.taken id) :
    Counted { s with
      system := s.system.setPoller id d' p'
      readings := s.readings ++ [⟨id, s.taken id, p'.underflowed⟩] } := by
  have hmove := poller_move hstep
  have hframe := hmove.frame
  obtain ⟨hread, hunderruns, hunderflowed⟩ := reading_compared hstep
  have hmem := List.mem_of_getElem? hp
  have hidle : ¬ s.system.Fresh := fun hfresh => by
    simp [h.unread_fresh hs hg hfresh p hmem] at hread
  have hbefore := h.taken id p hp hread
  have hid := (List.getElem?_eq_some_iff.mp hp).1
  -- The call is the only one that holds the mutex, so nobody else is in a read.
  have halone : ∀ (other : ℕ) (q : Poller), s.system.pollers[other]? = some q → q.inRead = true →
      other = id := fun other q hq hqread =>
    ThreadPool.unique_of_countP h.exclusive hq (Poller.inRead_holdsStatus hqread) hp
      (Poller.inRead_holdsStatus hread)
  have hout : p'.inRead = false := by
    by_contra hread'
    cases (reading_checked hstep ((Bool.not_eq_false _).mp hread')).1
  refine ⟨h.locked hp hstep, ?_, fun hf => absurd ?_ hidle, fun _ => ?_, ?_, ?_, ?_, ?_⟩
  · intro q hq hqread
    rw [TxSystem.setPoller_device, PollerMove.pending hmove]
    rcases List.mem_or_eq_of_mem_set hq with hq | rfl
    · exact h.settled q hq hqread
    · simp [hout] at hqread
  · exact hf.imp_right fun hthread => hframe.txStreamingThread.symm.trans hthread
  · rw [lastReading_snoc]
    exact (congrArg UInt32.toNat hunderruns).trans herrors
  · intro other q hq hqread
    by_cases hother : id = other
    · subst hother
      obtain rfl : p' = q := by simpa [List.getElem?_set_self hid] using hq
      simp [hout] at hqread
    · have hq' : s.system.pollers[other]? = some q := by
        simpa [List.getElem?_set_ne hother] using hq
      exact absurd (halone other q hq' hqread).symm hother
  · rw [lastReading_snoc]
    exact ⟨hbefore.2, h.bound.2⟩
  · intro readings hreadings
    rcases List.mem_cons.mp hreadings with rfl | hearlier
    · refine Monitor.always_snoc (h.consumed _ List.mem_cons_self) ⟨hbefore.1, ?_⟩
      have hlast := h.baseline hidle
      simp only [lastReading] at hlast
      dsimp only
      rw [hunderflowed, decide_eq_true_iff, UInt32.lt_iff_toNat_lt, hlast, herrors]
    · exact h.consumed _ (List.mem_cons_of_mem _ hearlier)
  · intro other
    have hpolls := h.polls other
    have hreading : p.underflowed = false := by
      unfold Poller.inRead at hread
      unfold Poller.underflowed
      split at hread <;> simp_all
    simp only [List.flatten_cons, List.countP_append, List.countP_singleton] at hpolls ⊢
    by_cases hother : id = other
    · subst hother
      simp only [hp, Option.map_some, Option.getD_some, hreading, Bool.toNat_false] at hpolls
      simp only [TxSystem.setPoller_pollers, List.getElem?_set_self hid, Option.map_some,
        Option.getD_some, beq_self_eq_true, Bool.true_and]
      have hcounted : (if p'.underflowed = true then 1 else 0) = p'.underflowed.toNat := by
        cases p'.underflowed <;> rfl
      omega
    · simp only [TxSystem.setPoller_pollers, List.getElem?_set_ne hother, beq_false_of_ne hother,
        Bool.false_and] at hpolls ⊢
      simp only [Bool.false_eq_true, if_false]
      omega

end CountedTx

namespace CountedTx

/-- A successful start returns: the readings of the activation before are put away. -/
theorem Counted.restarted {s : CountedTx} (h : s.Counted) {u : TxSystem}
    (hpollers : u.pollers = s.system.pollers) (hunread : ∀ p ∈ s.system.pollers, p.inRead = false)
    (hfresh : u.Fresh) :
    Counted { s with system := u, counter := 0, readings := [], earlier := s.readings :: s.earlier } where
  exclusive := by dsimp only; rw [hpollers]; exact h.exclusive
  settled p hp hread := by
    dsimp only at hp
    rw [hpollers] at hp
    simp [hunread p hp] at hread
  fresh _ := rfl
  baseline hidle := absurd hfresh hidle
  taken id p hp hread := by
    dsimp only at hp
    rw [hpollers] at hp
    simp [hunread p (List.mem_of_getElem? hp)] at hread
  bound := ⟨Nat.le_refl _, Nat.two_pow_pos 32⟩
  consumed readings hreadings := by
    rcases List.mem_cons.mp hreadings with rfl | hearlier
    · exact Monitor.always_nil
    · exact h.consumed readings hearlier
  polls id := by dsimp only; rw [hpollers]; exact h.polls id

theorem Counted.start {s : CountedTx} (h : s.Counted) (hs : s.system.Admission) (hg : s.system.Gate)
    {a : TxAction} {u : TxSystem} (hu : s.system.next a = some u) (hstarts : s.system.starts a = true) :
    Counted { s with system := u, counter := 0, readings := [], earlier := s.readings :: s.earlier } := by
  unfold TxSystem.starts at hstarts
  split at hstarts
  · next status =>
    split at hstarts
    · next txHandle hpc =>
      obtain rfl : status = 0 := by simpa using hstarts
      simp only [TxSystem.next, TxDevice.lifecycleStep, hpc, ne_eq, not_true_eq_false, if_false,
        Option.map_some, Option.some.injEq] at hu
      subst hu
      exact h.restarted rfl (unread_quiet hs (by rw [hpc]; rfl) (by rw [hpc]; rfl)) (.inl rfl)
    · cases hstarts
  · next status =>
    split at hstarts
    · next txHandle hthread =>
      obtain rfl : status = 0 := by simpa using hstarts
      simp only [TxSystem.next, TxDevice.ppsStep, hthread, Option.map_some, Option.some.injEq] at hu
      subst hu
      exact h.restarted rfl (h.unread hs hg hthread rfl) (.inr rfl)
    · cases hstarts
  · cases hstarts

theorem Counted.pps {s : CountedTx} (h : s.Counted) {d' : TxDevice} {wake : Wake}
    {result : Except Exception ℤ} (hstep : s.system.device.ppsStep s.system.free result = some (d', wake))
    (hstarts : s.system.starts (.pps result) = false) :
    Counted { s with system := s.system.setDevice d' } := by
  have hunderruns := pps_underruns hstep
  refine h.moved rfl ?_ ?_ ?_
  · intro _ hpending hpending'
    refine hpending ?_
    cases pps_move hstep with
    | published => cases hpending'.2
    | _ => exact hpending'
  · rintro (hpc | hthread)
    · exact h.fresh (.inl hpc)
    · obtain ⟨txHandle, hstarting, rfl⟩ := pps_returns hstep hthread
      simp [TxSystem.starts, hstarting] at hstarts
  · intro hidle
    rw [TxSystem.setDevice_device, hunderruns]
    split
    · next hthread => rw [h.fresh (.inr hthread)]; rfl
    · next hthread => exact h.baseline fun hfresh => hidle (.inl (hfresh.resolve_right hthread))

theorem Counted.lifecycle {s : CountedTx} (h : s.Counted) (hs : s.system.Admission)
    {input : TxLifecycleInput} {step : TxLifecycleStep}
    (hstep : s.system.device.lifecycleStep s.system.free s.system.lifecycle input = some step)
    (hstarts : s.system.starts (.lifecycle input) = false) :
    Counted { s with system := s.system.setLifecycle step } := by
  have hmove := lifecycle_move hstep
  have hpublishing := hmove.publishing hs.standing.place 0
  have hunderruns := hmove.underruns
  refine h.moved rfl ?_ ?_ ?_
  · rintro ⟨p, hp, hread⟩ hpending
    rcases hmove.pending with ⟨hclosed, hdrain⟩ | hsame
    · simp [unread_quiet hs hclosed hdrain p hp] at hread
    · exact fun hpending' => hpending (hsame.mp hpending')
  · rintro (hpc | hthread)
    · obtain ⟨txHandle, hstarting, rfl⟩ := start_returns hstep hpc
      simp [TxSystem.starts, hstarting] at hstarts
    · exact h.fresh (.inr (hpublishing.mp hthread))
  · intro hidle
    rw [TxSystem.setLifecycle_device, hunderruns]
    split
    · next hpc => rw [h.fresh (.inl hpc)]; rfl
    · next hpc =>
      exact h.baseline fun hfresh => hidle (.inr (hpublishing.mpr (hfresh.resolve_left hpc)))

theorem Counted.called {s : CountedTx} (h : s.Counted) (request : StatusRequest) :
    Counted { s with system := { s.system with
      pollers := s.system.pollers ++ [.create request] } } := by
  refine ⟨?_, ThreadPool.forall_append h.settled (by simp [Poller.inRead, Poller.create]), h.fresh,
    h.baseline, ?_, h.bound, h.consumed, ?_⟩
  · dsimp only
    rw [List.countP_append]
    exact h.exclusive
  · intro id p hp hread
    dsimp only at hp
    rw [List.getElem?_append] at hp
    split at hp
    · exact h.taken id p hp hread
    · have hcreated := List.mem_of_getElem? hp
      rw [List.mem_singleton.mp hcreated] at hread
      cases hread
  · intro id
    rw [h.polls id]
    dsimp only
    rw [List.getElem?_append]
    split
    · rfl
    · next hid =>
      rw [List.getElem?_eq_none (Nat.le_of_not_lt hid)]
      cases hget : [Poller.create request][id - s.system.pollers.length]? with
      | none => rfl
      | some p =>
        rw [List.mem_singleton.mp (List.mem_of_getElem? hget)]
        rfl

/-- A step of a status call, whatever it contributes to the record. -/
theorem Counted.poller {s t : CountedTx} (h : s.Counted) (hs : s.system.Admission)
    (hg : s.system.Gate) {id : ℕ} {input : StatusInput} {u : TxSystem}
    (hu : s.system.next (.poller id input) = some u)
    (hobserve : s.observe (.poller id input) u = some t) : t.Counted := by
  simp only [TxSystem.next] at hu
  split at hu
  · cases hu
  · next p hp =>
    obtain ⟨⟨d', p'⟩, hstep, rfl⟩ := Option.map_eq_some_iff.mp hu
    simp only [observe, TxSystem.starts, Bool.false_eq_true, if_false] at hobserve
    cases input with
    | run =>
      cases hobserve
      refine Counted.notify (s := { s with taken := Function.update s.taken id s.counter })
        (h.polled hp hstep (by simp) (fun other hother => ?_) fun _ => ?_) _
      · exact Function.update_of_ne hother _ _
      · exact Function.update_self _ _ _
    | timeout | wake =>
      cases hobserve
      exact (h.polled hp hstep (by simp) (fun _ _ => rfl) (by simp)).notify _
    | sdk status errors =>
      dsimp only at hobserve
      split at hobserve
      · next hstatus =>
        cases hobserve
        exact (h.polled hp hstep (by simpa using hstatus) (fun _ _ => rfl) (by simp)).notify _
      · next hstatus =>
        obtain rfl : status = 0 := by simpa using hstatus
        split at hobserve
        · next herrors =>
          have hread := (reading_compared hstep).1
          have hwake : TxSystem.pollerWake p = .nobody := by
            unfold Poller.inRead at hread
            unfold TxSystem.pollerWake
            split at hread <;> simp_all
          rw [hwake] at hobserve
          simp only [TxSystem.notify, TxSystem.setPoller_pollers, Option.map_some, Option.getD_some,
            List.getElem?_set_self (List.getElem?_eq_some_iff.mp hp).1] at hobserve
          cases hobserve
          exact h.compared hs hg hp hstep herrors
        · cases hobserve

end CountedTx

namespace CountedTx

theorem Counted.step {s : CountedTx} (h : s.Counted) (hs : s.system.Admission)
    {a : TxAction} {u : TxSystem} (hu : s.system.next a = some u)
    (hstarts : s.system.starts a = false) (hpoller : ∀ id input, a ≠ .poller id input) :
    Counted { s with system := u } := by
  cases a with
  | writeStream request => cases hu; exact h.kept rfl (fun _ => id) Iff.rfl rfl
  | readStreamStatus request => cases hu; exact h.called request
  | writer id input =>
    simp only [TxSystem.next] at hu
    split at hu
    · cases hu
    · next w hw =>
      obtain ⟨⟨d', w'⟩, hstep, rfl⟩ := Option.map_eq_some_iff.mp hu
      have hmove := writer_move hstep
      refine (h.kept (t := s.system.setWriter id d' w') rfl (fun _ hpending hpending' => ?_) ?_
        hmove.underruns).notify _
      · refine hpending ⟨?_, hmove.frame.txStartFinished.symm.trans hpending'.2⟩
        rcases hmove.opens with hsame | ⟨hopen, -⟩
        · exact hsame.symm.trans hpending'.1
        · exact absurd hpending'.1 (by simp [hopen])
      · exact or_congr Iff.rfl (by rw [TxSystem.setWriter_device, hmove.frame.txStreamingThread])
  | poller id input => exact absurd rfl (hpoller id input)
  | pps result =>
    obtain ⟨⟨d', wake⟩, hstep, rfl⟩ := Option.map_eq_some_iff.mp hu
    exact (h.pps hstep hstarts).notify _
  | complete index =>
    simp only [TxSystem.next] at hu
    split at hu
    · cases hu
    · next context hcontext =>
      split at hu
      · cases hu
        obtain ⟨completions, toNotify, heq⟩ := callBack_changes s.system.device index context
        unfold TxDevice.callBack at heq
        rw [heq]
        exact h.kept rfl (fun _ => id) Iff.rfl rfl
      · cases hu
  | notifyCompletion index =>
    simp only [TxSystem.next] at hu
    split at hu
    · cases hu
    · have hset : Counted { s with system := s.system.setDevice { s.system.device with
          toNotify := s.system.device.toNotify.eraseIdx index } } :=
        h.kept rfl (fun _ => id) Iff.rfl rfl
      split at hu
      · cases hu; exact hset.notify .changed
      · cases hu; exact hset
  | call call =>
    simp only [TxSystem.next] at hu
    split at hu
    · next hidle =>
      cases hu
      obtain ⟨hunderruns, hfirst, hfinished, hthread, hpc⟩ :=
        (begin_move s.system.device call).underruns
      refine h.kept rfl (fun _ hpending hpending' => ?_) ?_ hunderruns
      · exact hpending ⟨hfirst.symm.trans hpending'.1, hfinished.symm.trans hpending'.2⟩
      · exact or_congr (by simp [hpc, hidle]) (by rw [TxSystem.setLifecycle_device, hthread])
    · cases hu
  | lifecycle input =>
    obtain ⟨step, hstep, rfl⟩ := Option.map_eq_some_iff.mp hu
    exact (h.lifecycle hs hstep hstarts).notify _

theorem counted_step {s t : CountedTx} {a : CountedAction} (hs : s.system.Admission)
    (hg : s.system.Gate) (h : s.Counted) (hnext : s.next a = some t) :
    t.system.Admission ∧ t.system.Gate ∧ t.Counted := by
  cases a with
  | underruns count =>
    simp only [next] at hnext
    split at hnext
    · next hwrap =>
      cases hnext
      refine ⟨hs, hg, { h with taken := ?_, bound := ?_ }⟩
      · intro id p hp hread
        exact (h.taken id p hp hread).imp_right fun hle => Nat.le_trans hle (Nat.le_add_right _ _)
      · exact ⟨Nat.le_trans h.bound.1 (Nat.le_add_right _ _), hwrap⟩
    · cases hnext
  | take id =>
    simp only [next] at hnext
    split at hnext
    · cases hnext
      refine ⟨hs, hg, { h with taken := ?_ }⟩
      intro other p hp hread
      by_cases hother : other = id
      · subst hother
        dsimp only
        rw [Function.update_self]
        exact ⟨h.bound.1, Nat.le_refl _⟩
      · dsimp only
        rw [Function.update_of_ne hother]
        exact h.taken other p hp hread
    · cases hnext
  | tx a =>
    obtain ⟨u, hu, hobserve⟩ := Option.bind_eq_some_iff.mp hnext
    have hstep := step_of_next hu
    have hsystem : t.system = u := by
      unfold observe at hobserve
      split at hobserve
      · cases hobserve; rfl
      · split at hobserve
        · cases hobserve; rfl
        · split at hobserve
          · cases hobserve; rfl
          · split at hobserve <;> cases hobserve; rfl
        · cases hobserve; rfl
    refine ⟨hsystem ▸ TxSystem.admission_step hs hstep, hsystem ▸ TxSystem.gate_step hs hg hstep, ?_⟩
    cases hstarts : s.system.starts a with
    | true =>
      simp only [observe, hstarts, if_true] at hobserve
      cases hobserve
      exact h.start hs hg hu hstarts
    | false =>
      by_cases hpoller : ∃ id input, a = .poller id input
      · obtain ⟨id, input, rfl⟩ := hpoller
        exact h.poller hs hg hu hobserve
      · have hother : ∀ id input, a ≠ .poller id input := fun id input heq =>
          hpoller ⟨id, input, heq⟩
        have hsame : t = { s with system := u } := by
          simp only [observe, hstarts, Bool.false_eq_true, if_false] at hobserve
          split at hobserve
          · exact absurd rfl (hother _ _)
          · exact absurd rfl (hother _ _)
          · exact (Option.some.inj hobserve).symm
        rw [hsame]
        exact h.step hs hu hstarts hother

theorem counted_create (config : TxConfiguration) : (create config).Counted where
  exclusive := Nat.zero_le _
  settled _ hp := by cases hp
  fresh _ := rfl
  baseline _ := rfl
  taken id p hp := by simp [create, TxSystem.create] at hp
  bound := ⟨Nat.le_refl _, Nat.two_pow_pos 32⟩
  consumed readings hreadings := by
    rw [List.mem_singleton.mp hreadings]
    exact Monitor.always_nil
  polls id := by simp [create, TxSystem.create]

theorem Reachable.counted {config : TxConfiguration} {s : CountedTx} (h : Reachable config s) :
    s.Counted := by
  obtain ⟨actions, hrun⟩ := h
  exact (Transition.run_invariant (I := fun s => s.system.Admission ∧ s.system.Gate ∧ s.Counted)
    (fun _ _ _ h hnext => counted_step h.1 h.2.1 h.2.2 hnext)
    ⟨TxSystem.admission_create config, TxSystem.gate_create config, counted_create config⟩ hrun).2.2

end CountedTx

/-! ## Increments

The `u`-th increment of an activation belongs to the reading that takes the count past it. -/

/-- The reading at `i` is reported and is the first to see the `u`-th increment. -/
def ReportedAt (readings : List UnderrunReading) (u i : ℕ) : Prop :=
  ∃ r, readings[i]? = some r ∧ r.reported = true ∧ lastReading (readings.take i) < u ∧ u ≤ r.errors

theorem reportedAt_snoc {readings : List UnderrunReading} {r : UnderrunReading} {u i : ℕ} :
    ReportedAt (readings ++ [r]) u i ↔ ReportedAt readings u i ∨
      i = readings.length ∧ r.reported = true ∧ lastReading readings < u ∧ u ≤ r.errors := by
  unfold ReportedAt
  rcases Nat.lt_trichotomy i readings.length with hlt | rfl | hgt
  · rw [List.getElem?_append_left hlt, List.take_append_of_le_length (Nat.le_of_lt hlt)]
    simp [Nat.ne_of_lt hlt]
  · simp
  · rw [List.getElem?_eq_none (by simp; omega), List.getElem?_eq_none (Nat.le_of_lt hgt)]
    simp [Nat.ne_of_gt hgt]

theorem reportedAt_le {readings : List UnderrunReading} (h : Consumed readings) {u i : ℕ}
    (hu : ReportedAt readings u i) : u ≤ lastReading readings := by
  induction readings using List.reverseRecOn with
  | nil => obtain ⟨r, hr, -⟩ := hu; simp at hr
  | append_singleton readings r ih =>
    obtain ⟨hbefore, hle, -⟩ := Monitor.always_of_snoc h
    rw [CountedTx.lastReading_snoc]
    rcases reportedAt_snoc.mp hu with hu | ⟨-, -, -, hu⟩
    · exact Nat.le_trans (ih hbefore hu) hle
    · exact hu

/-- Every increment that has been read is reported at exactly one reading. -/
theorem reported_once {readings : List UnderrunReading} (h : Consumed readings) {u : ℕ} (hpos : 0 < u)
    (hu : u ≤ lastReading readings) : ∃! i, ReportedAt readings u i := by
  induction readings using List.reverseRecOn with
  | nil => exact absurd hu (Nat.not_le_of_gt hpos)
  | append_singleton readings r ih =>
    obtain ⟨hbefore, hle, hreported⟩ := Monitor.always_of_snoc h
    rw [CountedTx.lastReading_snoc] at hu
    by_cases hold : u ≤ lastReading readings
    · obtain ⟨i, hi, hunique⟩ := ih hbefore hold
      refine ⟨i, reportedAt_snoc.mpr (.inl hi), fun j hj => ?_⟩
      rcases reportedAt_snoc.mp hj with hj | ⟨-, -, hlt, -⟩
      · exact hunique j hj
      · omega
    · have hlt := Nat.lt_of_not_le hold
      refine ⟨readings.length,
        reportedAt_snoc.mpr (.inr ⟨rfl, hreported.mpr (Nat.lt_of_lt_of_le hlt hu), hlt, hu⟩),
        fun j hj => ?_⟩
      rcases reportedAt_snoc.mp hj with hj | ⟨hj, -⟩
      · exact absurd (reportedAt_le hbefore hj) hold
      · exact hj

/-- A nonzero last count has been reported. -/
theorem last_reported {readings : List UnderrunReading} (h : Consumed readings)
    (hlast : lastReading readings ≠ 0) :
    ∃ r ∈ readings, r.reported = true ∧ r.errors = lastReading readings := by
  induction readings using List.reverseRecOn with
  | nil => exact absurd rfl hlast
  | append_singleton readings r ih =>
    obtain ⟨hbefore, hle, hreported⟩ := Monitor.always_of_snoc h
    rw [CountedTx.lastReading_snoc] at hlast ⊢
    rcases Nat.lt_or_eq_of_le hle with hlt | heq
    · exact ⟨r, by simp, hreported.mpr hlt, rfl⟩
    · have hsame : lastReading readings = r.errors := heq
      obtain ⟨q, hq, hq', herrors⟩ := ih hbefore (hsame ▸ hlast)
      exact ⟨q, List.mem_append_left _ hq, hq', herrors.trans hsame⟩

namespace CountedTx

/-! ## The theorem -/

/-- The comparisons of the status calls exclude each other. In every activation a reading is reported
exactly if it exceeds the reading before it, which is zero in front of the first; every increment that
has been read is reported at exactly one reading, and a nonzero last count is reported. A call makes
one reported reading if it ends with an underflow, and none otherwise. -/
theorem underruns_reported_once {config : TxConfiguration} {s : CountedTx}
    (hs : Reachable config s) :
    s.system.pollers.countP (fun p => p.holds .status) ≤ 1 ∧
    (∀ readings ∈ s.readings :: s.earlier,
      (∀ before r after, readings = before ++ r :: after →
        (r.reported = true ↔ lastReading before < r.errors)) ∧
      (∀ u, 0 < u → u ≤ lastReading readings → ∃! i, ReportedAt readings u i) ∧
      (lastReading readings ≠ 0 →
        ∃ r ∈ readings, r.reported = true ∧ r.errors = lastReading readings)) ∧
    lastReading s.readings ≤ s.counter ∧
    ∀ id p, s.system.pollers[id]? = some p →
      (s.readings :: s.earlier).flatten.countP (fun r => r.poller == id && r.reported) =
        if p.underflowed then 1 else 0 := by
  have h := hs.counted
  refine ⟨h.exclusive, fun readings hreadings => ?_, h.bound.1, fun id p hp => ?_⟩
  · have hconsumed := h.consumed readings hreadings
    refine ⟨fun before r after hsplit => (hconsumed before r after hsplit).2, fun u hpos hu => ?_,
      last_reported hconsumed⟩
    exact reported_once hconsumed hpos hu
  · rw [h.polls id, hp, Option.map_some, Option.getD_some]
    cases p.underflowed <;> rfl

/-- Two calls around the first underruns, a failed start on the PPS and one that succeeds. -/
def twoActivations : List CountedAction :=
  let poll (id : ℕ) (errors : UInt32) : List CountedAction :=
    .tx (.readStreamStatus ⟨100, 0⟩) :: List.replicate 5 (.tx (.poller id .run)) ++
      [.take id, .tx (.poller id (.sdk 0 errors))]
  let onPps (status : ℤ) : List TxAction :=
    SmallTx.configure soapyHasTime ++ List.replicate 5 (.lifecycle .run) ++
      [.pps (.ok 0), .pps (.ok status), .pps (.ok 0), .pps (.ok 0)]
  let finish : List TxAction := [.poller 0 .run, .poller 0 .run, .poller 1 .timeout,
    .poller 1 .run, .poller 1 .run]
  let stop : List TxAction := SmallTx.drain ++ [.lifecycle .run, .lifecycle (.sdk 0)]
  (SmallTx.setup ++ SmallTx.activate).map .tx ++ [.underruns 3] ++ poll 0 3 ++ poll 1 3 ++
    (finish ++ stop ++ onPps (-5) ++ stop ++ onPps 0).map .tx ++ [.underruns 2] ++ poll 2 2

/-- The two underruns of the second activation are reported, though the first has had three. -/
theorem underruns_reported_once_restarted :
    ∃ s : CountedTx, Transition.run next (create SmallTx.config) twoActivations = some s ∧
      s.readings.map UnderrunReading.errors = [2] ∧
      s.earlier.map (List.map UnderrunReading.errors) = [[3, 3], []] ∧
      ∀ readings ∈ s.readings :: s.earlier, lastReading readings ≠ 0 →
        ∃ r ∈ readings, r.reported = true ∧ r.errors = lastReading readings := by
  obtain ⟨s, hs, hreadings⟩ := Option.map_eq_some_iff.mp (show (Transition.run next
    (create SmallTx.config) twoActivations).map (fun s =>
      decide (s.readings.map UnderrunReading.errors = [2] ∧
        s.earlier.map (List.map UnderrunReading.errors) = [[3, 3], []])) = some true
    by decide +kernel)
  obtain ⟨hnew, hold⟩ := of_decide_eq_true hreadings
  exact ⟨s, hs, hnew, hold, fun readings hmem =>
    ((underruns_reported_once ⟨_, hs⟩).2.1 readings hmem).2.2⟩

end CountedTx

end SoapySidekiq
