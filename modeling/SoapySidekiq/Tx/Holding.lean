import SoapySidekiq.Rx.SessionInvariant
import SoapySidekiq.Tx.LifecycleContract

/-! # Who holds the TX hardware

The boundary to the SDK says whether the TX hardware is running: a start that succeeds takes it and a
stop that the SDK confirms gives it back. While it is held the device knows, with the handle that a
stop needs; and the only start that can be in progress without a call is the one of the PPS worker. -/
set_option autoImplicit false

namespace SoapySidekiq

/-! ## Reading the trace -/

namespace SdkEvent

/-- The handle that is held, after one more event. -/
def hold (held : Option UInt32) : SdkEvent → Option UInt32
  | .returned (.startTxStreaming txHandle) result
  | .returned (.startTxStreamingOn1pps txHandle) result =>
    if startSucceeded result then some txHandle else held
  | .returned (.stopTxStreaming _) result | .returned (.stopTxStreamingOn1pps _) result =>
    if released result then none else held
  | _ => held

def issuesPps : SdkEvent → Bool
  | .issued (.startTxStreamingOn1pps _) => true
  | _ => false

def returnsPps : SdkEvent → Bool
  | .returned (.startTxStreamingOn1pps _) _ => true
  | _ => false

/-- The event belongs to neither a start nor a stop. -/
def aside (e : SdkEvent) : Prop := e.kind ≠ .start ∧ e.kind ≠ .stop

theorem issued_readSysTimestampFreq_aside : (issued .readSysTimestampFreq).aside := by
  simp [aside, kind, SdkCall.kind]

theorem returned_readSysTimestampFreq_aside (result : Except Exception ℤ) :
    (returned .readSysTimestampFreq result).aside := by
  simp [aside, kind, SdkCall.kind]

theorem hold_issued (held : Option UInt32) (call : SdkCall) : hold held (.issued call) = held := by
  cases call <;> rfl

theorem hold_aside {e : SdkEvent} (h : e.aside) (held : Option UInt32) : hold held e = held := by
  obtain ⟨hstart, hstop⟩ := h
  cases e with
  | returned call result => cases call <;> simp_all [hold, kind, SdkCall.kind]
  | issued | accepted => simp [hold]

theorem pps_aside {e : SdkEvent} (h : e.aside) : e.issuesPps = false ∧ e.returnsPps = false := by
  obtain ⟨hstart, -⟩ := h
  cases e with
  | issued call | returned call => cases call <;> simp_all [issuesPps, returnsPps, kind, SdkCall.kind]
  | accepted => exact ⟨rfl, rfl⟩

end SdkEvent

/-- The handle of the TX hardware that is running. -/
def heldTx (trace : List SdkEvent) : Option UInt32 := trace.foldl SdkEvent.hold none

theorem heldTx_append (trace : List SdkEvent) (e : SdkEvent) :
    heldTx (trace ++ [e]) = e.hold (heldTx trace) := by
  simp [heldTx]

theorem heldTx_aside {events : List SdkEvent} (h : ∀ e ∈ events, e.aside) (trace : List SdkEvent) :
    heldTx (trace ++ events) = heldTx trace := by
  induction events generalizing trace with
  | nil => rw [List.append_nil]
  | cons e events ih =>
    rw [List.append_cons, ih (fun f hf => h f (List.mem_cons_of_mem _ hf)), heldTx_append,
      SdkEvent.hold_aside (h e List.mem_cons_self)]

/-- Starts at a PPS edge that have not returned. -/
structure PendingPps (trace : List SdkEvent) (pending : ℕ) : Prop where
  count : trace.countP SdkEvent.issuesPps = trace.countP SdkEvent.returnsPps + pending

theorem PendingPps.other {trace : List SdkEvent} {pending : ℕ} (h : PendingPps trace pending)
    {e : SdkEvent} (hissues : e.issuesPps = false) (hreturns : e.returnsPps = false) :
    PendingPps (trace ++ [e]) pending := by
  refine ⟨?_⟩
  simpa [hissues, hreturns] using h.count

/-! ## What the device knows -/

/-- The handle with which the call in progress configures, starts or stops. -/
def TxLifecyclePc.handle (pc : TxLifecyclePc) : Option UInt32 :=
  match pc with
  | .configuring _ txHandle _ _ | .resetGate _ txHandle | .resetStart txHandle | .creating txHandle
  | .starting txHandle | .stopping _ txHandle => some txHandle
  | _ => none

/-- The handle with which the PPS worker is going to start, or starts. -/
def PpsWorker.handle (worker : PpsWorker) : Option UInt32 :=
  match worker with
  | .ready txHandle | .starting txHandle => some txHandle
  | _ => none

def PpsWorker.isStarting (worker : PpsWorker) : Bool :=
  match worker with
  | .starting _ => true
  | _ => false

namespace TxDevice

/-- The handle of the active token. -/
def tokenHandle (d : TxDevice) : Option UInt32 := d.activeTxStream.map TxStreamHandle.txHandle

/-- The PPS worker is in its call of the SDK. -/
def ppsStarting (d : TxDevice) : Bool := (d.txStreamingThread.map PpsWorker.isStarting).getD false

/-- What the device knows of the hardware while the lifecycle is at `pc`. -/
structure Holding (d : TxDevice) (pc : TxLifecyclePc) : Prop where
  active : ∀ txHandle, heldTx d.trace = some txHandle → d.txStreamActive = true ∨ pc.isRaising = true
  token : ∀ txHandle, heldTx d.trace = some txHandle → pc ≠ .destroyed →
    d.tokenHandle = some txHandle
  place : ∀ txHandle, pc.handle = some txHandle → d.tokenHandle = some txHandle
  worker : ∀ txHandle, d.txStreamingThread.bind PpsWorker.handle = some txHandle →
    d.tokenHandle = some txHandle
  pending : PendingPps d.trace d.ppsStarting.toNat

/-! ## Steps -/

/-- A step that changes neither the hardware nor the token nor the thread. -/
theorem Holding.same {d d' : TxDevice} {pc pc' : TxLifecyclePc} (h : d.Holding pc)
    (hheld : heldTx d'.trace = heldTx d.trace)
    (hpending : ∀ pending, PendingPps d.trace pending → PendingPps d'.trace pending)
    (hactive : d'.txStreamActive = d.txStreamActive) (htoken : d'.activeTxStream = d.activeTxStream)
    (hthread : d'.txStreamingThread = d.txStreamingThread)
    (hraise : pc.isRaising = true → d.txStreamActive = true ∨ pc'.isRaising = true)
    (hplace : ∀ txHandle, pc'.handle = some txHandle → d.tokenHandle = some txHandle)
    (hdestroyed : pc = .destroyed → pc' = .destroyed) : d'.Holding pc' where
  active txHandle htrace := by
    rw [hactive]
    rcases h.active txHandle (hheld.symm.trans htrace) with hactive | hraising
    · exact .inl hactive
    · exact hraise hraising
  token txHandle htrace hpc := by
    rw [tokenHandle, htoken]
    exact h.token txHandle (hheld.symm.trans htrace) fun hd => hpc (hdestroyed hd)
  place txHandle hpc := by
    rw [tokenHandle, htoken]
    exact hplace txHandle hpc
  worker txHandle hworker := by
    rw [tokenHandle, htoken]
    exact h.worker txHandle (hthread ▸ hworker)
  pending := by
    rw [ppsStarting, hthread]
    exact hpending _ h.pending

theorem Holding.goto {d : TxDevice} {pc pc' : TxLifecyclePc} (h : d.Holding pc)
    (hraise : pc.isRaising = false) (hplace : ∀ txHandle, pc'.handle = some txHandle →
      d.tokenHandle = some txHandle) (hdestroyed : pc ≠ .destroyed) : d.Holding pc' :=
  h.same rfl (fun _ => id) rfl rfl rfl (by simp [hraise]) hplace fun hpc => absurd hpc hdestroyed

/-- The call of the SDK returns or is issued, and it is neither a start nor a stop. -/
theorem Holding.logged {d : TxDevice} {pc : TxLifecyclePc} (h : d.Holding pc) {e : SdkEvent}
    (he : e.aside) : (d.log e).Holding pc :=
  h.same ((heldTx_append _ _).trans (SdkEvent.hold_aside he _))
    (fun _ hp => hp.other (SdkEvent.pps_aside he).1 (SdkEvent.pps_aside he).2) rfl rfl rfl .inr h.place id

/-- A call that is not the start at a PPS edge is issued. -/
theorem Holding.issued {d : TxDevice} {pc : TxLifecyclePc} (h : d.Holding pc) (call : SdkCall)
    (hcall : ∀ txHandle, call ≠ .startTxStreamingOn1pps txHandle) : (d.log (.issued call)).Holding pc := by
  refine h.same ((heldTx_append _ _).trans (SdkEvent.hold_issued _ _)) (fun _ hp => hp.other ?_ rfl)
    rfl rfl rfl .inr h.place id
  cases call <;> first | rfl | exact absurd rfl (hcall _)

theorem Holding.joined {d : TxDevice} {pc : TxLifecyclePc} (h : d.Holding pc)
    (hthread : ∀ worker, d.txStreamingThread = some worker → ∃ status, worker = .finished status) :
    { d with txStreamingThread := none }.Holding pc :=
  { h with
    active := h.active
    worker := by simp
    pending := by
      have hstarting : d.ppsStarting = false := by
        unfold ppsStarting
        cases hjoin : d.txStreamingThread with
        | none => rfl
        | some worker =>
          obtain ⟨status, rfl⟩ := hthread worker hjoin
          rfl
      have hpending := h.pending
      rwa [hstarting] at hpending }

/-- The end of `stopTxStream`. -/
theorem Holding.stopped {d : TxDevice} {caller : StopCaller} {status : ℤ}
    (h : d.Holding (.joining caller)) (hthread : d.txStreamingThread = none)
    (hclose : caller = .close → status = 0 → heldTx d.trace = none) :
    (d.stopped caller status).device.Holding (d.stopped caller status).pc := by
  have hidle : d.Holding .idle := h.goto rfl (by simp [TxLifecyclePc.handle]) (by simp)
  unfold TxDevice.stopped
  cases caller with
  | deactivate => exact hidle
  | close =>
    dsimp only
    split
    · exact hidle
    · next hstatus =>
      have hnone := hclose rfl (not_not.mp hstatus)
      exact { hidle with
        active := by simp [hnone]
        token := by simp [hnone]
        place := by simp [TxLifecyclePc.handle]
        worker := by simp [hthread] }
  | destroy =>
    exact { hidle with
      active := fun txHandle htrace => (hidle.active txHandle htrace).imp_right (by
        simp [TxLifecyclePc.isRaising])
      token := by simp
      place := by simp [TxLifecyclePc.handle]
      worker := by simp [hthread] }

theorem Holding.configure {d : TxDevice} {pc : TxLifecyclePc} {onPps : Bool} {txHandle : UInt32}
    {calls : List SdkCall} (h : d.Holding pc) (hraise : pc.isRaising = false) (hdestroyed : pc ≠ .destroyed)
    (htoken : d.tokenHandle = some txHandle) (hcalls : ∀ call ∈ calls, call.kind = .configuration) :
    (d.configure onPps txHandle calls).device.Holding (d.configure onPps txHandle calls).pc := by
  cases calls with
  | nil => exact h.goto hraise (fun _ hpc => Option.some.inj hpc ▸ htoken) hdestroyed
  | cons call rest =>
    have haside : (SdkEvent.issued call).aside := by
      simp [SdkEvent.aside, SdkEvent.kind, hcalls call List.mem_cons_self]
    exact (h.logged haside).goto hraise (fun _ hpc => Option.some.inj hpc ▸ htoken) hdestroyed

theorem Holding.begin {d : TxDevice} {step : TxLifecycleStep} (h : d.Holding .idle)
    (hmove : BeginMove d step) : step.device.Holding step.pc := by
  cases hmove with
  | rejected => exact h
  | setup handle short =>
    exact (h.logged SdkEvent.issued_readSysTimestampFreq_aside).same rfl (fun _ => id) rfl rfl rfl (by simp [TxLifecyclePc.isRaising])
      (by simp [TxLifecyclePc.handle]) (by simp)
  | activates onPps handle htoken =>
    exact h.configure rfl (by simp) (by simp [tokenHandle, htoken]) (d.activationCalls_kind _)
  | stops => exact h.goto rfl (by simp [TxLifecyclePc.handle]) (by simp)

/-! ### The call in progress -/

theorem Holding.started {d : TxDevice} {txHandle : UInt32} (h : d.Holding (.starting txHandle)) :
    { d.log (.returned (.startTxStreaming txHandle) (.ok 0)) with txStreamActive := true }.Holding
      .resetUnderruns where
  active := by simp
  token txHandle' htrace _ := by
    rw [log_trace, heldTx_append] at htrace
    obtain rfl : txHandle = txHandle' := Option.some.inj htrace
    exact h.place _ rfl
  place := by simp [TxLifecyclePc.handle]
  worker := h.worker
  pending := h.pending.other rfl rfl

/-- A stop that the SDK does not confirm, on the way to the end of `stopTxStream`. -/
theorem Holding.unstopped {d : TxDevice} {caller : StopCaller} {txHandle : UInt32} {status : ℤ}
    (h : d.Holding (.stopping caller txHandle)) (hstatus : status ≠ 0) (hdevice : status ≠ noDevice) :
    (d.log (.returned (stopCall caller txHandle) (.ok status))).Holding (.joining caller) := by
  have hunreleased : released (.ok status) = false := by simp [released, hstatus, hdevice]
  refine h.same ?_ (fun _ hp => hp.other rfl ?_) rfl rfl rfl (by simp [TxLifecyclePc.isRaising])
    (by simp [TxLifecyclePc.handle]) (by simp)
  · rw [log_trace, heldTx_append, stopCall]
    split <;> simp [SdkEvent.hold, hunreleased]
  · rw [stopCall]
    split <;> rfl

/-- A stop that the SDK confirms. -/
theorem Holding.confirmed {d : TxDevice} {caller : StopCaller} {txHandle : UInt32} {status : ℤ}
    (h : d.Holding (.stopping caller txHandle)) (hstatus : status = 0 ∨ status = noDevice) :
    heldTx (d.log (.returned (stopCall caller txHandle) (.ok status))).trace = none ∧
      { d.log (.returned (stopCall caller txHandle) (.ok status)) with
        txStreamActive := false }.Holding (.joining caller) := by
  have hreleased : released (.ok status) = true := by simp [released, hstatus]
  have hnone : heldTx (d.log (.returned (stopCall caller txHandle) (.ok status))).trace = none := by
    rw [log_trace, heldTx_append, stopCall]
    split <;> simp [SdkEvent.hold, hreleased]
  refine ⟨hnone, ?_⟩
  exact
    { active := fun txHandle' htrace => by rw [hnone] at htrace; cases htrace
      token := fun txHandle' htrace => by rw [hnone] at htrace; cases htrace
      place := by simp [TxLifecyclePc.handle]
      worker := h.worker
      pending := h.pending.other rfl (by rw [stopCall]; split <;> rfl) }

theorem Holding.lifecycle {free : Mutex → Bool} {d : TxDevice} {pc : TxLifecyclePc}
    {step : TxLifecycleStep} (hs : d.Standing pc) (h : d.Holding pc)
    (hmove : LifecycleMove free d pc step) : step.device.Holding step.pc := by
  -- Nothing is held while the stream is inactive.
  have hnone : d.txStreamActive = false → pc.isRaising = false → heldTx d.trace = none := by
    intro hinactive hraise
    refine Option.eq_none_iff_forall_ne_some.mpr fun txHandle htrace => ?_
    simpa [hinactive, hraise] using h.active txHandle htrace
  cases hmove with
  | flagged =>
    exact h.same rfl (fun _ => id) rfl rfl rfl (by simp [TxLifecyclePc.isRaising])
      (by simp [TxLifecyclePc.handle]) (by simp)
  | notifiedCv | notifiedChanged | drained | waits | woken =>
    exact h.goto rfl (by simp [TxLifecyclePc.handle]) (by simp)
  | stops caller handle hthread htoken =>
    have hissued := (h.joined hthread).issued (stopCall caller handle.txHandle) (by
      rw [stopCall]
      split <;> simp)
    refine hissued.goto rfl (fun txHandle hpc => ?_) (by simp)
    obtain rfl : handle.txHandle = txHandle := Option.some.inj hpc
    simp [tokenHandle, htoken]
  | unneeded caller hthread hidle =>
    refine (h.joined hthread).stopped rfl fun _ _ => hnone ?_ rfl
    exact hidle.elim (fun htoken => hs.inactive_of_none htoken (by simp)) id
  | unstopped caller txHandle status hstatus hdevice =>
    exact (h.unstopped hstatus hdevice).stopped hs.place.1 fun _ hzero => absurd hzero hstatus
  | stopped caller txHandle status hstatus =>
    obtain ⟨hfreed, hconfirmed⟩ := h.confirmed hstatus
    exact hconfirmed.stopped hs.place.1 fun _ _ => hfreed
  | unconfigured onPps txHandle call rest =>
    obtain ⟨-, -, -, hcalls⟩ := hs.place
    have haside : ∀ status, (SdkEvent.returned call (.ok status)).aside := fun status => by
      simp [SdkEvent.aside, SdkEvent.kind, hcalls call List.mem_cons_self]
    exact (h.logged (haside _)).goto rfl (by simp [TxLifecyclePc.handle]) (by simp)
  | configured onPps txHandle call rest =>
    obtain ⟨-, -, -, hcalls⟩ := hs.place
    have haside : (SdkEvent.returned call (.ok 0)).aside := by
      simp [SdkEvent.aside, SdkEvent.kind, hcalls call List.mem_cons_self]
    exact (h.logged haside).configure rfl (by simp) (h.place _ rfl)
      fun next hnext => hcalls next (List.mem_cons_of_mem _ hnext)
  | resetPps txHandle =>
    exact h.same rfl (fun _ => id) rfl rfl rfl (by simp [TxLifecyclePc.isRaising]) h.place (by simp)
  | resetNow txHandle =>
    have hissued := h.issued (.startTxStreaming txHandle) (by simp)
    exact hissued.same rfl (fun _ => id) rfl rfl rfl (by simp [TxLifecyclePc.isRaising]) h.place
      (by simp)
  | resetStart txHandle =>
    exact h.same rfl (fun _ => id) rfl rfl rfl (by simp [TxLifecyclePc.isRaising]) h.place (by simp)
  | created txHandle =>
    have hfree : ∀ held, heldTx d.trace ≠ some held := by simp [hnone hs.place.2.1 rfl]
    exact
      { active := fun held htrace => absurd htrace (hfree held)
        token := fun held htrace => absurd htrace (hfree held)
        place := by simp [TxLifecyclePc.handle]
        worker := h.place
        pending := by
          have hpending := h.pending
          rwa [show d.ppsStarting = false by simp [ppsStarting, hs.place.1]] at hpending }
  | uncreated => exact h.goto rfl (by simp [TxLifecyclePc.handle]) (by simp)
  | raised =>
    exact h.same rfl (fun _ => id) rfl rfl rfl (fun _ => .inr rfl) (by simp [TxLifecyclePc.handle]) (by simp)
  | unstarted txHandle status hstatus =>
    refine h.same ?_ (fun _ hp => hp.other rfl rfl) rfl rfl rfl (by simp [TxLifecyclePc.isRaising])
      (by simp [TxLifecyclePc.handle]) (by simp)
    rw [done_device, log_trace, heldTx_append]
    simp [SdkEvent.hold, startSucceeded, hstatus]
  | started txHandle => exact h.started
  | resetUnderruns =>
    exact h.same rfl (fun _ => id) rfl rfl rfl (by simp [TxLifecyclePc.isRaising])
      (by simp [TxLifecyclePc.handle]) (by simp)
  | activated =>
    exact { h with
      active := fun _ _ => .inl rfl
      token := fun txHandle htrace _ => h.token txHandle htrace (by simp)
      place := by simp [TxLifecyclePc.handle] }
  | opened =>
    exact h.same rfl (fun _ => id) rfl rfl rfl (by simp [TxLifecyclePc.isRaising])
      (by simp [TxLifecyclePc.handle]) (by simp)
  | unread =>
    exact (h.logged (SdkEvent.returned_readSysTimestampFreq_aside _)).goto rfl (by simp [TxLifecyclePc.handle]) (by simp)
  | read =>
    exact (h.logged (SdkEvent.returned_readSysTimestampFreq_aside _)).goto rfl (by simp [TxLifecyclePc.handle]) (by simp)
  | unallocated => exact h.goto rfl (by simp [TxLifecyclePc.handle]) (by simp)
  | allocated =>
    exact h.same rfl (fun _ => id) rfl rfl rfl (by simp [TxLifecyclePc.isRaising])
      (by simp [TxLifecyclePc.handle]) (by simp)
  | published handle =>
    have hfree : ∀ held, heldTx d.trace ≠ some held := by
      simp [hnone (hs.inactive_of_none hs.place.1 (by simp)) rfl]
    have hthread : d.txStreamingThread = none := by
      refine Option.eq_none_iff_forall_ne_some.mpr fun worker hworker => ?_
      have hactive := hs.active_of_joinable rfl (by simp [hworker])
      simp [hs.inactive_of_none hs.place.1 (by simp)] at hactive
    exact
      { h with
        active := fun held htrace => absurd htrace (hfree held)
        token := fun held htrace => absurd htrace (hfree held)
        place := by simp [TxLifecyclePc.handle]
        worker := by simp [hthread] }

/-! ### The PPS worker -/

theorem Holding.pps {d d' : TxDevice} {pc : TxLifecyclePc} {wake : Wake} (hs : d.Standing pc)
    (h : d.Holding pc) (hmove : PpsMove d d' wake) : d'.Holding pc := by
  have hjoin : ∀ worker, d.txStreamingThread = some worker →
      d.txStreamActive = true ∨ pc.isRaising = true := fun worker hworker =>
    hs.joinable (by simp [hworker])
  cases hmove with
  | issued txHandle hthread =>
    have hheld : heldTx (d.trace ++ [.issued (.startTxStreamingOn1pps txHandle)]) = heldTx d.trace :=
      (heldTx_append _ _).trans (SdkEvent.hold_issued _ _)
    have hpending := h.pending.count
    simp only [ppsStarting, hthread, Option.map_some, PpsWorker.isStarting, Option.getD_some,
      Bool.toNat_false, Nat.add_zero] at hpending
    exact
      { active := fun txHandle' htrace => h.active txHandle' (hheld.symm.trans htrace)
        token := fun txHandle' htrace => h.token txHandle' (hheld.symm.trans htrace)
        place := h.place
        worker := fun txHandle' hworker => h.worker txHandle' (by rw [hthread]; exact hworker)
        pending := ⟨by
          simp [ppsStarting, PpsWorker.isStarting, SdkEvent.issuesPps, SdkEvent.returnsPps, hpending]⟩ }
  | returned txHandle result hthread =>
    have htoken := h.worker txHandle (by rw [hthread]; rfl)
    have hpending := h.pending.count
    simp only [ppsStarting, hthread, Option.map_some, PpsWorker.isStarting, Option.getD_some,
      Bool.toNat_true] at hpending
    have hcases : ∀ txHandle', heldTx (d.trace ++ [.returned (.startTxStreamingOn1pps txHandle) result]) =
        some txHandle' → txHandle' = txHandle ∨ heldTx d.trace = some txHandle' := by
      intro txHandle' htrace
      rw [heldTx_append] at htrace
      simp only [SdkEvent.hold] at htrace
      split at htrace
      · exact .inl (Option.some.inj htrace).symm
      · exact .inr htrace
    exact
      { active := fun _ _ => hjoin _ hthread
        token := fun txHandle' htrace hpc => (hcases txHandle' htrace).elim (fun hsame => hsame ▸ htoken)
          fun hold => h.token txHandle' hold hpc
        place := h.place
        worker := by simp [PpsWorker.handle]
        pending := ⟨by
          simp [ppsStarting, PpsWorker.isStarting, SdkEvent.issuesPps, SdkEvent.returnsPps, hpending]⟩ }
  | published status underruns hthread | notified status hthread =>
    have hpending := h.pending
    rw [show d.ppsStarting = false by simp [ppsStarting, hthread, PpsWorker.isStarting]] at hpending
    exact
      { active := h.active
        token := h.token
        place := h.place
        worker := by simp [PpsWorker.handle]
        pending := hpending }

end TxDevice

/-! ## The system -/

namespace TxSystem

/-- The hardware is held in the way that the device knows. -/
def Held (s : TxSystem) : Prop := s.device.Holding s.lifecycle

theorem Held.notify {s : TxSystem} (h : s.Held) (wake : Wake) : (s.notify wake).Held := by
  cases wake with
  | nobody | cv => exact h
  | changed =>
    unfold Held at h ⊢
    simp only [TxSystem.notify]
    split
    · next hparked =>
      rw [hparked] at h
      exact h.goto rfl (by simp [TxLifecyclePc.handle]) (by simp)
    · exact h

/-- A call's step: its events are of its own kind. -/
theorem Held.call {s : TxSystem} (h : s.Held) {d' : TxDevice} (hframe : CallFrame s.device d')
    {events : List SdkEvent} (htrace : d'.trace = s.device.trace ++ events)
    (hevents : ∀ e ∈ events, e.aside) : d'.Holding s.lifecycle := by
  have hheld : heldTx d'.trace = heldTx s.device.trace := by
    rw [htrace, heldTx_aside hevents]
  refine h.same hheld (fun pending hp => ?_) hframe.txStreamActive hframe.activeTxStream
    hframe.txStreamingThread .inr h.place id
  have hnone : ∀ p : SdkEvent → Bool, (∀ e ∈ events, p e = false) → events.countP p = 0 :=
    fun p hp => List.countP_eq_zero.mpr fun e he => by simp [hp e he]
  refine ⟨?_⟩
  rw [htrace, List.countP_append, List.countP_append,
    hnone _ fun e he => (SdkEvent.pps_aside (hevents e he)).1,
    hnone _ fun e he => (SdkEvent.pps_aside (hevents e he)).2, hp.count]
  omega

theorem held_step {s t : TxSystem} {a : TxAction} (hs : s.Admission) (h : s.Held)
    (hstep : TxStep s a t) : t.Held := by
  cases hstep with
  | writeStream | readStreamStatus => exact h
  | writer id input w w' d' hw hmove =>
    obtain ⟨events, htrace, hkind⟩ := hmove.trace
    have hset : (s.setWriter id d' w').Held := h.call hmove.frame htrace fun e he => by
      simp [SdkEvent.aside, (hkind e he).1]
    exact hset.notify _
  | poller id input p p' d' hp hmove =>
    obtain ⟨events, htrace, hkind⟩ := hmove.trace
    have hset : (s.setPoller id d' p').Held := h.call hmove.frame htrace fun e he => by
      simp [SdkEvent.aside, (hkind e he).1]
    exact hset.notify _
  | pps result d' wake hmove =>
    have hset : (s.setDevice d').Held := TxDevice.Holding.pps hs.standing h hmove
    exact hset.notify _
  | complete index context =>
    have htrace : (s.device.callBack index context).trace = s.device.trace ++ [] := by
      obtain ⟨_, _, heq⟩ := callBack_changes s.device index context
      simp [heq]
    exact h.call (s.device.callBack_frame index context) htrace (by simp)
  | notifyCompletion index wake =>
    have hset : (s.setDevice { s.device with
        toNotify := s.device.toNotify.eraseIdx index }).Held :=
      h.call { CallFrame.refl s.device with } (List.append_nil _).symm (by simp)
    exact hset.notify _
  | call call step hidle hbegin hmove =>
    have hholding : s.device.Holding .idle := hidle ▸ h
    exact hholding.begin hmove
  | lifecycle input step hmove =>
    have hset : (s.setLifecycle step).Held := TxDevice.Holding.lifecycle hs.standing h hmove
    exact hset.notify _

theorem held_create (config : TxConfiguration) : (create config).Held where
  active := by simp [create, TxDevice.create, heldTx]
  token := by simp [create, TxDevice.create, heldTx]
  place := by simp [create, TxLifecyclePc.handle]
  worker := by simp [create, TxDevice.create]
  pending := ⟨rfl⟩

theorem Reachable.held {config : TxConfiguration} {s : TxSystem} (h : Reachable config s) : s.Held := by
  obtain ⟨actions, hrun⟩ := h
  have hboth := Transition.run_invariant (I := fun s => s.Admission ∧ s.Held)
    (fun _ _ _ h hnext => ⟨admission_step h.1 (step_of_next hnext),
      held_step h.1 h.2 (step_of_next hnext)⟩) ⟨admission_create config, held_create config⟩ hrun
  exact hboth.2

end TxSystem

end SoapySidekiq
