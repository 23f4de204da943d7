import SoapySidekiq.Tx.Steps

/-! # Admission

The counters are the numbers of admitted calls, calls are admitted only into a live stream, and what
the lifecycle keeps at each of its places: after the drain the admission flag stays set and the
counters stay zero until an activation opens admission again. -/
set_option autoImplicit false

namespace SoapySidekiq

/-! ## Places of the lifecycle -/

namespace TxLifecyclePc

/-- The call has set the flag that closes admission, or has found it set. -/
def isClosed (pc : TxLifecyclePc) : Bool :=
  match pc with
  | .idle | .stopFlag _ => false
  | _ => true

/-- `stopTxWrites` has set the flag and waits for the admitted calls. -/
def isDraining (pc : TxLifecyclePc) : Bool :=
  match pc with
  | .notifyCv _ | .notifyChanged _ | .draining _ | .drainParked _ => true
  | _ => false

/-- The activation has created the PPS thread and not yet set `tx_stream_active`. -/
def isRaising (pc : TxLifecyclePc) : Bool :=
  match pc with
  | .raiseGate | .activated => true
  | _ => false

end TxLifecyclePc

namespace TxDevice

/-- The block pool and the completion state have the size of the device's ring. -/
def PoolReady (d : TxDevice) : Prop :=
  (d.completions.map fun c => c.slots.length)[d.txCompletion]? = some d.config.txBufferCount ∧
    d.txBlocks.map List.length = some d.config.txBufferCount ∧
    d.txBlockIndex < d.config.txBufferCount

/-- What the call in progress knows at its place. -/
def Place (d : TxDevice) : TxLifecyclePc → Prop
  | .stopping _ _ =>
    d.txStreamingThread = none ∧ d.txStreamActive = true ∧ d.activeTxStream.isSome = true
  | .configuring _ _ call rest =>
    d.txStreamingThread = none ∧ d.txStreamActive = false ∧ d.activeTxStream.isSome = true ∧
      ∀ next ∈ call :: rest, next.kind = .configuration
  | .resetGate _ _ | .resetStart _ | .creating _ | .starting _ =>
    d.txStreamingThread = none ∧ d.txStreamActive = false ∧ d.activeTxStream.isSome = true
  | .resetUnderruns =>
    d.txStreamingThread = none ∧ d.txStreamActive = true ∧ d.activeTxStream.isSome = true
  | .raiseGate | .activated => d.activeTxStream.isSome = true
  | .opening => d.txStreamActive = true ∧ d.activeTxStream.isSome = true
  | .settingUp _ | .allocating _ => d.activeTxStream = none
  | .publishing _ => d.activeTxStream = none ∧ d.PoolReady
  | .destroyed => d.txStreamingThread = none
  | _ => True

/-- What the device satisfies while the lifecycle is at `pc`. -/
structure Standing (d : TxDevice) (pc : TxLifecyclePc) : Prop where
  closed : pc.isClosed = true → d.txWritesStopping = true
  drained : d.txWritesStopping = true → pc.isDraining = false →
    d.activeTxWriters = 0 ∧ d.activeTxStatusReaders = 0
  live : d.txWritesStopping = false ∨ 0 < d.activeTxWriters ∨ 0 < d.activeTxStatusReaders →
    d.txStreamActive = true ∧ d.activeTxStream.isSome = true
  pool : d.activeTxStream.isSome = true → d.PoolReady
  token : d.txStreamActive = true → pc ≠ .destroyed → d.activeTxStream.isSome = true
  joinable : d.txStreamingThread.isSome = true → d.txStreamActive = true ∨ pc.isRaising = true
  place : d.Place pc
  alive : d.terminated = false

/-! ## Steps of calls, completions and the PPS worker -/

theorem PoolReady.frame {d d' : TxDevice} (h : d.PoolReady) (hf : CallFrame d d') :
    d'.PoolReady := by
  obtain ⟨hslots, hblocks, hindex⟩ := h
  refine ⟨?_, ?_, ?_⟩
  · rw [hf.slotCounts, hf.txCompletion, hf.config]; exact hslots
  · rw [hf.blockCount, hf.config]; exact hblocks
  · rw [hf.config]; exact hf.blockIndex hindex

theorem Place.frame {d d' : TxDevice} {pc : TxLifecyclePc} (h : d.Place pc) (hf : CallFrame d d') :
    d'.Place pc := by
  cases pc with
  | publishing handle => exact ⟨hf.activeTxStream.trans h.1, h.2.frame hf⟩
  | _ =>
    simp only [Place, hf.txStreamingThread, hf.txStreamActive, hf.activeTxStream]
    try exact h

/-- A call's step, which lowers the counters unless admission is open. -/
theorem Standing.frame {d d' : TxDevice} {pc : TxLifecyclePc} (h : d.Standing pc)
    (hf : CallFrame d d')
    (hw : d'.activeTxWriters ≤ d.activeTxWriters ∨ d.txWritesStopping = false)
    (hr : d'.activeTxStatusReaders ≤ d.activeTxStatusReaders ∨ d.txWritesStopping = false) :
    d'.Standing pc where
  closed hpc := by rw [hf.txWritesStopping]; exact h.closed hpc
  drained hstop hpc := by
    rw [hf.txWritesStopping] at hstop
    have := h.drained hstop hpc
    simp only [hstop, Bool.true_eq_false, or_false] at hw hr
    omega
  live hlive := by
    rw [hf.txStreamActive, hf.activeTxStream]
    apply h.live
    rw [hf.txWritesStopping] at hlive
    cases hstop : d.txWritesStopping with
    | false => exact .inl rfl
    | true =>
      simp only [hstop, Bool.true_eq_false, or_false, false_or] at hw hr hlive ⊢
      omega
  pool htoken := (h.pool (by rwa [hf.activeTxStream] at htoken)).frame hf
  token hactive hpc := by
    rw [hf.activeTxStream]
    exact h.token (by rwa [hf.txStreamActive] at hactive) hpc
  joinable hthread := by
    rw [hf.txStreamActive]
    exact h.joinable (by rwa [hf.txStreamingThread] at hthread)
  place := h.place.frame hf
  alive := by rw [hf.terminated]; exact h.alive

theorem callBack_frame (d : TxDevice) (index : ℕ) (context : TxSendContext) :
    CallFrame d (d.callBack index context) := by
  unfold callBack completeTx
  dsimp only
  split
  · exact { CallFrame.refl d with }
  · next c hc =>
    split
    · refine { CallFrame.refl d with slotCounts := ?_ }
      obtain ⟨hlt, rfl⟩ := List.getElem?_eq_some_iff.mp hc
      rw [List.map_set, List.length_set]
      exact List.ext_getElem (by simp) fun i hi _ => by
        rw [List.getElem_set]
        split <;> simp_all
    · exact { CallFrame.refl d with }

theorem Standing.pps {d d' : TxDevice} {pc : TxLifecyclePc} {wake : Wake} (h : d.Standing pc)
    (hmove : PpsMove d d' wake) : d'.Standing pc := by
  have hplace : d.txStreamingThread.isSome = true → d.Place pc →
      ∀ e : TxDevice, e.activeTxStream = d.activeTxStream → e.txStreamActive = d.txStreamActive →
      (d.PoolReady → e.PoolReady) → e.Place pc := by
    intro hthread hp e htoken hactive hpool
    unfold Place at hp ⊢
    split at hp <;> simp_all
  cases hmove with
  | issued _ hthread | returned _ _ hthread | published _ _ hthread | notified _ hthread =>
    have hsome : d.txStreamingThread.isSome = true := by simp [hthread]
    exact { h with
      pool := h.pool
      joinable := fun _ => h.joinable hsome
      place := hplace hsome h.place _ rfl rfl id }

/-! ## Steps of the lifecycle -/

theorem Standing.logged {d : TxDevice} {pc : TxLifecyclePc} (h : d.Standing pc) (event : SdkEvent) :
    (d.log event).Standing pc :=
  h.frame { CallFrame.refl d with } (.inl (Nat.le_refl _)) (.inl (Nat.le_refl _))

theorem Standing.active_of_joinable {d : TxDevice} {pc : TxLifecyclePc} (h : d.Standing pc)
    (hraise : pc.isRaising = false) (hjoin : d.txStreamingThread.isSome = true) :
    d.txStreamActive = true := by
  simpa [hraise] using h.joinable hjoin

theorem Standing.idle {d : TxDevice} {pc : TxLifecyclePc} (h : d.Standing pc)
    (hdrain : pc.isDraining = false) (hraise : pc.isRaising = false)
    (hdestroyed : pc ≠ .destroyed) : d.Standing .idle where
  closed hpc := by simp [TxLifecyclePc.isClosed] at hpc
  drained hstop _ := h.drained hstop hdrain
  live := h.live
  pool := h.pool
  token hactive _ := h.token hactive hdestroyed
  joinable hjoin := .inl (h.active_of_joinable hraise hjoin)
  place := trivial
  alive := h.alive

theorem Standing.closed_of_inactive {d : TxDevice} {pc : TxLifecyclePc} (h : d.Standing pc)
    (hactive : d.txStreamActive = false) : d.txWritesStopping = true := by
  cases hstop : d.txWritesStopping with
  | true => rfl
  | false => simpa [hactive] using h.live (.inl hstop)

theorem Standing.inactive_of_none {d : TxDevice} {pc : TxLifecyclePc} (h : d.Standing pc)
    (htoken : d.activeTxStream = none) (hpc : pc ≠ .destroyed) : d.txStreamActive = false := by
  cases hactive : d.txStreamActive with
  | false => rfl
  | true => simpa [htoken] using h.token hactive hpc

theorem activationCalls_kind (d : TxDevice) (txHandle : UInt32) :
    ∀ call ∈ d.activationCalls txHandle, call.kind = .configuration := by
  intro call hcall
  unfold activationCalls at hcall
  split at hcall <;> simp only [List.mem_append, List.mem_cons, List.not_mem_nil, or_false] at hcall
  all_goals
    rcases hcall with hcall | hcall | hcall | hcall | hcall <;> first | contradiction | (subst hcall; rfl)

theorem Standing.begin {d : TxDevice} {step : TxLifecycleStep} (h : d.Standing .idle)
    (hmove : BeginMove d step) : step.device.Standing step.pc := by
  cases hmove with
  | rejected result => exact h.idle rfl rfl (by simp)
  | activates onPps handle htoken hactive hthread =>
    have hkind := d.activationCalls_kind handle.txHandle
    have hclosed := h.closed_of_inactive hactive
    have hsome : d.activeTxStream.isSome = true := by rw [htoken]; rfl
    revert hkind
    cases d.activationCalls handle.txHandle with
    | nil =>
      intro hkind
      exact { h with
        closed := fun _ => hclosed
        token := fun hactive _ => h.token hactive (by simp)
        joinable := fun hjoin => .inl (h.active_of_joinable rfl hjoin)
        place := ⟨hthread, hactive, hsome⟩ }
    | cons call rest =>
      intro hkind
      exact { h.logged (.issued call) with
        closed := fun _ => hclosed
        token := fun hactive _ => h.token hactive (by simp)
        joinable := fun hjoin => .inl (h.active_of_joinable rfl hjoin)
        place := ⟨hthread, hactive, hsome, hkind⟩ }
  | setup handle short htoken =>
    have hactive := h.inactive_of_none htoken (by simp)
    exact { h.logged (.issued .readSysTimestampFreq) with
      closed := fun _ => h.closed_of_inactive hactive
      token := fun hactive _ => h.token hactive (by simp)
      joinable := fun hjoin => .inl (h.active_of_joinable rfl hjoin)
      place := htoken }
  | stops caller =>
    exact { h with
      closed := by simp [TxLifecyclePc.isClosed]
      token := fun hactive _ => h.token hactive (by simp)
      place := trivial }

/-- The end of `stopTxStream`, with the worker joined. -/
theorem Standing.stopped {d : TxDevice} {caller : StopCaller} {status : ℤ}
    (h : d.Standing (.joining caller)) (hthread : d.txStreamingThread = none)
    (hactive : status = 0 → d.txStreamActive = false) :
    (d.stopped caller status).device.Standing (d.stopped caller status).pc := by
  obtain ⟨hclosed, hdrained, hlive, hpool, htoken, hjoin, hplace, halive⟩ := h
  unfold TxDevice.stopped
  cases caller with
  | close =>
    dsimp only
    split <;> constructor <;> simp_all [TxLifecyclePc.isClosed, TxLifecyclePc.isDraining,
      TxLifecyclePc.isRaising, Place, PoolReady]
  | deactivate | destroy =>
    constructor <;> simp_all [TxLifecyclePc.isClosed, TxLifecyclePc.isDraining,
      TxLifecyclePc.isRaising, Place, PoolReady]

/-- The device at the join, with the thread joined. -/
theorem Standing.joined {d : TxDevice} {caller : StopCaller} (h : d.Standing (.joining caller)) :
    { d with txStreamingThread := none }.Standing (.joining caller) :=
  { h with
    joinable := by simp
    place := trivial }

theorem initializeTxBuffers_poolReady (d : TxDevice) : d.initializeTxBuffers.PoolReady := by
  refine ⟨?_, ?_, d.config.bufferCount_pos⟩
  · simp [initializeTxBuffers]
  · simp [initializeTxBuffers]

theorem Standing.configure {d : TxDevice} {onPps : Bool} {txHandle : UInt32} {call : SdkCall}
    {rest : List SdkCall} (h : d.Standing (.configuring onPps txHandle call rest)) :
    (d.configure onPps txHandle rest).device.Standing (d.configure onPps txHandle rest).pc := by
  obtain ⟨hthread, hactive, htoken, hcalls⟩ := h.place
  cases rest with
  | nil =>
    exact { h with
      token := fun hactive _ => h.token hactive (by simp)
      place := ⟨hthread, hactive, htoken⟩ }
  | cons next rest =>
    exact { h.logged (.issued next) with
      token := fun hactive _ => (h.logged (.issued next)).token hactive (by simp)
      place := ⟨hthread, hactive, htoken, fun c hc => hcalls c (List.mem_cons_of_mem _ hc)⟩ }

theorem Standing.lifecycle {free : Mutex → Bool} {d : TxDevice} {pc : TxLifecyclePc}
    {step : TxLifecycleStep} (h : d.Standing pc) (hmove : LifecycleMove free d pc step) :
    step.device.Standing step.pc := by
  cases hmove with
  | unneeded caller hthread hidle =>
    refine h.joined.stopped rfl fun _ => ?_
    rcases hidle with htoken | hactive
    · exact h.inactive_of_none htoken (by simp)
    · exact hactive
  | unstopped caller txHandle status hstatus =>
    have hjoining : d.Standing (.joining caller) :=
      { h with
        joinable := by simp [h.place.1]
        token := fun _ _ => h.place.2.2
        place := trivial }
    exact (hjoining.logged _).stopped h.place.1 fun hzero => absurd hzero hstatus
  | stopped caller txHandle status =>
    have hjoining : { d.log (.returned (stopCall caller txHandle) (.ok status)) with
        txStreamActive := false }.Standing (.joining caller) :=
      { h.logged (.returned (stopCall caller txHandle) (.ok status)) with
        live := by simp [h.closed rfl, h.drained (h.closed rfl) rfl]
        joinable := by simp [h.place.1]
        token := by simp
        place := trivial }
    exact hjoining.stopped h.place.1 fun _ => rfl
  | configured onPps txHandle call rest => exact (h.logged _).configure
  | allocated handle =>
    have hnone : d.activeTxStream = none := h.place
    exact { h with
      live := h.live
      pool := fun _ => d.initializeTxBuffers_poolReady
      token := fun hactive _ => h.token hactive (by simp)
      place := ⟨hnone, d.initializeTxBuffers_poolReady⟩ }
  | notifiedCv | notifiedChanged | waits | woken =>
    exact { h with
      closed := fun _ => h.closed rfl
      drained := nofun
      token := fun hactive _ => h.token hactive (by simp)
      place := trivial }
  | drained caller hwriters hreaders =>
    exact { h with
      closed := fun _ => h.closed rfl
      drained := fun _ _ => ⟨hwriters, hreaders⟩
      token := fun hactive _ => h.token hactive (by simp)
      place := trivial }
  | uncreated | unallocated => exact h.idle rfl rfl (by simp)
  | unconfigured | unstarted | unread => exact (h.logged _).idle rfl rfl (by simp)
  | _ =>
    obtain ⟨hclosed, hdrained, hlive, hpool, htoken, hjoin, hplace, halive⟩ := h
    constructor <;> simp_all [TxLifecyclePc.isClosed, TxLifecyclePc.isDraining,
      TxLifecyclePc.isRaising, Place, PoolReady]

end TxDevice

/-! ## The system -/

namespace TxSystem

/-- The counters count the admitted calls, and the device stands where the lifecycle is. -/
structure Admission (s : TxSystem) : Prop where
  writers : s.device.activeTxWriters = s.writers.countP Writer.admitted
  readers : s.device.activeTxStatusReaders = s.pollers.countP Poller.admitted
  standing : s.device.Standing s.lifecycle

theorem Admission.notify {s : TxSystem} (h : s.Admission) (wake : Wake) : (s.notify wake).Admission := by
  cases wake with
  | nobody => exact h
  | cv =>
    exact { h with
      writers := h.writers.trans (ThreadPool.countP_map Writer.wakeCv_admitted _).symm }
  | changed =>
    refine ⟨?_, ?_, ?_⟩
    · exact h.writers.trans (ThreadPool.countP_map Writer.wakeChanged_admitted _).symm
    · exact h.readers.trans (ThreadPool.countP_map Poller.wakeChanged_admitted _).symm
    · simp only [TxSystem.notify]
      split
      · next hpc =>
        have hstanding := hpc ▸ h.standing
        exact { hstanding with token := fun hactive _ => hstanding.token hactive (by simp) }
      · exact h.standing

theorem Admission.writer_pos {s : TxSystem} (h : s.Admission) {id : ℕ} {w : Writer}
    (hw : s.writers[id]? = some w) (hadmitted : w.admitted = true) : 0 < s.device.activeTxWriters :=
  h.writers ▸ ThreadPool.countP_pos hw hadmitted

theorem Admission.reader_pos {s : TxSystem} (h : s.Admission) {id : ℕ} {p : Poller}
    (hp : s.pollers[id]? = some p) (hadmitted : p.admitted = true) :
    0 < s.device.activeTxStatusReaders :=
  h.readers ▸ ThreadPool.countP_pos hp hadmitted

theorem Admission.writer {s : TxSystem} {id : ℕ} {w w' : Writer} {d' : TxDevice} (h : s.Admission)
    (hw : s.writers[id]? = some w) (hmove : WriterMove s.device id w d' w') :
    (s.setWriter id d' w').Admission := by
  refine ⟨?_, hmove.readers.trans h.readers, ?_⟩
  · have hcount := hmove.counted (h.writer_pos hw)
    have hset := ThreadPool.countP_set (p := Writer.admitted) (b := w') hw
    have hwriters := h.writers
    simp only [setWriter_device, setWriter_writers]
    omega
  · exact h.standing.frame hmove.frame hmove.lowers (.inl (Nat.le_of_eq hmove.readers))

theorem Admission.poller {s : TxSystem} {id : ℕ} {p p' : Poller} {d' : TxDevice} (h : s.Admission)
    (hp : s.pollers[id]? = some p) (hmove : PollerMove s.device p d' p') :
    (s.setPoller id d' p').Admission := by
  have hwriters : d'.activeTxWriters = s.device.activeTxWriters := by
    obtain ⟨readers, underruns, events, rfl⟩ := hmove.changes
    rfl
  refine ⟨hwriters.trans h.writers, ?_, ?_⟩
  · have hcount := hmove.counted (h.reader_pos hp)
    have hset := ThreadPool.countP_set (p := Poller.admitted) (b := p') hp
    have hreaders := h.readers
    simp only [setPoller_device, setPoller_pollers]
    omega
  · exact h.standing.frame hmove.frame (.inl (Nat.le_of_eq hwriters)) hmove.lowers

theorem Admission.lifecycle {s : TxSystem} {step : TxLifecycleStep} (h : s.Admission)
    (hwriters : step.device.activeTxWriters = s.device.activeTxWriters)
    (hreaders : step.device.activeTxStatusReaders = s.device.activeTxStatusReaders)
    (hstanding : step.device.Standing step.pc) : (s.setLifecycle step).Admission :=
  ⟨hwriters.trans h.writers, hreaders.trans h.readers, hstanding⟩

theorem admission_step {s t : TxSystem} {a : TxAction} (h : s.Admission) (hstep : TxStep s a t) :
    t.Admission := by
  cases hstep with
  | writeStream request =>
    refine { h with writers := ?_ }
    rw [List.countP_append]
    exact h.writers
  | readStreamStatus request =>
    refine { h with readers := ?_ }
    rw [List.countP_append]
    exact h.readers
  | writer id input w w' d' hw hmove => exact (h.writer hw hmove).notify _
  | poller id input p p' d' hp hmove => exact (h.poller hp hmove).notify _
  | pps result d' wake hmove =>
    have hset : (s.setDevice d').Admission := by
      refine ⟨?_, ?_, h.standing.pps hmove⟩
      · cases hmove <;> exact h.writers
      · cases hmove <;> exact h.readers
    exact hset.notify wake
  | complete index context hcontext =>
    have hframe := s.device.callBack_frame index context
    obtain ⟨completions, toNotify, heq⟩ := callBack_changes s.device index context
    rw [heq] at hframe ⊢
    exact ⟨h.writers, h.readers,
      h.standing.frame hframe (.inl (Nat.le_refl _)) (.inl (Nat.le_refl _))⟩
  | notifyCompletion index wake =>
    have hset : (s.setDevice { s.device with
        toNotify := s.device.toNotify.eraseIdx index }).Admission :=
      ⟨h.writers, h.readers, h.standing.frame { CallFrame.refl s.device with }
        (.inl (Nat.le_refl _)) (.inl (Nat.le_refl _))⟩
    exact hset.notify wake
  | call call step hidle hbegin hmove =>
    obtain ⟨hwriters, hreaders⟩ := hmove.counters
    exact h.lifecycle hwriters hreaders ((hidle ▸ h.standing).begin hmove)
  | lifecycle input step hmove =>
    obtain ⟨hwriters, hreaders⟩ := hmove.counters
    exact (h.lifecycle hwriters hreaders (h.standing.lifecycle hmove)).notify _

/-! ## Runs -/

/-- The system can get there from a constructed device. -/
def Reachable (config : TxConfiguration) (s : TxSystem) : Prop :=
  ∃ actions, Transition.run next (create config) actions = some s

theorem admission_create (config : TxConfiguration) : (create config).Admission := by
  refine ⟨rfl, rfl, ?_⟩
  constructor <;> simp [create, TxDevice.create, TxDevice.Place]

theorem Reachable.admission {config : TxConfiguration} {s : TxSystem} (h : Reachable config s) :
    s.Admission := by
  obtain ⟨actions, hrun⟩ := h
  exact Transition.run_invariant (fun _ _ _ h hnext => admission_step h (step_of_next hnext))
    (admission_create config) hrun

end TxSystem

end SoapySidekiq
