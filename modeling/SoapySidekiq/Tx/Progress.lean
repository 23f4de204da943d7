import SoapySidekiq.Tx.Trace
import SoapySidekiq.Tx.Waits

/-! # The drain makes progress

Once `stopTxWrites` has set its flag and notified, nobody is parked any more, and whoever cannot move
waits for a mutex whose holder can. So the admitted calls leave, and the last one wakes the stopper. -/
set_option autoImplicit false

namespace SoapySidekiq

/-! ## Nobody sleeps through the flag -/

/-- Where a write call can be while the flag has the value `stopping` and the lifecycle stands at `pc`:
parked only as long as its notification is still to come. -/
structure Writer.Settled (stopping : Bool) (pc : TxLifecyclePc) (w : Writer) : Prop where
  sleeping : ∀ site, w.pc = .sleeping site → stopping = false
  parked : ∀ site, w.pc = .parked site → stopping = false ∨ (∃ caller, pc = .notifyCv caller) ∨
    site ≠ .pps ∧ ∃ caller, pc = .notifyChanged caller

structure Poller.Settled (stopping : Bool) (pc : TxLifecyclePc) (p : Poller) : Prop where
  sleeping : p.pc = .waitSleeping → stopping = false
  parked : p.pc = .waitParked → stopping = false ∨ (∃ caller, pc = .notifyCv caller) ∨
    ∃ caller, pc = .notifyChanged caller

theorem WriterMove.settled {d d' : TxDevice} {id : ℕ} {w w' : Writer} {pc : TxLifecyclePc}
    (h : WriterMove d id w d' w') (hw : w.Settled d.txWritesStopping pc) :
    w'.Settled d'.txWritesStopping pc := by
  rw [h.frame.txWritesStopping]
  obtain ⟨hsleeping, -⟩ := hw
  cases h with
  | waits site site' timedOut hpc hopen => exact ⟨fun _ _ => hopen, by simp⟩
  | slept site hpc => exact ⟨by simp, fun _ _ => .inl (hsleeping site hpc)⟩
  | _ => constructor <;> simp

theorem PollerMove.settled {d d' : TxDevice} {p p' : Poller} {pc : TxLifecyclePc}
    (h : PollerMove d p d' p') (hp : p.Settled d.txWritesStopping pc) :
    p'.Settled d'.txWritesStopping pc := by
  rw [h.frame.txWritesStopping]
  obtain ⟨hsleeping, -⟩ := hp
  cases h with
  | waits timedOut hpc hopen => exact ⟨fun _ => hopen, by simp⟩
  | slept hpc => exact ⟨by simp, fun _ => .inl (hsleeping hpc)⟩
  | _ => constructor <;> simp

/-- What the flag and the place of the lifecycle can become without anybody missing them. -/
theorem Writer.Settled.later {stopping stopping' : Bool} {pc pc' : TxLifecyclePc} {w : Writer}
    (h : w.Settled stopping pc) (hflag : stopping = false → stopping' = false)
    (hcv : ∀ caller, pc ≠ .notifyCv caller) (hchanged : ∀ caller, pc ≠ .notifyChanged caller) :
    w.Settled stopping' pc' where
  sleeping site hpc := hflag (h.sleeping site hpc)
  parked site hpc := by
    rcases h.parked site hpc with hopen | ⟨caller, hcaller⟩ | ⟨-, caller, hcaller⟩
    · exact .inl (hflag hopen)
    · exact absurd hcaller (hcv caller)
    · exact absurd hcaller (hchanged caller)

theorem Poller.Settled.later {stopping stopping' : Bool} {pc pc' : TxLifecyclePc} {p : Poller}
    (h : p.Settled stopping pc) (hflag : stopping = false → stopping' = false)
    (hcv : ∀ caller, pc ≠ .notifyCv caller) (hchanged : ∀ caller, pc ≠ .notifyChanged caller) :
    p.Settled stopping' pc' where
  sleeping hpc := hflag (h.sleeping hpc)
  parked hpc := by
    rcases h.parked hpc with hopen | ⟨caller, hcaller⟩ | ⟨caller, hcaller⟩
    · exact .inl (hflag hopen)
    · exact absurd hcaller (hcv caller)
    · exact absurd hcaller (hchanged caller)

namespace TxSystem

/-- Nobody has missed the flag, and the stopper, when it is parked, has not missed the last call. -/
structure Settled (s : TxSystem) : Prop where
  writers : ∀ w ∈ s.writers, w.Settled s.device.txWritesStopping s.lifecycle
  pollers : ∀ p ∈ s.pollers, p.Settled s.device.txWritesStopping s.lifecycle
  stopper : ∀ caller, s.lifecycle = .drainParked caller →
    0 < s.device.activeTxWriters ∨ 0 < s.device.activeTxStatusReaders ∨
      (∃ w ∈ s.writers, ∃ status, w.pc = .notifying status) ∨
      ∃ p ∈ s.pollers, ∃ status, p.pc = .notifying status

end TxSystem

/-! ### Notifications -/

theorem Writer.Settled.wakeCv {stopping : Bool} {pc : TxLifecyclePc} {w : Writer}
    (h : w.Settled stopping pc) : w.wakeCv.Settled stopping pc := by
  unfold Writer.wakeCv
  split
  · constructor <;> simp
  · exact h

theorem Writer.Settled.wakeChanged {stopping : Bool} {pc : TxLifecyclePc} {w : Writer}
    (h : w.Settled stopping pc) : w.wakeChanged.Settled stopping pc := by
  unfold Writer.wakeChanged
  split
  · constructor <;> simp
  · constructor <;> simp
  · constructor <;> simp
  · exact h

theorem Poller.Settled.wakeChanged {stopping : Bool} {pc : TxLifecyclePc} {p : Poller}
    (h : p.Settled stopping pc) : p.wakeChanged.Settled stopping pc := by
  unfold Poller.wakeChanged
  split
  · constructor <;> simp
  · exact h

/-- After the notification of `tx_cv` nobody is parked on it. -/
theorem Writer.Settled.notifiedCv {stopping : Bool} {caller : StopCaller} {w : Writer}
    (h : w.Settled stopping (.notifyCv caller)) :
    w.wakeCv.Settled stopping (.notifyChanged caller) := by
  unfold Writer.wakeCv
  split
  · constructor <;> simp
  · next hpps =>
    refine ⟨h.sleeping, fun site hpc => .inr (.inr ⟨?_, caller, rfl⟩)⟩
    rintro rfl
    exact hpps hpc

/-- After the notification of the completion condition nobody is parked on it. -/
theorem Writer.Settled.notifiedChanged {stopping : Bool} {caller : StopCaller} {pc : TxLifecyclePc}
    {w : Writer} (h : w.Settled stopping (.notifyChanged caller)) :
    w.wakeChanged.Settled stopping pc := by
  unfold Writer.wakeChanged
  split
  · constructor <;> simp
  · constructor <;> simp
  · constructor <;> simp
  · next hslot hfull hfirst =>
    refine ⟨h.sleeping, fun site hpc => ?_⟩
    rcases h.parked site hpc with hopen | ⟨caller, hcaller⟩ | ⟨hsite, -⟩
    · exact .inl hopen
    · cases hcaller
    · cases site with
      | pps => exact absurd rfl hsite
      | slot => exact absurd hpc hslot
      | full => exact absurd hpc hfull
      | fullFirst => exact absurd hpc hfirst

theorem Poller.Settled.notifiedChanged {stopping : Bool} {caller : StopCaller} {pc : TxLifecyclePc}
    {p : Poller} (h : p.Settled stopping (.notifyChanged caller)) :
    p.wakeChanged.Settled stopping pc := by
  unfold Poller.wakeChanged
  split
  · constructor <;> simp
  · next hparked => exact ⟨h.sleeping, fun hpc => absurd hpc hparked⟩

/-! ### Steps -/

/-- A lifecycle move is one of the first four of `stopTxWrites`, or nobody who waits for the flag has
to be told of it. -/
theorem LifecycleMove.settles {free : Mutex → Bool} {d : TxDevice} {pc : TxLifecyclePc}
    {step : TxLifecycleStep} (h : LifecycleMove free d pc step) :
    (∃ caller, pc = .stopFlag caller ∧ free .tx = true ∧ free .completion = true ∧
      step.pc = .notifyCv caller ∧ step.wake = .nobody) ∨
    (∃ caller, pc = .notifyCv caller ∧ step = d.goWake (.notifyChanged caller) .cv) ∨
    (∃ caller, pc = .notifyChanged caller ∧ step = d.goWake (.draining caller) .changed) ∨
    (∃ caller, pc = .draining caller ∧ step = d.go (.drainParked caller) ∧
      (0 < d.activeTxWriters ∨ 0 < d.activeTxStatusReaders)) ∨
    (∀ caller, pc ≠ .notifyCv caller) ∧ (∀ caller, pc ≠ .notifyChanged caller) ∧
      (d.txWritesStopping = false → step.device.txWritesStopping = false) ∧ step.wake = .nobody ∧
      ∀ caller, step.pc ≠ .drainParked caller := by
  have hstopped : ∀ (d : TxDevice) caller status,
      (d.stopped caller status).device.txWritesStopping = d.txWritesStopping ∧
        (d.stopped caller status).wake = .nobody ∧
        ∀ caller', (d.stopped caller status).pc ≠ .drainParked caller' := by
    intro d caller status
    unfold TxDevice.stopped
    cases caller with
    | close => dsimp only; split <;> simp
    | deactivate | destroy => simp
  cases h with
  | flagged caller htx hcompletion => exact .inl ⟨caller, rfl, htx, hcompletion, rfl, rfl⟩
  | notifiedCv caller => exact .inr (.inl ⟨caller, rfl, rfl⟩)
  | notifiedChanged caller => exact .inr (.inr (.inl ⟨caller, rfl, rfl⟩))
  | waits caller hcalls => exact .inr (.inr (.inr (.inl ⟨caller, rfl, rfl, hcalls⟩)))
  | configured onPps txHandle call rest =>
    refine .inr (.inr (.inr (.inr ?_)))
    cases rest <;> simp [TxDevice.configure]
  | unneeded | unstopped | stopped =>
    refine .inr (.inr (.inr (.inr ⟨by simp, by simp, ?_, (hstopped _ _ _).2.1, (hstopped _ _ _).2.2⟩)))
    rw [(hstopped _ _ _).1]
    exact id
  | allocated => exact .inr (.inr (.inr (.inr (by simp [TxDevice.initializeTxBuffers]))))
  | _ => exact .inr (.inr (.inr (.inr (by simp))))

theorem BeginMove.settles {d : TxDevice} {step : TxLifecycleStep} (h : BeginMove d step) :
    step.device.txWritesStopping = d.txWritesStopping ∧ ∀ caller, step.pc ≠ .drainParked caller := by
  cases h with
  | activates => cases d.activationCalls _ <;> simp [TxDevice.configure]
  | _ => simp

namespace TxSystem

/-- The notification of the completion condition also wakes the stopper. -/
theorem settled_changed {s : TxSystem}
    (hwriters : ∀ w ∈ s.writers, w.Settled s.device.txWritesStopping s.lifecycle)
    (hpollers : ∀ p ∈ s.pollers, p.Settled s.device.txWritesStopping s.lifecycle) :
    (s.notify .changed).Settled := by
  have hlifecycle : (s.notify .changed).lifecycle = s.lifecycle ∨
      ∃ caller, s.lifecycle = .drainParked caller := by
    simp only [TxSystem.notify]
    split
    · next caller hpc => exact .inr ⟨caller, hpc⟩
    · exact .inl rfl
  refine ⟨?_, ?_, fun caller hpc => ?_⟩
  · refine fun w hw => ?_
    obtain ⟨v, hv, rfl⟩ := List.mem_map.mp hw
    rcases hlifecycle with hsame | ⟨caller, hparked⟩
    · rw [hsame]
      exact (hwriters v hv).wakeChanged
    · exact ((hwriters v hv).later id (by simp [hparked]) (by simp [hparked])).wakeChanged
  · refine fun p hp => ?_
    obtain ⟨q, hq, rfl⟩ := List.mem_map.mp hp
    rcases hlifecycle with hsame | ⟨caller, hparked⟩
    · rw [hsame]
      exact (hpollers q hq).wakeChanged
    · exact ((hpollers q hq).later id (by simp [hparked]) (by simp [hparked])).wakeChanged
  · simp only [TxSystem.notify] at hpc
    split at hpc
    · cases hpc
    · next hnot => exact absurd hpc (hnot caller)

theorem Settled.notify {s : TxSystem} (h : s.Settled) (wake : Wake) : (s.notify wake).Settled := by
  cases wake with
  | nobody => exact h
  | cv =>
    refine ⟨ThreadPool.forall_map h.writers fun w hw => hw.wakeCv, h.pollers, fun caller hpc => ?_⟩
    rcases h.stopper caller hpc with hwriters | hreaders | ⟨w, hw, status, hstatus⟩ | hp
    · exact .inl hwriters
    · exact .inr (.inl hreaders)
    · refine .inr (.inr (.inl ⟨w.wakeCv, List.mem_map_of_mem hw, status, ?_⟩))
      simp [Writer.wakeCv, hstatus]
    · exact .inr (.inr (.inr hp))
  | changed => exact settled_changed h.writers h.pollers

theorem Settled.writer {s : TxSystem} {id : ℕ} {w w' : Writer} {d' : TxDevice} (h : s.Settled)
    (hw : s.writers[id]? = some w) (hmove : WriterMove s.device id w d' w') :
    ((s.setWriter id d' w').notify (writerWake w)).Settled := by
  have hflag := hmove.frame.txWritesStopping
  have hlt := (List.getElem?_eq_some_iff.mp hw).1
  have hwriters : ∀ v ∈ s.writers.set id w', v.Settled d'.txWritesStopping s.lifecycle :=
    ThreadPool.forall_set (fun v hv => hflag ▸ h.writers v hv)
      (hmove.settled (h.writers w (List.mem_of_getElem? hw))) id
  have hpollers : ∀ p ∈ s.pollers, p.Settled d'.txWritesStopping s.lifecycle :=
    fun p hp => hflag ▸ h.pollers p hp
  by_cases hlast : ∃ status, w.pc = .notifying status
  · obtain ⟨status, hpc⟩ := hlast
    rw [writerWake, hpc]
    exact settled_changed hwriters hpollers
  · refine Settled.notify ⟨hwriters, hpollers, fun caller hpc => ?_⟩ _
    have hleft : s.device.activeTxWriters ≤ d'.activeTxWriters ∨ ∃ status, w'.pc = .notifying status := by
      cases hmove with
      | left status hpc => exact .inr ⟨status, rfl⟩
      | admitted => exact .inl (Nat.le_succ _)
      | submitted _ _ hfill => subst hfill; exact .inl (Nat.le_refl _)
      | _ => exact .inl (Nat.le_refl _)
    rcases hleft with hle | ⟨status, hstatus⟩
    · rcases h.stopper caller hpc with hpos | hreaders | ⟨v, hv, status, hstatus⟩ | hp
      · exact .inl (Nat.lt_of_lt_of_le hpos hle)
      · exact .inr (.inl (hmove.readers ▸ hreaders))
      · refine .inr (.inr (.inl ⟨v, ?_, status, hstatus⟩))
        obtain ⟨j, hj⟩ := List.getElem?_of_mem hv
        have hne : id ≠ j := by
          rintro rfl
          obtain rfl : w = v := Option.some.inj (hw.symm.trans hj)
          exact hlast ⟨status, hstatus⟩
        exact List.mem_of_getElem? ((List.getElem?_set_ne hne).trans hj)
      · exact .inr (.inr (.inr hp))
    · exact .inr (.inr (.inl ⟨w', List.mem_of_getElem? (List.getElem?_set_self hlt), status, hstatus⟩))

theorem Settled.poller {s : TxSystem} {id : ℕ} {p p' : Poller} {d' : TxDevice} (h : s.Settled)
    (hp : s.pollers[id]? = some p) (hmove : PollerMove s.device p d' p') :
    ((s.setPoller id d' p').notify (pollerWake p)).Settled := by
  have hflag := hmove.frame.txWritesStopping
  have hlt := (List.getElem?_eq_some_iff.mp hp).1
  have hpollers : ∀ q ∈ s.pollers.set id p', q.Settled d'.txWritesStopping s.lifecycle :=
    ThreadPool.forall_set (fun q hq => hflag ▸ h.pollers q hq)
      (hmove.settled (h.pollers p (List.mem_of_getElem? hp))) id
  have hwriters : ∀ w ∈ s.writers, w.Settled d'.txWritesStopping s.lifecycle :=
    fun w hw => hflag ▸ h.writers w hw
  by_cases hlast : ∃ status, p.pc = .notifying status
  · obtain ⟨status, hpc⟩ := hlast
    rw [pollerWake, hpc]
    exact settled_changed hwriters hpollers
  · refine Settled.notify ⟨hwriters, hpollers, fun caller hpc => ?_⟩ _
    have hcount : d'.activeTxWriters = s.device.activeTxWriters := by
      obtain ⟨_, _, _, rfl⟩ := hmove.changes
      rfl
    have hleft : s.device.activeTxStatusReaders ≤ d'.activeTxStatusReaders ∨
        ∃ status, p'.pc = .notifying status := by
      cases hmove with
      | left status hpc => exact .inr ⟨status, rfl⟩
      | admitted => exact .inl (Nat.le_succ _)
      | _ => exact .inl (Nat.le_refl _)
    rcases hleft with hle | ⟨status, hstatus⟩
    · rcases h.stopper caller hpc with hpos | hreaders | hw | ⟨q, hq, status, hstatus⟩
      · exact .inl (hcount ▸ hpos)
      · exact .inr (.inl (Nat.lt_of_lt_of_le hreaders hle))
      · exact .inr (.inr (.inl hw))
      · refine .inr (.inr (.inr ⟨q, ?_, status, hstatus⟩))
        obtain ⟨j, hj⟩ := List.getElem?_of_mem hq
        have hne : id ≠ j := by
          rintro rfl
          obtain rfl : p = q := Option.some.inj (hp.symm.trans hj)
          exact hlast ⟨status, hstatus⟩
        exact List.mem_of_getElem? ((List.getElem?_set_ne hne).trans hj)
    · exact .inr (.inr (.inr ⟨p', List.mem_of_getElem? (List.getElem?_set_self hlt), status, hstatus⟩))

/-- A change of the device that touches neither the flag nor the counters. -/
theorem Settled.device {s : TxSystem} (h : s.Settled) {d' : TxDevice}
    (hflag : d'.txWritesStopping = s.device.txWritesStopping)
    (hwriters : d'.activeTxWriters = s.device.activeTxWriters)
    (hreaders : d'.activeTxStatusReaders = s.device.activeTxStatusReaders) :
    (s.setDevice d').Settled where
  writers w hw := hflag ▸ h.writers w hw
  pollers p hp := hflag ▸ h.pollers p hp
  stopper caller hpc := by
    simp only [setDevice_device, setDevice_writers, setDevice_pollers, hwriters, hreaders]
    exact h.stopper caller hpc

/-- A move of the lifecycle that nobody has to be told of. -/
theorem Settled.go {s : TxSystem} {step : TxLifecycleStep} (h : s.Settled)
    (hcv : ∀ caller, s.lifecycle ≠ .notifyCv caller)
    (hchanged : ∀ caller, s.lifecycle ≠ .notifyChanged caller)
    (hflag : s.device.txWritesStopping = false → step.device.txWritesStopping = false)
    (hstopper : ∀ caller, step.pc ≠ .drainParked caller) : (s.setLifecycle step).Settled where
  writers w hw := (h.writers w hw).later hflag hcv hchanged
  pollers p hp := (h.pollers p hp).later hflag hcv hchanged
  stopper caller hpc := absurd hpc (hstopper caller)

/-- The flag is set while nobody is between the test of a predicate and the wait. -/
theorem Settled.flagged {s : TxSystem} {step : TxLifecycleStep} {caller : StopCaller} (h : s.Settled)
    (htx : s.free .tx = true) (hcompletion : s.free .completion = true)
    (hpc : step.pc = .notifyCv caller) : (s.setLifecycle step).Settled := by
  simp only [free, Bool.and_eq_true, List.all_eq_true, Bool.not_eq_true'] at htx hcompletion
  refine ⟨fun w hw => ⟨fun site hsleeping => ?_, fun _ _ => .inr (.inl ⟨caller, hpc⟩)⟩,
    fun p hp => ⟨fun hsleeping => ?_, fun _ => .inr (.inl ⟨caller, hpc⟩)⟩, fun caller' hparked => ?_⟩
  · have htx' := htx.1 w hw
    have hcompletion' := hcompletion.1 w hw
    cases site <;> simp [Writer.holds, hsleeping, WaitSite.mutex] at htx' hcompletion'
  · have hcompletion' := hcompletion.2 p hp
    simp [Poller.holds, hsleeping] at hcompletion'
  · rw [setLifecycle_lifecycle, hpc] at hparked
    cases hparked

theorem settled_step {s t : TxSystem} {a : TxAction} (h : s.Settled) (hstep : TxStep s a t) :
    t.Settled := by
  cases hstep with
  | writeStream request =>
    refine ⟨ThreadPool.forall_append h.writers (by constructor <;> simp [Writer.create]), h.pollers,
      fun caller hpc => ?_⟩
    rcases h.stopper caller hpc with hpos | hreaders | ⟨w, hw, hstatus⟩ | hp
    · exact .inl hpos
    · exact .inr (.inl hreaders)
    · exact .inr (.inr (.inl ⟨w, List.mem_append_left _ hw, hstatus⟩))
    · exact .inr (.inr (.inr hp))
  | readStreamStatus request =>
    refine ⟨h.writers, ThreadPool.forall_append h.pollers (by constructor <;> simp [Poller.create]),
      fun caller hpc => ?_⟩
    rcases h.stopper caller hpc with hpos | hreaders | hw | ⟨p, hp, hstatus⟩
    · exact .inl hpos
    · exact .inr (.inl hreaders)
    · exact .inr (.inr (.inl hw))
    · exact .inr (.inr (.inr ⟨p, List.mem_append_left _ hp, hstatus⟩))
  | writer id input w w' d' hw hmove => exact h.writer hw hmove
  | poller id input p p' d' hp hmove => exact h.poller hp hmove
  | pps result d' wake hmove =>
    refine Settled.notify (h.device ?_ ?_ ?_) wake
    all_goals cases hmove <;> rfl
  | complete index context hcontext =>
    obtain ⟨_, _, heq⟩ := callBack_changes s.device index context
    rw [heq]
    exact h.device rfl rfl rfl
  | notifyCompletion index wake =>
    have hset : (s.setDevice { s.device with
        toNotify := s.device.toNotify.eraseIdx index }).Settled := h.device rfl rfl rfl
    exact hset.notify wake
  | call call step hidle hbegin hmove =>
    obtain ⟨hflag, hstopper⟩ := hmove.settles
    exact h.go (by simp [hidle]) (by simp [hidle]) (fun hopen => hflag.trans hopen) hstopper
  | lifecycle input step hmove =>
    rcases hmove.settles with ⟨caller, hpc, htx, hcompletion, hnext, hwake⟩ |
      ⟨caller, hpc, rfl⟩ | ⟨caller, hpc, rfl⟩ | ⟨caller, hpc, rfl, hcalls⟩ |
      ⟨hcv, hchanged, hflag, hwake, hstopper⟩
    · rw [hwake]
      exact h.flagged htx hcompletion hnext
    · refine ⟨?_, fun p hp => ?_, by simp [TxSystem.notify]⟩
      · refine fun w hw => ?_
        obtain ⟨v, hv, rfl⟩ := List.mem_map.mp hw
        exact (hpc ▸ h.writers v hv).notifiedCv
      · exact ⟨(h.pollers p hp).sleeping, fun _ => .inr (.inr ⟨caller, rfl⟩)⟩
    · refine ⟨?_, ?_, by simp [TxSystem.notify]⟩
      · refine fun w hw => ?_
        obtain ⟨v, hv, rfl⟩ := List.mem_map.mp hw
        exact (hpc ▸ h.writers v hv).notifiedChanged
      · refine fun p hp => ?_
        obtain ⟨q, hq, rfl⟩ := List.mem_map.mp hp
        exact (hpc ▸ h.pollers q hq).notifiedChanged
    · exact ⟨fun w hw => (h.writers w hw).later id (by simp [hpc]) (by simp [hpc]),
        fun p hp => (h.pollers p hp).later id (by simp [hpc]) (by simp [hpc]),
        fun _ _ => hcalls.elim .inl fun hreaders => .inr (.inl hreaders)⟩
    · rw [hwake]
      exact h.go hcv hchanged hflag hstopper

theorem settled_create (config : TxConfiguration) : (create config).Settled := by
  constructor <;> simp [create]

theorem Reachable.settled {config : TxConfiguration} {s : TxSystem} (h : Reachable config s) :
    s.Settled := by
  obtain ⟨actions, hrun⟩ := h
  exact Transition.run_invariant (fun _ _ _ h hnext => settled_step h (step_of_next hnext))
    (settled_create config) hrun

end TxSystem

/-! ## The drain -/

/-- `stopTxWrites` has set the flag and not yet given all its notifications. -/
def TxLifecyclePc.isNotifying (pc : TxLifecyclePc) : Bool :=
  match pc with
  | .notifyCv _ | .notifyChanged _ => true
  | _ => false

/-- `stopTxWrites` has given its notifications and waits for the admitted calls. -/
def TxLifecyclePc.isWaiting (pc : TxLifecyclePc) : Bool :=
  match pc with
  | .draining _ | .drainParked _ => true
  | _ => false

theorem TxLifecyclePc.isNotifying_of {pc : TxLifecyclePc} {caller : StopCaller}
    (h : pc = .notifyCv caller ∨ pc = .notifyChanged caller) : pc.isNotifying = true := by
  rcases h with rfl | rfl <;> rfl

namespace TxSystem

/-- A call that has counted itself out and notifies with its next step. -/
def IsNotifying (s : TxSystem) : TxThread → Prop
  | .writer id => ∃ w, s.writers[id]? = some w ∧ ∃ status, w.pc = .notifying status
  | .poller id => ∃ p, s.pollers[id]? = some p ∧ ∃ status, p.pc = .notifying status
  | _ => False

theorem IsNotifying.canMove {s : TxSystem} {x : TxThread} (h : s.IsNotifying x) : s.CanMove x := by
  cases x with
  | writer id =>
    obtain ⟨w, hw, status, hpc⟩ := h
    exact .inr (by simp [next, hw, TxDevice.writerStep, hpc])
  | poller id =>
    obtain ⟨p, hp, status, hpc⟩ := h
    exact .inr (by simp [next, hp, TxDevice.pollerStep, hpc])
  | pps | callback | lifecycle => exact h.elim

/-- Nobody is parked on a closed stream, unless the notification is still to come. -/
theorem Settled.notifying {s : TxSystem} (h : s.Settled) (hstop : s.device.txWritesStopping = true)
    {x : TxThread} (hparked : s.IsParked x) : s.lifecycle.isNotifying = true := by
  cases x with
  | writer id =>
    obtain ⟨w, hw, hpc⟩ := hparked
    unfold Writer.isParked at hpc
    split at hpc
    · next site hsite =>
      rcases (h.writers w (List.mem_of_getElem? hw)).parked site hsite with
        hopen | ⟨caller, hcaller⟩ | ⟨-, caller, hcaller⟩
      · simp [hstop] at hopen
      · exact TxLifecyclePc.isNotifying_of (.inl hcaller)
      · exact TxLifecyclePc.isNotifying_of (.inr hcaller)
    · cases hpc
  | poller id =>
    obtain ⟨p, hp, hpc⟩ := hparked
    unfold Poller.isParked at hpc
    split at hpc
    · next hwait =>
      rcases (h.pollers p (List.mem_of_getElem? hp)).parked hwait with
        hopen | ⟨caller, hcaller⟩ | ⟨caller, hcaller⟩
      · simp [hstop] at hopen
      · exact TxLifecyclePc.isNotifying_of (.inl hcaller)
      · exact TxLifecyclePc.isNotifying_of (.inr hcaller)
    · cases hpc
  | pps | callback | lifecycle => exact hparked.elim

/-- A counter that is not zero counts somebody. -/
theorem Admission.exists_admitted {s : TxSystem} (h : s.Admission)
    (hcalls : 0 < s.device.activeTxWriters ∨ 0 < s.device.activeTxStatusReaders) :
    ∃ x, s.IsAdmitted x := by
  rw [h.writers, h.readers, List.countP_pos_iff, List.countP_pos_iff] at hcalls
  rcases hcalls with ⟨w, hw, hadmitted⟩ | ⟨p, hp, hadmitted⟩
  · obtain ⟨id, hid⟩ := List.getElem?_of_mem hw
    exact ⟨.writer id, w, hid, hadmitted⟩
  · obtain ⟨id, hid⟩ := List.getElem?_of_mem hp
    exact ⟨.poller id, p, hid, hadmitted⟩

/-- A parked stopper is still waited for, or somebody is about to wake it. -/
theorem Settled.woken {s : TxSystem} (h : s.Settled) {caller : StopCaller}
    (hpc : s.lifecycle = .drainParked caller) (hwriters : s.device.activeTxWriters = 0)
    (hreaders : s.device.activeTxStatusReaders = 0) : ∃ x, s.IsNotifying x := by
  rcases h.stopper caller hpc with hpos | hpos | ⟨w, hw, hstatus⟩ | ⟨p, hp, hstatus⟩
  · omega
  · omega
  · obtain ⟨id, hid⟩ := List.getElem?_of_mem hw
    exact ⟨.writer id, w, hid, hstatus⟩
  · obtain ⟨id, hid⟩ := List.getElem?_of_mem hp
    exact ⟨.poller id, p, hid, hstatus⟩

/-- No threads wait for each other in a circle, and nobody misses the notifications of `stopTxWrites`.
While it waits, every admitted call has left or one of them can move, and the last one to leave wakes
the stopper. -/
theorem tx_drain_progresses {config : TxConfiguration} {s : TxSystem} (hs : Reachable config s) :
    (∀ x, ¬ Relation.TransGen s.WaitsFor x x) ∧
    (s.device.txWritesStopping = true → ∀ x, s.IsParked x → s.lifecycle.isNotifying = true) ∧
    (s.lifecycle.isWaiting = true →
      s.device.txWritesStopping = true ∧ (∀ x, ¬ s.IsParked x) ∧
      (s.device.activeTxWriters = 0 ∧ s.device.activeTxStatusReaders = 0 ∨
        ∃ x, s.IsAdmitted x ∧ s.CanMove x) ∧
      ∀ caller, s.lifecycle = .drainParked caller → s.device.activeTxWriters = 0 →
        s.device.activeTxStatusReaders = 0 → ∃ x, s.IsNotifying x ∧ s.CanMove x) := by
  have hsettled := hs.settled
  refine ⟨WaitGraph.acyclic fun _ _ h => WaitsFor.rank_lt h,
    fun hstop x hparked => hsettled.notifying hstop hparked, fun hwaiting => ?_⟩
  have hclosed : s.device.txWritesStopping = true := by
    refine hs.admission.standing.closed ?_
    revert hwaiting
    cases s.lifecycle <;> simp [TxLifecyclePc.isWaiting, TxLifecyclePc.isClosed]
  have hunparked : ∀ x, ¬ s.IsParked x := by
    intro x hparked
    have hnotifying := hsettled.notifying hclosed hparked
    revert hwaiting hnotifying
    cases s.lifecycle <;> simp [TxLifecyclePc.isWaiting, TxLifecyclePc.isNotifying]
  refine ⟨hclosed, hunparked, ?_, fun caller hpc hwriters hreaders => ?_⟩
  · by_cases hcalls : 0 < s.device.activeTxWriters ∨ 0 < s.device.activeTxStatusReaders
    · obtain ⟨x, hx⟩ := hs.admission.exists_admitted hcalls
      exact .inr (exists_canMove hunparked hx)
    · exact .inl (by omega)
  · obtain ⟨x, hx⟩ := hsettled.woken hpc hwriters hreaders
    exact ⟨x, hx, hx.canMove⟩

/-- A write and a status call that wait for the PPS when the stream is deactivated. -/
def waitingForPps : List TxAction :=
  SmallTx.setup ++ SmallTx.configure soapyHasTime ++ List.replicate 5 (.lifecycle .run) ++
    [.writeStream ⟨100, some fun _ => 0, 2, 0, 1000⟩, .readStreamStatus ⟨100, 1000⟩] ++
    List.replicate 7 (.writer 0 .run) ++ List.replicate 9 (.poller 0 .run) ++ SmallTx.drain

theorem tx_drain_progresses_pps :
    ∃ s, Transition.run next (create SmallTx.config) waitingForPps = some s ∧
      s.device.activeTxWriters = 1 ∧ s.device.activeTxStatusReaders = 1 ∧
      s.lifecycle = .drainParked (.deactivate false) ∧ ∃ x, s.IsAdmitted x ∧ s.CanMove x := by
  obtain ⟨s, hrun, hchecks⟩ := Option.map_eq_some_iff.mp (show (Transition.run next
    (create SmallTx.config) waitingForPps).map (fun s => decide (s.device.activeTxWriters = 1) &&
      (decide (s.device.activeTxStatusReaders = 1) &&
        decide (s.lifecycle = .drainParked (.deactivate false)))) = some true by decide +kernel)
  simp only [Bool.and_eq_true, decide_eq_true_eq] at hchecks
  obtain ⟨hwriters, hreaders, hpc⟩ := hchecks
  obtain ⟨-, -, hmoves, -⟩ := (tx_drain_progresses ⟨_, hrun⟩).2.2 (by rw [hpc]; rfl)
  refine ⟨s, hrun, hwriters, hreaders, hpc, hmoves.resolve_left fun hzero => ?_⟩
  omega

end TxSystem

end SoapySidekiq
