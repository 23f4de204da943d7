import SoapySidekiq.Tx.Trace

/-! # Stopping drains first

When `stopTxStream` issues the stop of the hardware no call is admitted and the PPS worker is joined,
and this stays so until a later activation opens admission again. -/
set_option autoImplicit false

namespace SoapySidekiq

/-! ## Calls that are over -/

/-- A later state of the call: once admitted it stays admitted until it is over, and then stays so. -/
def Writer.Later (w w' : Writer) : Prop :=
  (w.admitted = true → w'.admitted = true ∨ w'.over = true) ∧ (w.over = true → w'.over = true)

theorem Writer.Later.refl (w : Writer) : w.Later w := ⟨.inl, id⟩

theorem Writer.Later.trans {w v u : Writer} (h : w.Later v) (h' : v.Later u) : w.Later u :=
  ⟨fun hw => (h.1 hw).elim h'.1 fun hv => .inr (h'.2 hv), fun hw => h'.2 (h.2 hw)⟩

theorem WriterMove.later {d d' : TxDevice} {id : ℕ} {w w' : Writer} (h : WriterMove d id w d' w') :
    w.Later w' := by
  unfold Writer.Later
  cases h <;> simp_all [Writer.admitted, Writer.over]

/-- A later state of the call, as for a write. -/
def Poller.Later (p p' : Poller) : Prop :=
  (p.admitted = true → p'.admitted = true ∨ p'.over = true) ∧ (p.over = true → p'.over = true)

theorem Poller.Later.refl (p : Poller) : p.Later p := ⟨.inl, id⟩

theorem Poller.Later.trans {p q r : Poller} (h : p.Later q) (h' : q.Later r) : p.Later r :=
  ⟨fun hp => (h.1 hp).elim h'.1 fun hq => .inr (h'.2 hq), fun hp => h'.2 (h.2 hp)⟩

theorem PollerMove.later {d d' : TxDevice} {p p' : Poller} (h : PollerMove d p d' p') :
    p.Later p' := by
  unfold Poller.Later
  cases h <;> simp_all [Poller.admitted, Poller.over]

/-- The action is the beginning of an `activateStream`. -/
def TxAction.activates : TxAction → Bool
  | .call (.activateStream _ _ _ _) => true
  | _ => false

namespace TxSystem

/-! ## Closed and drained -/

/-- No call is admitted. -/
def Quiet (s : TxSystem) : Prop :=
  (∀ w ∈ s.writers, w.admitted = false) ∧ ∀ p ∈ s.pollers, p.admitted = false

theorem Admission.quiet {s : TxSystem} (h : s.Admission) (hclosed : s.device.txWritesStopping = true)
    (hdrain : s.lifecycle.isDraining = false) : s.Quiet := by
  obtain ⟨hwriters, hreaders⟩ := h.standing.drained hclosed hdrain
  exact ⟨ThreadPool.not_of_countP_zero (h.writers ▸ hwriters),
    ThreadPool.not_of_countP_zero (h.readers ▸ hreaders)⟩

theorem Quiet.counters {s : TxSystem} (h : s.Quiet) (hs : s.Admission) :
    s.device.activeTxWriters = 0 ∧ s.device.activeTxStatusReaders = 0 := by
  refine ⟨hs.writers.trans ?_, hs.readers.trans ?_⟩
  · exact List.countP_eq_zero.mpr fun w hw => by simp [h.1 w hw]
  · exact List.countP_eq_zero.mpr fun p hp => by simp [h.2 p hp]

theorem Quiet.notify {s : TxSystem} (h : s.Quiet) (wake : Wake) : (s.notify wake).Quiet := by
  cases wake with
  | nobody => exact h
  | cv => exact ⟨ThreadPool.forall_map h.1 (by simp), h.2⟩
  | changed => exact ⟨ThreadPool.forall_map h.1 (by simp), ThreadPool.forall_map h.2 (by simp)⟩

/-- While admission is closed nobody is admitted. -/
theorem Quiet.step {s t : TxSystem} {a : TxAction} (h : s.Quiet)
    (hclosed : s.device.txWritesStopping = true) (hstep : TxStep s a t) : t.Quiet := by
  cases hstep with
  | writeStream request => exact ⟨ThreadPool.forall_append h.1 rfl, h.2⟩
  | readStreamStatus request => exact ⟨h.1, ThreadPool.forall_append h.2 rfl⟩
  | writer id input w w' d' hw hmove =>
    have hset : (s.setWriter id d' w').Quiet :=
      ⟨ThreadPool.forall_set h.1 (hmove.admission hclosed (h.1 w (List.mem_of_getElem? hw))) id, h.2⟩
    exact hset.notify _
  | poller id input p p' d' hp hmove =>
    have hset : (s.setPoller id d' p').Quiet :=
      ⟨h.1, ThreadPool.forall_set h.2 (hmove.admission hclosed (h.2 p (List.mem_of_getElem? hp))) id⟩
    exact hset.notify _
  | complete | call => exact h
  | pps result d' wake =>
    have hset : (s.setDevice d').Quiet := h
    exact hset.notify _
  | notifyCompletion index wake =>
    have hset : (s.setDevice { s.device with
        toNotify := s.device.toNotify.eraseIdx index }).Quiet := h
    exact hset.notify _
  | lifecycle input step =>
    have hset : (s.setLifecycle step).Quiet := h
    exact hset.notify _

/-- Runs whose steps are all taken with admission closed. -/
theorem Quiet.run {s t : TxSystem} {actions : List TxAction} (h : s.Quiet) (hs : s.Admission)
    (hclosed : Transition.Along next (fun u _ => u.device.txWritesStopping = true) s actions)
    (hrun : Transition.run next s actions = some t) :
    t.Quiet ∧ ∃ events, t.device.trace = s.device.trace ++ events ∧
      ∀ e ∈ events, e.kind ≠ .transmit ∧ e.kind ≠ .status := by
  induction actions generalizing s with
  | nil => cases hrun; exact ⟨h, [], by simp, by simp⟩
  | cons a actions ih =>
    obtain ⟨u, hnext, hrest⟩ := Transition.run_cons.mp hrun
    have hstep := step_of_next hnext
    obtain ⟨first, htrace, hcause⟩ := trace_step hs hstep
    obtain ⟨hquiet, events, hevents, hkinds⟩ :=
      ih (h.step hclosed.1 hstep) (admission_step hs hstep) (hclosed.2 u hnext) hrest
    refine ⟨hquiet, first ++ events, by rw [hevents, htrace, List.append_assoc], fun e he => ?_⟩
    rcases List.mem_append.mp he with he | he
    · constructor
      · intro hkind
        obtain ⟨w, hw, hgate⟩ := (hcause e he).transmit hkind
        simpa [h.1 w hw] using Writer.pastGate_admitted hgate
      · intro hkind
        obtain ⟨p, hp, hadmitted⟩ := (hcause e he).status hkind
        simp [h.2 p hp] at hadmitted
    · exact hkinds e he

/-! ## No start without an activation -/

/-- There is no PPS worker and no activation in progress. -/
def Unstarted (s : TxSystem) : Prop :=
  s.device.txStreamingThread = none ∧ s.lifecycle.isActivating = false

theorem Unstarted.notify {s : TxSystem} (h : s.Unstarted) (wake : Wake) : (s.notify wake).Unstarted := by
  refine ⟨by simpa using h.1, ?_⟩
  cases wake with
  | changed =>
    simp only [TxSystem.notify]
    split
    · rfl
    · exact h.2
  | nobody | cv => exact h.2

theorem beginCall_unstarted {d : TxDevice} {call : TxLifecycleCall}
    (hcall : (TxAction.call call).activates = false) :
    (d.beginCall call).device.txStreamingThread = d.txStreamingThread ∧
      (d.beginCall call).pc.isActivating = false := by
  cases call with
  | activateStream => simp [TxAction.activates] at hcall
  | setupStream format channels args address =>
    simp only [TxDevice.beginCall]
    split
    · exact ⟨rfl, rfl⟩
    · split
      · exact ⟨rfl, rfl⟩
      · split <;> exact ⟨rfl, rfl⟩
  | deactivateStream stream flags timeNs =>
    simp only [TxDevice.beginCall]
    split
    · exact ⟨rfl, rfl⟩
    · split <;> exact ⟨rfl, rfl⟩
  | closeStream stream =>
    simp only [TxDevice.beginCall]
    split
    · exact ⟨rfl, rfl⟩
    · split <;> exact ⟨rfl, rfl⟩
  | destroy => exact ⟨rfl, rfl⟩

theorem stopped_unstarted {d : TxDevice} (caller : StopCaller) (status : ℤ)
    (h : d.txStreamingThread = none) :
    (d.stopped caller status).device.txStreamingThread = none ∧
      (d.stopped caller status).pc.isActivating = false := by
  unfold TxDevice.stopped
  cases caller with
  | close => dsimp only; split <;> exact ⟨h, rfl⟩
  | deactivate | destroy => exact ⟨h, rfl⟩

theorem Unstarted.lifecycle {s : TxSystem} {step : TxLifecycleStep} (h : s.Unstarted)
    (hmove : LifecycleMove s.free s.device s.lifecycle step) : (s.setLifecycle step).Unstarted := by
  obtain ⟨hthread, hpc⟩ := h
  generalize s.lifecycle = pc at hmove hpc
  cases hmove with
  | unneeded | unstopped | stopped => exact stopped_unstarted _ _ (by simp [hthread])
  | configured | unconfigured | resetPps | resetNow | resetStart | created | uncreated | raised
  | unstarted | started | resetUnderruns | activated | opened => cases hpc
  | stops => exact ⟨rfl, rfl⟩
  | _ => exact ⟨hthread, rfl⟩

theorem Unstarted.step {s t : TxSystem} {a : TxAction} (h : s.Unstarted) (ha : a.activates = false)
    (hstep : TxStep s a t) : t.Unstarted := by
  cases hstep with
  | writeStream | readStreamStatus => exact h
  | writer id input w w' d' hw hmove =>
    have hset : (s.setWriter id d' w').Unstarted :=
      ⟨hmove.frame.txStreamingThread.trans h.1, h.2⟩
    exact hset.notify _
  | poller id input p p' d' hp hmove =>
    have hset : (s.setPoller id d' p').Unstarted :=
      ⟨hmove.frame.txStreamingThread.trans h.1, h.2⟩
    exact hset.notify _
  | pps result d' wake hmove => cases hmove <;> simp_all [Unstarted]
  | complete index context =>
    exact ⟨(s.device.callBack_frame index context).txStreamingThread.trans h.1, h.2⟩
  | notifyCompletion index wake =>
    have hset : (s.setDevice { s.device with
        toNotify := s.device.toNotify.eraseIdx index }).Unstarted := h
    exact hset.notify _
  | call call step hidle hbegin =>
    subst hbegin
    obtain ⟨hthread, hpc⟩ := beginCall_unstarted (d := s.device) ha
    exact ⟨hthread.trans h.1, hpc⟩
  | lifecycle input step hmove => exact (h.lifecycle hmove).notify _

theorem Unstarted.run {s t : TxSystem} {actions : List TxAction} (h : s.Unstarted)
    (hs : s.Admission) (hactions : ∀ a ∈ actions, a.activates = false)
    (hrun : Transition.run next s actions = some t) :
    ∃ events, t.device.trace = s.device.trace ++ events ∧ ∀ e ∈ events, e.kind ≠ .start := by
  induction actions generalizing s with
  | nil => cases hrun; exact ⟨[], by simp, by simp⟩
  | cons a actions ih =>
    obtain ⟨u, hnext, hrest⟩ := Transition.run_cons.mp hrun
    have hstep := step_of_next hnext
    obtain ⟨first, htrace, hcause⟩ := trace_step hs hstep
    obtain ⟨events, hevents, hkinds⟩ := ih (h.step (hactions a List.mem_cons_self) hstep)
      (admission_step hs hstep) (fun b hb => hactions b (List.mem_cons_of_mem _ hb)) hrest
    refine ⟨first ++ events, by rw [hevents, htrace, List.append_assoc], fun e he => ?_⟩
    rcases List.mem_append.mp he with he | he
    · intro hkind
      rcases (hcause e he).start hkind with hthread | hpc
      · simp [h.1] at hthread
      · simp [h.2] at hpc
    · exact hkinds e he

/-! ## Each admitted call is counted out once -/

theorem later_writer {s t : TxSystem} {a : TxAction} {id : ℕ} {w : Writer} (hstep : TxStep s a t)
    (hw : s.writers[id]? = some w) : ∃ w', t.writers[id]? = some w' ∧ w.Later w' := by
  have hnotify : ∀ (u : TxSystem) (wake : Wake), (∃ v, u.writers[id]? = some v ∧ w.Later v) →
      ∃ w', (u.notify wake).writers[id]? = some w' ∧ w.Later w' := by
    rintro u wake ⟨v, hv, hlater⟩
    cases wake with
    | nobody => exact ⟨v, hv, hlater⟩
    | cv => exact ⟨v.wakeCv, by simp [TxSystem.notify, hv], by simpa [Writer.Later] using hlater⟩
    | changed =>
      exact ⟨v.wakeChanged, by simp [TxSystem.notify, hv], by simpa [Writer.Later] using hlater⟩
  cases hstep with
  | writeStream request =>
    exact ⟨w, by simp [List.getElem?_append_left (List.getElem?_eq_some_iff.mp hw).1, hw], .refl w⟩
  | readStreamStatus | complete | call => exact ⟨w, hw, .refl w⟩
  | writer id' input v v' d' hv hmove =>
    refine hnotify _ _ ?_
    by_cases hid : id' = id
    · subst hid
      obtain rfl : v = w := by simpa [hw] using hv.symm
      have hlt := (List.getElem?_eq_some_iff.mp hw).1
      exact ⟨v', by simp [hlt], hmove.later⟩
    · exact ⟨w, by simp [List.getElem?_set_ne hid, hw], .refl w⟩
  | poller | pps | notifyCompletion | lifecycle => exact hnotify _ _ ⟨w, hw, .refl w⟩

theorem later_poller {s t : TxSystem} {a : TxAction} {id : ℕ} {p : Poller} (hstep : TxStep s a t)
    (hp : s.pollers[id]? = some p) : ∃ p', t.pollers[id]? = some p' ∧ p.Later p' := by
  have hnotify : ∀ (u : TxSystem) (wake : Wake), (∃ q, u.pollers[id]? = some q ∧ p.Later q) →
      ∃ p', (u.notify wake).pollers[id]? = some p' ∧ p.Later p' := by
    rintro u wake ⟨q, hq, hlater⟩
    cases wake with
    | nobody | cv => exact ⟨q, hq, hlater⟩
    | changed =>
      exact ⟨q.wakeChanged, by simp [TxSystem.notify, hq], by simpa [Poller.Later] using hlater⟩
  cases hstep with
  | readStreamStatus request =>
    exact ⟨p, by simp [List.getElem?_append_left (List.getElem?_eq_some_iff.mp hp).1, hp], .refl p⟩
  | writeStream | complete | call => exact ⟨p, hp, .refl p⟩
  | poller id' input q q' d' hq hmove =>
    refine hnotify _ _ ?_
    by_cases hid : id' = id
    · subst hid
      obtain rfl : q = p := by simpa [hp] using hq.symm
      have hlt := (List.getElem?_eq_some_iff.mp hp).1
      exact ⟨q', by simp [hlt], hmove.later⟩
    · exact ⟨p, by simp [List.getElem?_set_ne hid, hp], .refl p⟩
  | writer | pps | notifyCompletion | lifecycle => exact hnotify _ _ ⟨p, hp, .refl p⟩

/-- Every call of `s` has a later state in `t`. -/
def Later (s t : TxSystem) : Prop :=
  (∀ (id : ℕ) (w : Writer), s.writers[id]? = some w → ∃ w', t.writers[id]? = some w' ∧ w.Later w') ∧
    ∀ (id : ℕ) (p : Poller), s.pollers[id]? = some p → ∃ p', t.pollers[id]? = some p' ∧ p.Later p'

theorem later_run {s t : TxSystem} {actions : List TxAction}
    (hrun : Transition.run next s actions = some t) : s.Later t := by
  induction actions generalizing s with
  | nil => cases hrun; exact ⟨fun _ w hw => ⟨w, hw, .refl w⟩, fun _ p hp => ⟨p, hp, .refl p⟩⟩
  | cons a actions ih =>
    obtain ⟨u, hnext, hrest⟩ := Transition.run_cons.mp hrun
    obtain ⟨hwriters, hpollers⟩ := ih hrest
    constructor
    · intro id w hw
      obtain ⟨v, hv, hfirst⟩ := later_writer (step_of_next hnext) hw
      obtain ⟨w', hw', hlast⟩ := hwriters id v hv
      exact ⟨w', hw', hfirst.trans hlast⟩
    · intro id p hp
      obtain ⟨q, hq, hfirst⟩ := later_poller (step_of_next hnext) hp
      obtain ⟨p', hp', hlast⟩ := hpollers id q hq
      exact ⟨p', hp', hfirst.trans hlast⟩

/-! ## The theorem -/

/-- Nothing that the stop of the hardware could disturb is in progress. -/
structure Drained (s : TxSystem) : Prop where
  writers : ∀ w ∈ s.writers, w.admitted = false ∧ w.inTransmit = false ∧ w.holdsSlot = false
  pollers : ∀ p ∈ s.pollers, p.admitted = false ∧ p.inRead = false
  activeTxWriters : s.device.activeTxWriters = 0
  activeTxStatusReaders : s.device.activeTxStatusReaders = 0
  txStreamingThread : s.device.txStreamingThread = none

theorem Quiet.drained {s : TxSystem} (h : s.Quiet) (hs : s.Admission)
    (hthread : s.device.txStreamingThread = none) : s.Drained where
  writers w hw := by
    have hadmitted := h.1 w hw
    have hgate : w.pastGate = false := by
      cases hgate : w.pastGate with
      | false => rfl
      | true => simpa [hadmitted] using Writer.pastGate_admitted hgate
    refine ⟨hadmitted, ?_, ?_⟩
    · cases hin : w.inTransmit with
      | false => rfl
      | true => simpa [hgate] using Writer.inTransmit_pastGate hin
    · cases hin : w.holdsSlot with
      | false => rfl
      | true => simpa [hgate] using Writer.holdsSlot_pastGate hin
  pollers p hp := by
    have hadmitted := h.2 p hp
    refine ⟨hadmitted, ?_⟩
    cases hin : p.inRead with
    | false => rfl
    | true => simpa [hadmitted] using Poller.inRead_admitted hin
  activeTxWriters := (h.counters hs).1
  activeTxStatusReaders := (h.counters hs).2
  txStreamingThread := hthread

/-- The rest of a deactivation, and an activation on the PPS up to its worker's SDK call. -/
def startingWorker : List TxAction :=
  [.lifecycle (.sdk 0)] ++ SmallTx.configure soapyHasTime ++
    [.lifecycle .run, .lifecycle .run, .pps (.ok 0)]

end TxSystem

end SoapySidekiq
