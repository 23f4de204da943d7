import Mathlib.Algebra.Group.Nat.Defs
import Mathlib.Data.List.Nodup
import Mathlib.Data.List.Perm.Subperm
import SoapySidekiq.Tx.Submissions

/-! # Back-pressure

A write that finds the SDK's queue full waits for a completion of its own completion state. The queue
is the card's: the packets that fill it can be those of an earlier stream, and then nobody wakes the
write. -/
set_option autoImplicit false

namespace SoapySidekiq

/-! ## Full queues -/

namespace Writer

def submitting (w : Writer) : Bool :=
  match w.pc with
  | .transmitting => true
  | _ => false

/-- The SDK's queue was full at the call's last submission, and the call has not gone on from there. -/
def backedUp (config : TxConfiguration) (w : Writer) : Bool :=
  match w.pc with
  | .releasing (.ok status) => status == config.queueFull
  | .locking site _ | .inside site _ | .sleeping site | .parked site =>
    site == .fullFirst || site == .full
  | _ => false

/-- The call is parked in the wait for a full queue. -/
def parkedFull (w : Writer) : Bool :=
  match w.pc with
  | .parked .full => true
  | _ => false

theorem parkedFull_iff {w : Writer} : w.parkedFull = true ↔ w.pc = .parked .full := by
  unfold parkedFull
  split <;> simp_all

end Writer

namespace TxSystem

/-- The write call to which `skiq_transmit` returns that its queue is full. -/
def fullReturn (s : TxSystem) : TxAction → Option Writer
  | .writer id (.sdk status) =>
    if status = s.device.config.queueFull then (s.writers[id]?).filter Writer.submitting else none
  | _ => none

/-- The queue is full only while a packet is in flight. -/
def fullInFlight (s : TxSystem) (a : TxAction) : Bool :=
  (s.fullReturn a).isNone || !s.device.inFlight.isEmpty

/-- When the queue is full, a packet of the current completion state is in flight, or one has completed
since the call's reservation. -/
def fullOfCurrent (s : TxSystem) (a : TxAction) : Bool :=
  (s.fullReturn a).all fun w =>
    decide (0 < s.device.outstanding) || s.device.completed != w.observedCompletions

/-- Whoever is parked in the wait for a full queue is woken by the completion of a packet in flight,
unless what it waits for has happened; and then it is about to be notified. -/
def Wakeable (s : TxSystem) : Prop :=
  ∀ w ∈ s.writers, w.pc = .parked .full → s.device.txWritesStopping = false →
    ((∃ (index : ℕ) (context : TxSendContext), s.device.inFlight[index]? = some context ∧
        (s.device.callBack index context).completed ≠ w.observedCompletions) ∨
      s.device.completed ≠ w.observedCompletions) ∧
    (s.device.completed ≠ w.observedCompletions → s.device.txCompletion ∈ s.device.toNotify)

end TxSystem

/-! ## The ring bounds what is in flight -/

/-- The current state's contexts in flight are in different slots. -/
theorem outstanding_le {s : TxSystem} (hslots : s.Slots) (hpool : s.device.PoolReady) :
    s.device.outstanding ≤ s.device.config.txBufferCount := by
  have hcount : ∀ c, s.device.inFlight.count c ≤ (s.device.slotOf c).toNat := by
    intro c
    rw [hslots.owned c]
    exact Nat.le_add_left _ _
  have hnodup : s.device.inFlight.Nodup :=
    List.nodup_iff_count_le_one.mpr fun c => Nat.le_trans (hcount c) (Bool.toNat_le _)
  obtain ⟨hlength, -, -⟩ := hpool
  rw [List.getElem?_map] at hlength
  obtain ⟨state, hstate, hsize⟩ := Option.map_eq_some_iff.mp hlength
  have hcurrent : ∀ c ∈ s.device.inFlight.filter fun c => c.completion == s.device.txCompletion,
      c.completion = s.device.txCompletion ∧ c.txIndex < s.device.config.txBufferCount := by
    intro c hc
    obtain ⟨hmem, hcompletion⟩ := List.mem_filter.mp hc
    have hcompletion := eq_of_beq hcompletion
    refine ⟨hcompletion, ?_⟩
    have hslot := (hslots.owned_iff c).mpr (.inr hmem)
    simp only [TxDevice.slotOf, TxDevice.slot, hcompletion, hstate] at hslot
    by_contra hge
    rw [List.getElem?_eq_none (by omega)] at hslot
    cases hslot
  have hindices : ((s.device.inFlight.filter fun c => c.completion == s.device.txCompletion).map
      TxSendContext.txIndex).Nodup := by
    refine (hnodup.filter _).map_on fun c hc e he heq => ?_
    have hsame := (hcurrent c hc).1.trans (hcurrent e he).1.symm
    cases c
    cases e
    simp_all
  have hsubset : ((s.device.inFlight.filter fun c => c.completion == s.device.txCompletion).map
      TxSendContext.txIndex) ⊆ List.range s.device.config.txBufferCount := by
    intro i hi
    obtain ⟨c, hc, rfl⟩ := List.mem_map.mp hi
    exact List.mem_range.mpr (hcurrent c hc).2
  have hle := (hindices.subperm hsubset).length_le
  rwa [List.length_map, List.length_range, ← List.countP_eq_length_filter] at hle

/-- A callback for the current completion state makes progress. -/
theorem callBack_progress {s : TxSystem} {index : ℕ} {context : TxSendContext} (hslots : s.Slots)
    (hcontext : s.device.inFlight[index]? = some context)
    (hcurrent : context.completion = s.device.txCompletion) :
    (s.device.callBack index context).completed = s.device.completed + 1 ∧
      s.device.txCompletion ∈ (s.device.callBack index context).toNotify := by
  have hslot := (hslots.owned_iff context).mpr (.inr (List.mem_of_getElem? hcontext))
  unfold TxDevice.slotOf TxDevice.slot at hslot
  unfold TxDevice.callBack TxDevice.completeTx TxDevice.completed
  cases hstate : s.device.completions[context.completion]? with
  | none => rw [hstate] at hslot; cases hslot
  | some state =>
    have hlt : context.txIndex < state.slots.length := by
      by_contra hge
      simp only [hstate] at hslot
      rw [List.getElem?_eq_none (by omega)] at hslot
      cases hslot
    rw [hcurrent] at hstate
    obtain ⟨hbound, rfl⟩ := List.getElem?_eq_some_iff.mp hstate
    simp [hcurrent, hlt, hbound]

/-! ## Progress since a reservation -/

/-- The completions since the call's reservation and the contexts still in flight are no more than the
ring has slots, and after the SDK's queue was full they are not nothing. -/
def Writer.Since (d : TxDevice) (w : Writer) : Prop :=
  w.attempting = true → ∃ m : ℕ, d.completed = w.observedCompletions + UInt64.ofNat m ∧
    m + d.outstanding ≤ d.config.txBufferCount ∧
    (w.backedUp d.config = true → 0 < m + d.outstanding)

/-- A device that differs in nothing that a call knows about its progress. -/
theorem Writer.Since.kept {d d' : TxDevice} {w w' : Writer} (h : w.Since d)
    (hattempting : w'.attempting = true → w.attempting = true)
    (hbacked : w'.backedUp d.config = true → w.backedUp d.config = true)
    (hobserved : w'.observedCompletions = w.observedCompletions) (hcompleted : d'.completed = d.completed)
    (houtstanding : d'.outstanding = d.outstanding) (hconfig : d'.config = d.config) : w'.Since d' := by
  intro hattempt
  obtain ⟨m, hsince, hle, hpos⟩ := h (hattempting hattempt)
  refine ⟨m, by rw [hcompleted, hobserved, hsince], by rw [houtstanding, hconfig]; exact hle, ?_⟩
  rw [hconfig, houtstanding]
  exact fun h => hpos (hbacked h)

theorem WriterMove.since {d d' : TxDevice} {id : ℕ} {w w' : Writer} (h : WriterMove d id w d' w')
    (hw : w.Since d) (hring : w.admitted = true → d.outstanding ≤ d.config.txBufferCount)
    (hfull : w.pc = .transmitting → w'.pc = .releasing (.ok d.config.queueFull) →
      0 < d.outstanding ∨ d.completed ≠ w.observedCompletions) : w'.Since d' := by
  have hout : w'.attempting = false → w'.Since d' := fun hnot hattempt => by simp [hnot] at hattempt
  cases h with
  | reserved timedOut hpc =>
    intro _
    refine ⟨0, ?_, ?_, by simp [Writer.backedUp]⟩
    · rw [setSlot_completed]
      exact (UInt64.add_zero _).symm
    · rw [Nat.zero_add]
      exact hring (by simp [Writer.admitted, hpc])
  | rejected result hpc =>
    intro _
    obtain ⟨m, hsince, hle, -⟩ := hw (by simp [Writer.attempting, hpc])
    refine ⟨m, hsince, hle, fun hbacked => ?_⟩
    have hresult : result = .ok d.config.queueFull := by
      cases result with
      | error e => cases hbacked
      | ok status => exact congrArg _ (eq_of_beq hbacked)
    rcases hfull hpc (congrArg _ hresult) with hpos | hprogress
    · exact Nat.lt_of_lt_of_le hpos (Nat.le_add_left _ _)
    · refine Nat.lt_of_lt_of_le (Nat.pos_of_ne_zero ?_) (Nat.le_add_right _ _)
      rintro rfl
      exact hprogress (hsince.trans (UInt64.add_zero _))
  | queueFull result hpc hresult =>
    refine hw.kept (fun _ => by simp [Writer.attempting, hpc])
      (fun _ => by simp [Writer.backedUp, hpc, hresult]) rfl (setSlot_completed d _ _ _) rfl rfl
  | submitted _ hpc hfill =>
    subst hfill
    exact hw.kept (fun _ => by simp [Writer.attempting, hpc]) (by simp [Writer.backedUp]) rfl rfl rfl rfl
  | waits site site' timedOut hpc hopen hsite hslot =>
    refine hw.kept ?_ ?_ rfl rfl rfl rfl
    all_goals cases site <;> cases site' <;> simp_all [Writer.attempting, Writer.backedUp]
  | locked _ _ hpc | slept _ hpc | woken _ _ hpc =>
    exact hw.kept (by simp [Writer.attempting, hpc]) (by simp [Writer.backedUp, hpc]) rfl rfl rfl rfl
  | prepared hpc | unprepared _ hpc | unfilled _ hpc =>
    exact hw.kept (fun _ => by simp [Writer.attempting, hpc]) (by simp [Writer.backedUp]) rfl rfl rfl rfl
  | _ => exact hout rfl

/-- Where a notification is due, it is on its way: a call that is parked in the wait for a full queue
has been told of every completion but those that are still to be notified. -/
def Writer.Due (d : TxDevice) (w : Writer) : Prop :=
  (w.pc = .sleeping .full → d.completed = w.observedCompletions) ∧
    (w.pc = .parked .full → d.completed ≠ w.observedCompletions → d.txCompletion ∈ d.toNotify)

theorem WriterMove.due {d d' : TxDevice} {id : ℕ} {w w' : Writer} (h : WriterMove d id w d' w')
    (hw : w.Due d) : w'.Due d' := by
  obtain ⟨hsleeping, -⟩ := hw
  cases h with
  | waits site site' timedOut hpc hopen hsite hslot hfull =>
    refine ⟨fun hpc' => hfull (by simpa using hpc'), by simp⟩
  | slept site hpc =>
    refine ⟨by simp, fun hpc' hprogress => ?_⟩
    obtain rfl : site = .full := by simpa using hpc'
    exact absurd (hsleeping hpc) hprogress
  | _ => constructor <;> simp

/-! ### Notifications on their way -/

theorem stopped_toNotify (d : TxDevice) (caller : StopCaller) (status : ℤ) :
    (d.stopped caller status).device.toNotify = d.toNotify := by
  unfold TxDevice.stopped
  cases caller with
  | close => dsimp only; split <;> rfl
  | deactivate | destroy => rfl

theorem BeginMove.toNotify {d : TxDevice} {step : TxLifecycleStep} (h : BeginMove d step) :
    step.device.toNotify = d.toNotify := by
  cases h with
  | activates => cases d.activationCalls _ <;> rfl
  | _ => rfl

theorem LifecycleMove.toNotify {free : Mutex → Bool} {d : TxDevice} {pc : TxLifecyclePc}
    {step : TxLifecycleStep} (h : LifecycleMove free d pc step) :
    step.device.toNotify = d.toNotify := by
  cases h with
  | configured onPps txHandle call rest => cases rest <;> rfl
  | unneeded | unstopped | stopped => exact stopped_toNotify _ _ _
  | _ => rfl

/-- Only the notification itself takes a notification off its way. -/
theorem TxStep.toNotify {s t : TxSystem} {a : TxAction} (h : TxStep s a t)
    (ha : ∀ index, a ≠ .notifyCompletion index) :
    ∀ k ∈ s.device.toNotify, k ∈ t.device.toNotify := by
  intro k hk
  cases h with
  | writeStream | readStreamStatus => exact hk
  | writer _ _ _ _ _ _ hmove =>
    rw [TxSystem.notify_device]
    cases hmove with
    | submitted _ _ hfill => subst hfill; exact hk
    | _ => exact hk
  | poller _ _ _ _ _ _ hmove =>
    rw [TxSystem.notify_device]
    obtain ⟨_, _, _, rfl⟩ := hmove.changes
    exact hk
  | pps _ _ _ hmove =>
    rw [TxSystem.notify_device]
    cases hmove <;> exact hk
  | complete index context =>
    simp only [TxSystem.setDevice_device, TxDevice.callBack, TxDevice.completeTx]
    split
    · exact hk
    · split
      · exact List.mem_append_left _ hk
      · exact hk
  | notifyCompletion index => exact absurd rfl (ha index)
  | call _ _ _ _ hmove => exact hmove.toNotify ▸ hk
  | lifecycle _ _ hmove => rw [TxSystem.notify_device]; exact hmove.toNotify ▸ hk

/-! ## The system -/

theorem rejected_input {s t : TxSystem} {id : ℕ} {input : CallInput} {w w' : Writer} {status : ℤ}
    (hnext : s.next (.writer id input) = some t) (hw : s.writers[id]? = some w)
    (hw' : t.writers[id]? = some w') (hpc : w.pc = .transmitting)
    (hpc' : w'.pc = .releasing (.ok status)) : input = .sdk status := by
  have hlt := (List.getElem?_eq_some_iff.mp hw).1
  simp only [TxSystem.next, hw] at hnext
  obtain ⟨⟨d', v⟩, hstep, rfl⟩ := Option.map_eq_some_iff.mp hnext
  obtain rfl : v = w' := by simpa [TxSystem.writerWake, hpc, TxSystem.notify, hlt] using hw'
  cases input with
  | sdk status' =>
    simp only [TxDevice.writerStep, hpc] at hstep
    split at hstep
    · cases hstep
    · cases hstep
      simpa using hpc'
  | throw e =>
    simp only [TxDevice.writerStep, hpc] at hstep
    split at hstep
    · cases hstep
    · cases hstep
      simp at hpc'
  | accept =>
    simp only [TxDevice.writerStep, hpc] at hstep
    cases hstep
    simp at hpc'
  | run | timeout | wake => simp [TxDevice.writerStep, hpc] at hstep

/-- What a ring step does to the progress that an admitted call has seen. -/
theorem RingStep.since {s : TxSystem} {a : TxAction} {d' : TxDevice} {w : Writer} (h : RingStep s a d')
    (hslots : s.Slots) (hw : w ∈ s.writers) (hconfig : d'.config = s.device.config)
    (hsince : w.Since s.device) : w.Since d' := by
  cases h with
  | kept hnot hcompletions hflight hcompletion =>
    refine hsince.kept id id rfl ?_ ?_ hconfig
    · rw [TxDevice.completed, TxDevice.completed, hcompletions, hcompletion]
    · rw [TxDevice.outstanding, TxDevice.outstanding, hflight, hcompletion]
  | completed index context ha hcontext hdevice =>
    subst hdevice
    have hcount := callBack_outstanding hcontext
    by_cases hcurrent : context.completion = s.device.txCompletion
    · intro hattempt
      obtain ⟨m, hm, hle, hpos⟩ := hsince hattempt
      rw [beq_iff_eq.mpr hcurrent, Bool.toNat_true] at hcount
      refine ⟨m + 1, ?_, by rw [hconfig]; omega, fun _ => by omega⟩
      rw [(callBack_progress hslots hcontext hcurrent).1, hm, UInt64.ofNat_add]
      exact UInt64.add_assoc _ _ _
    · rw [beq_eq_false_iff_ne.mpr hcurrent, Bool.toNat_false, Nat.add_zero] at hcount
      exact hsince.kept id id rfl (callBack_completed (Ne.symm hcurrent)) hcount hconfig
  | allocated hnot hquiet =>
    intro hattempt
    have hadmitted := hquiet w hw
    unfold Writer.attempting at hattempt
    unfold Writer.admitted at hadmitted
    split at hattempt <;> simp_all

namespace TxSystem

/-- What every write call knows about the progress that its wait depends on. -/
structure Backed (config : TxConfiguration) (s : TxSystem) : Prop extends s.Writing config where
  calls : ∀ (id : ℕ) (w : Writer), s.writers[id]? = some w → w.Since s.device ∧ w.Due s.device

theorem since_step {config : TxConfiguration} {s t : TxSystem} {a : TxAction} {id : ℕ}
    {w w' : Writer} (h : s.Writing config) (hfull : s.fullOfCurrent a = true)
    (hnext : s.next a = some t) (hw : s.writers[id]? = some w) (hw' : t.writers[id]? = some w')
    (hcall : CallStep s a t id w w') (hsince : w.Since s.device) : w'.Since t.device := by
  cases hcall with
  | moved input _ ha hmove =>
    subst ha
    refine hmove.since hsince (fun hadmitted => outstanding_le h.slots (h.admission.standing.pool
      (h.admission.standing.live (.inr (.inl (h.admission.writer_pos hw hadmitted)))).2)) ?_
    intro hpc hpc'
    obtain rfl := rejected_input hnext hw hw' hpc hpc'
    have hreturn : s.fullReturn (.writer id (.sdk s.device.config.queueFull)) = some w := by
      simp [fullReturn, hw, Writer.submitting, hpc]
    simpa [fullOfCurrent, hreturn] using hfull
  | other j input v v' ha hne hreturned =>
    intro hattempt
    unfold Writer.attempting at hattempt
    unfold Writer.isReturned at hreturned
    split at hattempt <;> simp_all
  | aside _ ha hwake haside =>
    have hstill := haside.ring.since h.slots (List.mem_of_getElem? hw)
      (step_of_next hnext).config hsince
    rcases hwake with rfl | ⟨site, hpc, rfl⟩
    · exact hstill
    · exact hstill.kept (by simp [Writer.attempting, hpc]) (by simp [Writer.backedUp, hpc]) rfl rfl rfl
        rfl

/-- A callback for the current completion state waits for its mutex. -/
theorem complete_free {s t : TxSystem} {index : ℕ} {context : TxSendContext}
    (hnext : s.next (.complete index) = some t) (hcontext : s.device.inFlight[index]? = some context)
    (hcurrent : context.completion = s.device.txCompletion) : s.free .completion = true := by
  simp only [next, hcontext] at hnext
  split at hnext
  · next hfree => simpa [freeCompletion, hcurrent] using hfree
  · cases hnext

/-- A notification that leaves a call parked was one of another completion state. -/
theorem notified_due {s t : TxSystem} {index id : ℕ} {w : Writer}
    (hnext : s.next (.notifyCompletion index) = some t) (hw' : t.writers[id]? = some w)
    (hpc : w.pc = .parked .full) (hdue : s.device.txCompletion ∈ s.device.toNotify) :
    t.device.txCompletion ∈ t.device.toNotify := by
  simp only [next] at hnext
  split at hnext
  · cases hnext
  · next completion hcompletion =>
    split at hnext
    · cases hnext
      simp only [notify, List.getElem?_map] at hw'
      obtain ⟨v, -, rfl⟩ := Option.map_eq_some_iff.mp hw'
      unfold Writer.wakeChanged at hpc
      split at hpc <;> simp_all
    · next hother =>
      cases hnext
      obtain ⟨i, hi⟩ := List.getElem?_of_mem hdue
      have hne : i ≠ index := by
        rintro rfl
        exact hother (Option.some.inj (hcompletion.symm.trans hi))
      exact List.mem_eraseIdx_iff_getElem?.mpr ⟨i, hne, hi⟩

/-- A call that a step has left parked in the wait was not notified by it. -/
theorem due_step {config : TxConfiguration} {s t : TxSystem} {a : TxAction} {id : ℕ} {w w' : Writer}
    (h : s.Writing config) (hnext : s.next a = some t) (hw : s.writers[id]? = some w)
    (hw' : t.writers[id]? = some w') (hcall : CallStep s a t id w w') (hdue : w.Due s.device) :
    w'.Due t.device := by
  cases hcall with
  | moved input _ ha hmove => exact hmove.due hdue
  | other j input v v' ha hne hreturned =>
    constructor
    all_goals
      intro hpc
      simp [Writer.isReturned, hpc] at hreturned
  | aside _ ha hwake haside =>
    rcases hwake with rfl | ⟨site, hpc, rfl⟩
    · obtain ⟨hsleeping, hparked⟩ := hdue
      have hmem := List.mem_of_getElem? hw
      cases haside.ring with
      | kept hnot hcompletions hflight hcompletion =>
        have hcompleted : t.device.completed = s.device.completed := by
          rw [TxDevice.completed, TxDevice.completed, hcompletions, hcompletion]
        refine ⟨fun hpc => hcompleted.trans (hsleeping hpc), fun hpc hprogress => ?_⟩
        have hold := hparked hpc (hcompleted ▸ hprogress)
        by_cases hnotify : ∃ index, a = .notifyCompletion index
        · obtain ⟨index, rfl⟩ := hnotify
          exact notified_due hnext hw' hpc hold
        · rw [hcompletion]
          exact (step_of_next hnext).toNotify (fun index hindex => hnotify ⟨index, hindex⟩) _ hold
      | completed index context hindex hcontext hdevice =>
        subst hindex
        obtain ⟨completions, toNotify, heq⟩ := callBack_changes s.device index context
        have htx : t.device.txCompletion = s.device.txCompletion := by rw [hdevice, heq]
        by_cases hcurrent : context.completion = s.device.txCompletion
        · refine ⟨fun hpc => ?_, fun _ _ => ?_⟩
          · have hfree := complete_free hnext hcontext hcurrent
            simp only [free, Bool.and_eq_true, List.all_eq_true] at hfree
            have hheld := hfree.1 w' hmem
            simp [Writer.holds, hpc, WaitSite.mutex] at hheld
          · rw [htx, hdevice]
            exact (callBack_progress h.slots hcontext hcurrent).2
        · have hcompleted : t.device.completed = s.device.completed := by
            rw [hdevice]
            exact callBack_completed (Ne.symm hcurrent)
          refine ⟨fun hpc => hcompleted.trans (hsleeping hpc), fun hpc hprogress => ?_⟩
          rw [htx]
          exact (step_of_next hnext).toNotify (by simp) _ (hparked hpc (hcompleted ▸ hprogress))
      | allocated hnot hquiet =>
        have hadmitted := hquiet w' hmem
        constructor
        all_goals
          intro hpc
          simp [Writer.admitted, hpc] at hadmitted
    · constructor <;> simp

theorem backed_step {config : TxConfiguration} {s t : TxSystem} {a : TxAction} (h : s.Backed config)
    (ha : s.serialized a = true) (hfull : s.fullOfCurrent a = true) (hnext : s.next a = some t) :
    t.Backed config := by
  have hstep := step_of_next hnext
  refine ⟨writing_step h.toWriting ha hstep, fun id w' hw' => ?_⟩
  rcases hstep.call_before hw' with ⟨w, hw⟩ | ⟨-, request, -, rfl⟩
  · obtain ⟨x, hx, hcall⟩ := call_step h.admission h.serial hstep hw
    obtain rfl : x = w' := Option.some.inj (hx.symm.trans hw')
    obtain ⟨hsince, hdue⟩ := h.calls id w hw
    exact ⟨since_step h.toWriting hfull hnext hw hw' hcall hsince,
      due_step h.toWriting hnext hw hw' hcall hdue⟩
  · exact ⟨by simp [Writer.Since, Writer.create, Writer.attempting],
      by simp [Writer.Due, Writer.create]⟩

/-! ## The theorem -/

theorem Backed.wakeable {config : TxConfiguration} {s : TxSystem} (h : s.Backed config)
    (hcount : config.txBufferCount < 2 ^ 32) : s.Wakeable := by
  intro w hw hpc _
  obtain ⟨id, hid⟩ := List.getElem?_of_mem hw
  obtain ⟨hsince, -, hdue⟩ := h.calls id w hid
  refine ⟨?_, hdue hpc⟩
  obtain ⟨m, hm, hle, hpos⟩ := hsince (by simp [Writer.attempting, hpc])
  rw [h.configured] at hle hpos
  have hpos := hpos (by simp [Writer.backedUp, hpc])
  rcases Nat.eq_zero_or_pos m with rfl | hprogress
  · have houtstanding : 0 < s.device.outstanding := by omega
    obtain ⟨context, hmem, hcurrent⟩ := List.countP_pos_iff.mp houtstanding
    obtain ⟨index, hcontext⟩ := List.getElem?_of_mem hmem
    refine .inl ⟨index, context, hcontext, ?_⟩
    rw [(callBack_progress h.slots hcontext (eq_of_beq hcurrent)).1, hm]
    simp
  · refine .inr ?_
    rw [hm]
    intro hsame
    have hzero : UInt64.ofNat m = 0 := by simpa using hsame
    have hmod : (UInt64.ofNat m).toNat = 0 := by rw [hzero]; rfl
    rw [UInt64.toNat_ofNat', Nat.mod_eq_of_lt (by omega)] at hmod
    omega

end TxSystem

namespace TxSystem

/-- A write whose block the SDK's full queue refuses, up to where it is parked. -/
def refusedByFull (id : ℕ) : List TxAction :=
  .writeStream oneBlock :: List.replicate 9 (.writer id .run) ++ [.writer id (.sdk 1)] ++
    List.replicate 4 (.writer id .run)

/-- The stream is closed and set up again while its packet is in flight, and completes while a write on
the new stream is parked on the queue that it has filled. -/
def filledByEarlier : List TxAction :=
  packetInFlight ++ SmallTx.drain ++ [.lifecycle .run, .lifecycle (.sdk 0), .call (.closeStream 100)] ++
    List.replicate 5 (.lifecycle .run) ++ SmallTx.setup ++ SmallTx.activate ++ refusedByFull 1 ++
    [.complete 0, .notifyCompletion 0]

end TxSystem

end SoapySidekiq
