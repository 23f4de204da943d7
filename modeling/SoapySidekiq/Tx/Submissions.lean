import Mathlib.Data.List.Induction
import SoapySidekiq.Foundations.Potential
import SoapySidekiq.Tx.Packets

/-! # The submissions of a write

A write call submits a block once in each iteration of its loop. An iteration that neither accepts its
block nor ends the call goes round again for a completion that has come since its reservation, and the
completions are those of the packets that were in flight and of the call's own. -/
set_option autoImplicit false

namespace SoapySidekiq

/-! ## Counting -/

/-- The contexts of the current completion state that the SDK has accepted and not completed. -/
def TxDevice.outstanding (d : TxDevice) : ℕ :=
  d.inFlight.countP fun context => context.completion == d.txCompletion

def SdkEvent.submits (id : ℕ) : SdkEvent → Bool
  | .issued (.transmit _ writer _) => writer == id
  | _ => false

/-- How often the call has called `skiq_transmit`. -/
def submissions (id : ℕ) (trace : List SdkEvent) : ℕ := trace.countP (SdkEvent.submits id)

namespace Writer

/-! The steps of a call that count, as the call before the step and after it. -/

/-- An iteration of the block loop begins. -/
def begins (w w' : Writer) : ℕ :=
  match w.pc, w'.pc with
  | .loop, .locking _ _ => 1
  | _, _ => 0

/-- The SDK accepts the block. -/
def accepts (w w' : Writer) : ℕ :=
  match w.pc, w'.pc with
  | .transmitting, .accepted => 1
  | _, _ => 0

/-- The call tries the same block again after the SDK's queue was full. -/
def retries (w w' : Writer) : ℕ :=
  match w.pc, w'.pc with
  | .inside .fullFirst _, .loop | .inside .full _, .loop => 1
  | _, _ => 0

/-- The call has reserved a slot for its block, which the SDK has not accepted. -/
def attempting (w : Writer) : Bool :=
  match w.pc with
  | .reserved | .filling | .transmitting | .releasing _ => true
  | .locking site _ | .inside site _ | .sleeping site | .parked site =>
    site == .fullFirst || site == .full
  | _ => false

/-- The call can begin an iteration, whatever happens. -/
def ready (w : Writer) : ℕ :=
  match w.pc with
  | .enter | .admission | .validate | .gate | .loop | .accepted | .advance => 1
  | .locking site _ | .inside site _ | .sleeping site | .parked site => if site = .pps then 1 else 0
  | _ => 0

/-- The iteration has not submitted its block. -/
def unsubmitted (w : Writer) : ℕ :=
  match w.pc with
  | .reserved | .filling => 1
  | .locking site _ | .inside site _ | .sleeping site | .parked site => if site = .slot then 1 else 0
  | _ => 0

end Writer

namespace TxSystem

/-- What a step counts for when it is the call's. -/
def ofCall (id : ℕ) (weight : Writer → Writer → ℕ) (s : TxSystem) (a : TxAction) (t : TxSystem) : ℕ :=
  match a with
  | .writer j _ =>
    if j = id then
      match s.writers[id]?, t.writers[id]? with
      | some w, some w' => weight w w'
      | _, _ => 0
    else 0
  | _ => 0

/-- The SDK calls back for a context of the current completion state while the call is in progress. -/
def completes (id : ℕ) (s : TxSystem) (a : TxAction) (_ : TxSystem) : ℕ :=
  match a with
  | .complete index =>
    match s.device.inFlight[index]?, s.writers[id]? with
    | some context, some w =>
      if context.completion = s.device.txCompletion ∧ w.over = false then 1 else 0
    | _, _ => 0
  | _ => 0

/-- The call has just reserved a slot: nothing has completed since. -/
def Reserved (id : ℕ) (s : TxSystem) : Prop :=
  ∃ w, s.writers[id]? = some w ∧ w.pc = .reserved ∧ w.observedCompletions = s.device.completed

end TxSystem

/-! ## Potentials of one move -/

namespace WriterMove
variable {d d' : TxDevice} {id : ℕ} {w w' : Writer}

/-- Only an acceptance and a retry let the call begin one more iteration. -/
theorem begins_paid (h : WriterMove d id w d' w') :
    w.begins w' + w'.ready ≤ w.ready + (w.accepts w' + w.retries w') := by
  cases h with
  | progressed site timedOut hpc hsite hfull =>
    cases site <;> simp_all [Writer.begins, Writer.ready, Writer.accepts, Writer.retries]
  | waits site site' timedOut hpc hopen hsite hslot =>
    cases site <;> cases site' <;> simp_all [Writer.begins, Writer.ready, Writer.accepts, Writer.retries]
  | _ => simp_all [Writer.begins, Writer.ready, Writer.accepts, Writer.retries]

/-- An iteration submits at most once. -/
theorem submissions_paid (h : WriterMove d id w d' w') :
    submissions id d'.trace + w'.unsubmitted ≤
      submissions id d.trace + w.unsubmitted + w.begins w' := by
  cases h with
  | submitted _ hpc hfill =>
    subst hfill
    simp [submissions, SdkEvent.submits, Writer.unsubmitted, Writer.begins, TxDevice.transmitCall, hpc]
  | rejected _ hpc | accepted hpc | transmitted hpc =>
    simp [submissions, SdkEvent.submits, Writer.unsubmitted, Writer.begins, hpc]
  | waits site site' timedOut hpc hopen hsite hslot =>
    cases site <;> cases site' <;> simp_all [Writer.unsubmitted, Writer.begins]
  | _ => simp_all [Writer.unsubmitted, Writer.begins]

/-- A call accepts no more blocks than it has. -/
theorem accepts_paid (h : WriterMove d id w d' w') (hw : w.Sound d.config) :
    w.accepts w' + (w.request.numElems / d.config.currentTxBlockSize - w'.progress) ≤
      w.request.numElems / d.config.currentTxBlockSize - w.progress := by
  cases h with
  | accepted hpc =>
    have hlt := hw.inBlock (by simp [Writer.inBlock, hpc])
    simp only [Writer.accepts, Writer.progress, hpc, Writer.goto_pc, Writer.goto_currBlock]
    omega
  | _ => simp_all [Writer.accepts, Writer.progress]

end WriterMove

/-! ## Completions -/

theorem setSlot_completed (d : TxDevice) (completion txIndex : ℕ) (value : Bool) :
    (d.setSlot completion txIndex value).completed = d.completed := by
  unfold TxDevice.completed
  simp only [TxDevice.setSlot_completions, TxDevice.setSlot_txCompletion, List.getElem?_modify]
  cases d.completions[d.txCompletion]? with
  | none => rfl
  | some state => by_cases hk : completion = d.txCompletion <;> simp [hk]

/-- A callback for another completion state leaves the progress of the current one alone. -/
theorem callBack_completed {d : TxDevice} {index : ℕ} {context : TxSendContext}
    (hne : d.txCompletion ≠ context.completion) : (d.callBack index context).completed = d.completed := by
  obtain ⟨_, _, heq⟩ := callBack_changes d index context
  have hstates := d.callBack_elsewhere index context hne
  unfold TxDevice.completed
  rw [show (d.callBack index context).txCompletion = d.txCompletion by rw [heq], hstates]

/-- The current state's contexts in flight, when one of any state leaves. -/
theorem callBack_outstanding {d : TxDevice} {index : ℕ} {context : TxSendContext}
    (hcontext : d.inFlight[index]? = some context) :
    (d.callBack index context).outstanding + (context.completion == d.txCompletion).toNat =
      d.outstanding := by
  obtain ⟨_, _, heq⟩ := callBack_changes d index context
  obtain ⟨hlt, rfl⟩ := List.getElem?_eq_some_iff.mp hcontext
  unfold TxDevice.outstanding
  rw [heq, ← (List.getElem_cons_eraseIdx_perm hlt).countP_eq, List.countP_cons]
  dsimp only
  cases d.inFlight[index].completion == d.txCompletion <;> rfl

/-- A completion state that has just been made has nothing in flight. -/
theorem allocated_outstanding {s : TxSystem} (h : s.Slots) :
    s.device.initializeTxBuffers.outstanding = 0 := by
  refine List.countP_eq_zero.mpr fun context hmem hcurrent => ?_
  have hcompletion : context.completion = s.device.completions.length := by
    simpa [TxDevice.initializeTxBuffers] using hcurrent
  have hslot := (h.owned_iff context).mpr (.inr hmem)
  rw [TxDevice.slotOf, TxDevice.slot, hcompletion, List.getElem?_eq_none (Nat.le_refl _)] at hslot
  cases hslot

namespace Writer

/-- A completion has come since the call's reservation. -/
def fresh (d : TxDevice) (w : Writer) : ℕ :=
  if w.attempting = true ∧ d.completed ≠ w.observedCompletions then 1 else 0

/-- What the completions of the call in progress can still amount to. -/
def owed (d : TxDevice) (w : Writer) : ℕ := if w.over then 0 else d.outstanding

theorem fresh_le (d : TxDevice) (w : Writer) : w.fresh d ≤ 1 := by
  unfold fresh
  split <;> omega

end Writer

namespace WriterMove
variable {d d' : TxDevice} {id : ℕ} {w w' : Writer}

/-- A retry needs a completion since the reservation, and begins the search for the next one. -/
theorem retries_paid (h : WriterMove d id w d' w') : w.retries w' + w'.fresh d' ≤ w.fresh d := by
  have hnone : w'.attempting = false → w.retries w' = 0 → w.retries w' + w'.fresh d' ≤ w.fresh d := by
    intro hattempt hretry
    simp [hretry, Writer.fresh, hattempt]
  cases h with
  | reserved timedOut hpc =>
    simp [Writer.retries, hpc, Writer.fresh, setSlot_completed]
  | progressed site timedOut hpc hsite hfull hprogress =>
    cases site <;> simp_all [Writer.retries, Writer.fresh, Writer.attempting]
  | queueFull result hpc =>
    simp [Writer.retries, hpc, Writer.fresh, setSlot_completed, Writer.attempting]
  | submitted _ hpc hfill =>
    subst hfill
    simp [Writer.retries, hpc, Writer.fresh, Writer.attempting, TxDevice.completed]
  | rejected _ hpc => simp [Writer.retries, hpc, Writer.fresh, Writer.attempting, TxDevice.completed]
  | waits site site' timedOut hpc hopen hsite hslot =>
    cases site <;> cases site' <;> simp_all [Writer.retries, Writer.fresh, Writer.attempting]
  | locked _ _ hpc | slept _ hpc | woken _ _ hpc | prepared hpc | unprepared _ hpc | unfilled _ hpc =>
    simp [Writer.retries, hpc, Writer.fresh, Writer.attempting]
  | _ => exact hnone rfl (by simp_all [Writer.retries])

/-- What the call puts into flight it has accepted. -/
theorem completes_paid (h : WriterMove d id w d' w') : w'.owed d' ≤ w.owed d + w.accepts w' := by
  cases h with
  | accepted hpc =>
    simp only [Writer.owed, Writer.over, hpc, Writer.accepts, Writer.goto_pc, TxDevice.outstanding,
      TxDevice.log_inFlight, TxDevice.log_txCompletion, List.countP_append]
    have hle := List.countP_le_length (p := fun c : TxSendContext => c.completion == d.txCompletion)
      (l := [w.context])
    simpa using hle
  | submitted _ hpc hfill =>
    subst hfill
    simp [Writer.owed, Writer.over, hpc, TxDevice.outstanding]
  | _ => simp_all [Writer.owed, Writer.over, TxDevice.outstanding]

end WriterMove

/-! ## Potentials of one step -/

theorem submissions_append {id : ℕ} {trace events : List SdkEvent}
    (h : ∀ e ∈ events, e.writer ≠ some id) :
    submissions id (trace ++ events) = submissions id trace := by
  have hnone : events.countP (SdkEvent.submits id) = 0 := by
    refine List.countP_eq_zero.mpr fun e he hsubmits => h e he ?_
    unfold SdkEvent.submits at hsubmits
    split at hsubmits
    · simpa [SdkEvent.writer] using hsubmits
    · cases hsubmits
  rw [submissions, List.countP_append, hnone]
  rfl

namespace TxSystem
variable {s t : TxSystem} {a : TxAction} {id : ℕ} {w w' : Writer} {weight : Writer → Writer → ℕ}

theorem ofCall_moved {input : CallInput} (hw : s.writers[id]? = some w)
    (hw' : t.writers[id]? = some w') : ofCall id weight s (.writer id input) t = weight w w' := by
  simp [ofCall, hw, hw']

theorem ofCall_other (ha : ∀ input, a ≠ .writer id input) : ofCall id weight s a t = 0 := by
  cases a with
  | writer j input =>
    have hne : j ≠ id := by
      rintro rfl
      exact ha input rfl
    simp [ofCall, hne]
  | _ => rfl

theorem completes_other (ha : ∀ index, a ≠ .complete index) : completes id s a t = 0 := by
  cases a with
  | complete index => exact absurd rfl (ha index)
  | _ => rfl

end TxSystem

/-- A potential of a phase that a wake-up does not change. -/
theorem woken_eq {φ : Writer → ℕ} {w w' : Writer}
    (hφ : ∀ site, w.pc = .parked site → φ (w.goto (.locking site false)) = φ w)
    (hwake : w' = w ∨ ∃ site, w.pc = .parked site ∧ w' = w.goto (.locking site false)) : φ w' = φ w := by
  rcases hwake with rfl | ⟨site, hpc, rfl⟩
  · rfl
  · exact hφ site hpc

namespace CallStep
variable {s t : TxSystem} {a : TxAction} {id : ℕ} {w w' : Writer}

theorem begins_paid (h : CallStep s a t id w w') (hw : s.writers[id]? = some w)
    (hw' : t.writers[id]? = some w') :
    TxSystem.ofCall id Writer.begins s a t + w'.ready ≤ w.ready +
      (TxSystem.ofCall id Writer.accepts s a t + TxSystem.ofCall id Writer.retries s a t) := by
  cases h with
  | moved input _ ha hmove =>
    subst ha
    simp only [TxSystem.ofCall_moved hw hw']
    exact hmove.begins_paid
  | other j input v v' ha hne =>
    rw [TxSystem.ofCall_other (by simp [ha, hne])]
    omega
  | aside _ ha hwake =>
    rw [TxSystem.ofCall_other fun input => ha id input,
      woken_eq (φ := Writer.ready) (fun site hpc => by simp [Writer.ready, hpc]) hwake]
    omega

theorem submissions_paid (h : CallStep s a t id w w') (hw : s.writers[id]? = some w)
    (hw' : t.writers[id]? = some w') :
    submissions id t.device.trace + w'.unsubmitted ≤ submissions id s.device.trace + w.unsubmitted +
      TxSystem.ofCall id Writer.begins s a t := by
  cases h with
  | moved input _ ha hmove =>
    subst ha
    rw [TxSystem.ofCall_moved hw hw']
    exact hmove.submissions_paid
  | other j input v v' ha hne hreturned hmove =>
    obtain ⟨events, htrace, hevents⟩ := hmove.events
    rw [htrace, submissions_append fun e he => by simp [hevents e he, hne]]
    omega
  | aside _ ha hwake haside =>
    obtain ⟨events, htrace, hevents⟩ := haside.trace
    rw [htrace, submissions_append fun e he => by simp [SdkEvent.writer_none (hevents e he)],
      woken_eq (φ := Writer.unsubmitted) (fun site hpc => by simp [Writer.unsubmitted, hpc]) hwake]
    omega

theorem accepts_paid (h : CallStep s a t id w w') (hw : s.writers[id]? = some w)
    (hw' : t.writers[id]? = some w') (hsound : w.Sound s.device.config) :
    TxSystem.ofCall id Writer.accepts s a t +
        (w'.request.numElems / s.device.config.currentTxBlockSize - w'.progress) ≤
      w.request.numElems / s.device.config.currentTxBlockSize - w.progress := by
  cases h with
  | moved input _ ha hmove =>
    subst ha
    rw [TxSystem.ofCall_moved hw hw', hmove.request]
    exact hmove.accepts_paid hsound
  | other j input v v' ha hne =>
    rw [TxSystem.ofCall_other (by simp [ha, hne])]
    omega
  | aside _ ha hwake =>
    have hprogress := woken_progress hwake
    have hrequest : w'.request = w.request := by rcases hwake with rfl | ⟨site, hpc, rfl⟩ <;> rfl
    rw [TxSystem.ofCall_other fun input => ha id input, hprogress, hrequest]
    omega

/-- Each retry is paid by a completion since the reservation of its attempt. -/
theorem retries_paid (h : CallStep s a t id w w') (hw : s.writers[id]? = some w)
    (hw' : t.writers[id]? = some w') :
    TxSystem.ofCall id Writer.retries s a t + w'.fresh t.device ≤
      w.fresh s.device + TxSystem.completes id s a t := by
  cases h with
  | moved input _ ha hmove =>
    subst ha
    rw [TxSystem.ofCall_moved hw hw']
    exact Nat.le_trans hmove.retries_paid (Nat.le_add_right _ _)
  | other j input v v' ha hne hreturned =>
    have hphase : w.attempting = false := by
      unfold Writer.isReturned at hreturned
      unfold Writer.attempting
      split at hreturned <;> simp_all
    rw [TxSystem.ofCall_other (by simp [ha, hne])]
    simp [Writer.fresh, hphase]
  | aside _ ha hwake haside =>
    have hsame : ∀ d : TxDevice, w'.fresh d = w.fresh d := fun d =>
      woken_eq (fun site hpc => by simp [Writer.fresh, Writer.attempting, hpc]) hwake
    rw [TxSystem.ofCall_other fun input => ha id input, hsame, Nat.zero_add]
    cases haside.ring with
    | kept hnot hcompletions hflight hcompletion =>
      have hcompleted : t.device.completed = s.device.completed := by
        rw [TxDevice.completed, TxDevice.completed, hcompletions, hcompletion]
      simp only [Writer.fresh, hcompleted]
      omega
    | completed index context hindex hcontext hdevice =>
      by_cases hcurrent : context.completion = s.device.txCompletion
      · by_cases hphase : w.attempting = true
        · have hover : w.over = false := by
            unfold Writer.attempting at hphase
            unfold Writer.over
            split at hphase <;> simp_all
          have hone : TxSystem.completes id s a t = 1 := by
            simp [TxSystem.completes, hindex, hcontext, hw, hcurrent, hover]
          have hle := w.fresh_le t.device
          omega
        · simp [Writer.fresh, hphase]
      · rw [Writer.fresh, hdevice, callBack_completed (Ne.symm hcurrent)]
        exact Nat.le_add_right _ _
    | allocated hnot hquiet =>
      have hphase : w.attempting = false := by
        have hadmitted := hquiet w (List.mem_of_getElem? hw)
        unfold Writer.admitted at hadmitted
        unfold Writer.attempting
        split at hadmitted <;> simp_all
      simp [Writer.fresh, hphase]

/-- Each completion is paid by a packet that was in flight or that the call has accepted. -/
theorem completes_paid (h : CallStep s a t id w w') (hslots : s.Slots) (hw : s.writers[id]? = some w)
    (hw' : t.writers[id]? = some w') :
    TxSystem.completes id s a t + w'.owed t.device ≤
      w.owed s.device + TxSystem.ofCall id Writer.accepts s a t := by
  cases h with
  | moved input _ ha hmove =>
    subst ha
    rw [TxSystem.ofCall_moved hw hw', TxSystem.completes_other (by simp), Nat.zero_add]
    exact hmove.completes_paid
  | other j input v v' ha hne hreturned =>
    have hover : w.over = true := by
      unfold Writer.isReturned at hreturned
      unfold Writer.over
      split at hreturned <;> simp_all
    rw [TxSystem.completes_other (by simp [ha])]
    simp [Writer.owed, hover]
  | aside _ ha hwake haside =>
    have hsame : ∀ d : TxDevice, w'.owed d = w.owed d := fun d =>
      woken_eq (fun site hpc => by simp [Writer.owed, Writer.over, hpc]) hwake
    rw [hsame]
    cases haside.ring with
    | kept hnot hcompletions hflight hcompletion =>
      have houtstanding : t.device.outstanding = s.device.outstanding := by
        rw [TxDevice.outstanding, TxDevice.outstanding, hflight, hcompletion]
      rw [TxSystem.completes_other hnot, Writer.owed, Writer.owed, houtstanding]
      omega
    | completed index context hindex hcontext hdevice =>
      have hcount := callBack_outstanding hcontext
      by_cases hover : w.over = true
      · simp [Writer.owed, hover, TxSystem.completes, hindex, hcontext, hw]
      · simp only [Writer.owed, hover, hdevice, TxSystem.completes, hindex, hcontext, hw]
        by_cases hcurrent : context.completion = s.device.txCompletion
        · simp [hcurrent] at hcount ⊢
          omega
        · simp [hcurrent] at hcount ⊢
          omega
    | allocated hnot hquiet hdevice =>
      have hzero : w.owed t.device = 0 := by
        rw [Writer.owed, hdevice, allocated_outstanding hslots, ite_self]
      rw [TxSystem.completes_other hnot, hzero]
      omega

end CallStep

/-! ## Runs -/

namespace TxSystem

/-- The write call number `id` was made, with this request. -/
structure InCall (config : TxConfiguration) (request : WriteRequest) (id : ℕ) (s : TxSystem) : Prop
    extends s.Writing config where
  call : ∃ w, s.writers[id]? = some w ∧ w.Sound config ∧ w.request = request

variable {config : TxConfiguration} {request : WriteRequest} {id : ℕ}

theorem inCall_step {s t : TxSystem} {a : TxAction} (h : s.InCall config request id)
    (ha : s.serialized a = true) (hnext : s.next a = some t) : t.InCall config request id := by
  have hstep := step_of_next hnext
  obtain ⟨w, hw, hsound, hrequest⟩ := h.call
  obtain ⟨w', hw', hcall⟩ := call_step h.admission h.serial hstep hw
  rw [← h.configured] at hsound
  exact ⟨writing_step h.toWriting ha hstep,
    w', hw', h.configured ▸ hcall.sound hsound, hcall.request.trans hrequest⟩

theorem inCall_run {s t : TxSystem} {actions : List TxAction} (hs : s.InCall config request id)
    (hserial : Transition.Along next (fun u a => u.serialized a = true) s actions)
    (hrun : Transition.run next s actions = some t) : t.InCall config request id :=
  Transition.along_invariant (fun _ _ _ h ha hnext => inCall_step h ha hnext) hs hserial hrun

/-- What a potential of the call is in a state. -/
def atCall (id : ℕ) (φ : TxDevice → Writer → ℕ) (s : TxSystem) : ℕ :=
  match s.writers[id]? with
  | some w => φ s.device w
  | none => 0

theorem atCall_eq {φ : TxDevice → Writer → ℕ} {s : TxSystem} {w : Writer}
    (hw : s.writers[id]? = some w) : s.atCall id φ = φ s.device w := by
  rw [atCall, hw]

/-- A potential of the call that its steps pay from bounds what a run of them costs. -/
theorem call_pays (φ : TxDevice → Writer → ℕ) (cost gain : TxSystem → TxAction → TxSystem → ℕ)
    (hpay : ∀ s a t w w', s.InCall config request id → s.writers[id]? = some w →
      t.writers[id]? = some w' → w.Sound s.device.config → CallStep s a t id w w' →
      cost s a t + φ t.device w' ≤ φ s.device w + gain s a t)
    {s t : TxSystem} {actions : List TxAction} (hs : s.InCall config request id)
    (hserial : Transition.Along next (fun u a => u.serialized a = true) s actions)
    (hrun : Transition.run next s actions = some t) :
    Transition.total next cost s actions + t.atCall id φ ≤
      s.atCall id φ + Transition.total next gain s actions := by
  refine Transition.total_le_of_potential (I := fun u => u.InCall config request id)
    (fun u a v hu ha hnext => inCall_step hu ha hnext) (fun u a v hu ha hnext => ?_) hs hserial hrun
  obtain ⟨w, hw, hsound, -⟩ := hu.call
  obtain ⟨w', hw', hcall⟩ := call_step hu.admission hu.serial (step_of_next hnext) hw
  rw [atCall_eq hw, atCall_eq hw']
  exact hpay u a v w w' hu hw hw' (hu.configured.symm ▸ hsound) hcall

section
variable {s t : TxSystem} {actions : List TxAction} (hs : s.InCall config request id)
  (hserial : Transition.Along next (fun u a => u.serialized a = true) s actions)
  (hrun : Transition.run next s actions = some t)
include hs hserial hrun

theorem iterations_le :
    Transition.total next (ofCall id Writer.begins) s actions ≤ s.atCall id (fun _ w => w.ready) +
      (Transition.total next (ofCall id Writer.accepts) s actions +
        Transition.total next (ofCall id Writer.retries) s actions) := by
  have hpays := call_pays (fun _ w => w.ready) (ofCall id Writer.begins)
    (fun u a v => ofCall id Writer.accepts u a v + ofCall id Writer.retries u a v)
    (fun u a v w w' _ hw hw' _ hcall => hcall.begins_paid hw hw') hs hserial hrun
  rw [Transition.total_add] at hpays
  omega

theorem submissions_le :
    submissions id t.device.trace ≤
      s.atCall id (fun d w => submissions id d.trace + w.unsubmitted) +
        Transition.total next (ofCall id Writer.begins) s actions := by
  obtain ⟨w, hw, -⟩ := (inCall_run hs hserial hrun).call
  have hpays := call_pays (fun d w => submissions id d.trace + w.unsubmitted) (fun _ _ _ => 0)
    (ofCall id Writer.begins)
    (fun u a v w w' _ hw hw' _ hcall => by simpa using hcall.submissions_paid hw hw') hs hserial hrun
  rw [atCall_eq hw] at hpays
  omega

theorem accepted_le :
    Transition.total next (ofCall id Writer.accepts) s actions ≤
      request.numElems / config.currentTxBlockSize := by
  obtain ⟨w, hw, -, hrequest⟩ := hs.call
  have hpays := call_pays (fun d w =>
      w.request.numElems / config.currentTxBlockSize - w.progress)
    (ofCall id Writer.accepts) (fun _ _ _ => 0)
    (fun u a v w w' hu hw hw' hsound hcall => by
      have hpaid := hcall.accepts_paid hw hw' hsound
      rwa [hu.configured] at hpaid) hs hserial hrun
  rw [atCall_eq hw, hrequest, Transition.total_zero] at hpays
  exact Nat.le_trans (Nat.le_of_add_right_le hpays) (Nat.sub_le _ _)

theorem retries_le :
    Transition.total next (ofCall id Writer.retries) s actions + t.atCall id (fun d w => w.fresh d) ≤
      s.atCall id (fun d w => w.fresh d) + Transition.total next (completes id) s actions :=
  call_pays (fun d w => w.fresh d) (ofCall id Writer.retries) (completes id)
    (fun _ _ _ _ _ _ hw hw' _ hcall => hcall.retries_paid hw hw') hs hserial hrun

theorem completed_le :
    Transition.total next (completes id) s actions ≤ s.atCall id (fun d w => w.owed d) +
      Transition.total next (ofCall id Writer.accepts) s actions := by
  have hpays := call_pays (fun d w => w.owed d) (completes id) (ofCall id Writer.accepts)
    (fun u a v w w' hu hw hw' _ hcall => hcall.completes_paid hu.slots hw hw') hs hserial hrun
  omega

end

end TxSystem

/-! ## Attempts -/

/-- An attempt begins with the reservation of its slot. -/
theorem WriterMove.attempt {d d' : TxDevice} {id : ℕ} {w w' : Writer} (h : WriterMove d id w d' w')
    (hbefore : w.attempting = false) (hafter : w'.attempting = true) :
    w'.pc = .reserved ∧ w'.observedCompletions = d'.completed := by
  cases h with
  | reserved => exact ⟨rfl, (setSlot_completed d _ _ _).symm⟩
  | waits site site' timedOut hpc hopen hsite hslot =>
    cases site <;> cases site' <;> simp_all [Writer.attempting]
  | _ => simp_all [Writer.attempting]

namespace TxSystem

/-- Before an attempt's retry there is the attempt's reservation, in the same iteration. -/
theorem attempt_reserved {config : TxConfiguration} {request : WriteRequest} {id : ℕ}
    {s v : TxSystem} {w : Writer} {actions : List TxAction} (hs : s.InCall config request id)
    (hbegun : ∀ w, s.writers[id]? = some w → w.attempting = false)
    (hserial : Transition.Along next (fun u a => u.serialized a = true) s actions)
    (hrun : Transition.run next s actions = some v) (hw : v.writers[id]? = some w)
    (hattempt : w.attempting = true) :
    ∃ as bs u, actions = as ++ bs ∧ Transition.run next s as = some u ∧ u.Reserved id ∧
      Transition.run next u bs = some v ∧ Transition.total next (ofCall id Writer.begins) u bs = 0 := by
  induction actions using List.reverseRecOn generalizing v w with
  | nil =>
    cases hrun
    simp [hbegun w hw] at hattempt
  | append_singleton actions a ih =>
    obtain ⟨u, hbefore, hlast⟩ := Transition.run_append.mp hrun
    obtain ⟨v', hnext, hend⟩ := Transition.run_cons.mp hlast
    cases hend
    have hu := inCall_run hs (Transition.along_prefix hserial) hbefore
    obtain ⟨x, hx, -⟩ := hu.call
    obtain ⟨w', hw', hcall⟩ := call_step hu.admission hu.serial (step_of_next hnext) hx
    obtain rfl : w' = w := Option.some.inj (hw'.symm.trans hw)
    by_cases hprevious : x.attempting = true
    · obtain ⟨as, bs, r, hsplit, hreserve, hreserved, hrest, hbegins⟩ :=
        ih (Transition.along_prefix hserial) hbefore hx hprevious
      refine ⟨as, bs ++ [a], r, by rw [hsplit, List.append_assoc], hreserve, hreserved,
        Transition.run_append.mpr ⟨u, hrest, hlast⟩, ?_⟩
      have hone : ofCall id Writer.begins u a v = 0 := by
        cases hcall with
        | moved input _ ha hmove =>
          rw [ha, ofCall_moved hx hw']
          unfold Writer.attempting at hprevious
          unfold Writer.begins
          split <;> simp_all
        | other j input _ _ ha hne => exact ofCall_other (by simp [ha, hne])
        | aside _ ha => exact ofCall_other fun input => ha id input
      rw [Transition.total_append hrest, hbegins, Transition.total_cons hnext, hone]
      rfl
    · have hidle := Bool.eq_false_iff.mpr hprevious
      refine ⟨actions ++ [a], [], v, by simp, hrun, ?_, rfl, rfl⟩
      cases hcall with
      | moved input _ ha hmove =>
        obtain ⟨hpc, hobserved⟩ := hmove.attempt hidle hattempt
        exact ⟨w', hw', hpc, hobserved⟩
      | other => exact absurd hattempt hprevious
      | aside _ ha hwake =>
        rcases hwake with rfl | ⟨site, hpc, rfl⟩
        · exact absurd hattempt hprevious
        · simp only [Writer.attempting, hpc] at hidle
          simp [Writer.attempting, hidle] at hattempt

end TxSystem

/-- A retry uses up a completion that has come since the reservation of its attempt. -/
theorem TxSystem.retry_completed {config : TxConfiguration} {request : WriteRequest} {id : ℕ}
    {s u v : TxSystem} {actions : List TxAction} {a : TxAction} (hs : s.InCall config request id)
    (hbegun : ∀ w, s.writers[id]? = some w → w.attempting = false)
    (hserial : Transition.Along next (fun u a => u.serialized a = true) s (actions ++ [a]))
    (hrun : Transition.run next s actions = some u) (hnext : u.next a = some v)
    (hretry : 0 < ofCall id Writer.retries u a v) :
    ∃ as bs r, actions = as ++ bs ∧ Transition.run next s as = some r ∧ r.Reserved id ∧
      Transition.total next (ofCall id Writer.begins) r bs = 0 ∧
      0 < Transition.total next (completes id) r bs := by
  have hu := inCall_run hs (Transition.along_prefix hserial) hrun
  obtain ⟨w, hw, -⟩ := hu.call
  have hown : ∃ input, a = .writer id input := by
    by_contra hnone
    rw [ofCall_other fun input ha => hnone ⟨input, ha⟩] at hretry
    omega
  obtain ⟨input, rfl⟩ := hown
  have hattempt : w.attempting = true := by
    obtain ⟨w', hw', -⟩ := call_step hu.admission hu.serial (step_of_next hnext) hw
    rw [ofCall_moved hw hw'] at hretry
    unfold Writer.retries at hretry
    unfold Writer.attempting
    split at hretry <;> simp_all
  obtain ⟨as, bs, r, rfl, hr, hreserved, hrest, hbegins⟩ :=
    attempt_reserved hs hbegun (Transition.along_prefix hserial) hrun hw hattempt
  refine ⟨as, bs, r, rfl, hr, hreserved, hbegins, ?_⟩
  rw [List.append_assoc] at hserial
  have hretries := retries_le (inCall_run hs (Transition.along_prefix hserial) hr)
    (Transition.along_suffix hserial hr)
    (Transition.run_append.mpr ⟨u, hrest, Transition.run_cons.mpr ⟨v, hnext, rfl⟩⟩)
  have hfresh : r.atCall id (fun d w => w.fresh d) = 0 := by
    obtain ⟨x, hx, -, hobserved⟩ := hreserved
    simp [atCall_eq hx, Writer.fresh, hobserved]
  rw [Transition.total_append hrest, Transition.total_append hrest, Transition.total_cons hnext,
    Transition.total_cons hnext, hfresh, completes_other (by simp)] at hretries
  simp only [Transition.total_nil] at hretries
  omega

/-! ## The theorem -/

namespace TxSystem

/-- A call of `n` blocks that finds `p` packets of its completion state in flight submits at most
`2 * n + p + 1` times: each iteration but the last one accepts a block or retries it, and each retry
uses up a completion that has come since the reservation of its attempt. -/
theorem write_submissions_bounded {config : TxConfiguration} {before after : List TxAction}
    {request : WriteRequest} {s₀ s₁ s : TxSystem}
    (hserial : Transition.Along next (fun u a => u.serialized a = true) (create config)
      (before ++ .writeStream request :: after))
    (hbefore : Transition.run next (create config) before = some s₀)
    (hbegin : s₀.next (.writeStream request) = some s₁)
    (hafter : Transition.run next s₁ after = some s) :
    let id := s₀.writers.length
    let n := request.numElems / config.currentTxBlockSize
    let p := s₀.device.outstanding
    let iterations := Transition.total next (ofCall id Writer.begins) s₁ after
    let accepted := Transition.total next (ofCall id Writer.accepts) s₁ after
    let retries := Transition.total next (ofCall id Writer.retries) s₁ after
    let completed := Transition.total next (completes id) s₁ after
    submissions id s.device.trace ≤ 2 * n + p + 1 ∧
    submissions id s.device.trace ≤ iterations ∧ iterations ≤ accepted + retries + 1 ∧
    accepted ≤ n ∧ retries ≤ completed ∧ completed ≤ p + accepted ∧
    ∀ actions a u v, actions ++ [a] <+: after → Transition.run next s₁ actions = some u →
      u.next a = some v → 0 < ofCall id Writer.retries u a v →
      ∃ as bs r, actions = as ++ bs ∧ Transition.run next s₁ as = some r ∧ r.Reserved id ∧
        Transition.total next (ofCall id Writer.begins) r bs = 0 ∧
        0 < Transition.total next (completes id) r bs := by
  intro id n p iterations accepted retries completed
  have hwriting := writing_run (writing_create config) (Transition.along_prefix hserial) hbefore
  have hrest := Transition.along_suffix hserial hbefore
  have hserial₁ := hrest.2 s₁ hbegin
  have hwriting₁ := writing_step hwriting hrest.1 (step_of_next hbegin)
  obtain rfl : { s₀ with writers := s₀.writers ++ [.create request] } = s₁ := Option.some.inj hbegin
  have hcall : (s₀.writers ++ [.create request])[id]? = some (.create request) := by simp [id]
  have hin : InCall config request id { s₀ with writers := s₀.writers ++ [.create request] } :=
    ⟨hwriting₁, .create request, hcall, sound_create config request, rfl⟩
  have hiterations := iterations_le hin hserial₁ hafter
  have hsubmissions := submissions_le hin hserial₁ hafter
  have haccepted := accepted_le hin hserial₁ hafter
  have hretries := retries_le hin hserial₁ hafter
  have hcompleted := completed_le hin hserial₁ hafter
  have hstart : ∀ φ, atCall id φ { s₀ with writers := s₀.writers ++ [.create request] } =
      φ s₀.device (.create request) := fun φ => atCall_eq hcall
  rw [hstart] at hiterations hsubmissions hcompleted hretries
  have hready : (Writer.create request).ready = 1 := rfl
  have hsubmitted : submissions id s₀.device.trace = 0 :=
    @submissions_append _ [] _ fun e he hwriter => Nat.lt_irrefl _ (hwriting.made e he id hwriter)
  have hunsubmitted : (Writer.create request).unsubmitted = 0 := rfl
  have hquiet : (Writer.create request).fresh s₀.device = 0 := rfl
  have howed : (Writer.create request).owed s₀.device = p := rfl
  refine ⟨by omega, by omega, by omega, haccepted, by omega, by omega, ?_⟩
  rintro actions a u v ⟨rest, rfl⟩ hu hnext hretry
  refine retry_completed hin (fun w hw => ?_) (Transition.along_prefix hserial₁) hu hnext hretry
  obtain rfl : w = .create request := Option.some.inj (hw.symm.trans hcall)
  rfl

end TxSystem

namespace TxSystem

def oneBlock : WriteRequest := ⟨100, some fun i => UInt8.ofNat i, 2, 0, 0⟩

/-- A write of one block whose packet stays in flight. -/
def packetInFlight : List TxAction :=
  SmallTx.setup ++ SmallTx.activate ++ .writeStream oneBlock :: List.replicate 9 (.writer 0 .run) ++
    [.writer 0 .accept, .writer 0 (.sdk 0)] ++ List.replicate 4 (.writer 0 .run)

/-- The SDK's queue is full at the first submission, and the packet in flight completes then. -/
def retriedBlock : List TxAction :=
  List.replicate 9 (.writer 1 .run) ++ [.writer 1 (.sdk 1), .complete 0] ++
    List.replicate 8 (.writer 1 .run) ++ [.writer 1 .accept, .writer 1 (.sdk 0)] ++
    List.replicate 4 (.writer 1 .run)

theorem write_submissions_bounded_retried :
    ∃ s₀ s₁ s, Transition.run next (create SmallTx.config) packetInFlight = some s₀ ∧
      s₀.next (.writeStream oneBlock) = some s₁ ∧ Transition.run next s₁ retriedBlock = some s ∧
      s₀.device.outstanding = 1 ∧ submissions 1 s.device.trace = 2 ∧
      submissions 1 s.device.trace ≤ 2 * 1 + 1 + 1 ∧
      Transition.total next (ofCall 1 Writer.retries) s₁ retriedBlock ≤
        Transition.total next (completes 1) s₁ retriedBlock := by
  have hserial : Transition.Along next (fun u a => u.serialized a = true) (create SmallTx.config)
    (packetInFlight ++ .writeStream oneBlock :: retriedBlock) := by decide +kernel
  obtain ⟨s₀, hbefore, hchecks⟩ := Option.map_eq_some_iff.mp (show (Transition.run next
    (create SmallTx.config) packetInFlight).map (fun s => decide (s.writers.length = 1) &&
      decide (s.device.outstanding = 1)) = some true by decide +kernel)
  simp only [Bool.and_eq_true, decide_eq_true_eq] at hchecks
  obtain ⟨hid, houtstanding⟩ := hchecks
  obtain ⟨s, hrun, htwo⟩ := Option.map_eq_some_iff.mp (show (Transition.run next
    (create SmallTx.config) (packetInFlight ++ .writeStream oneBlock :: retriedBlock)).map
      (fun s => decide (submissions 1 s.device.trace = 2)) = some true by decide +kernel)
  obtain ⟨s₀', hbefore', hrest⟩ := Transition.run_append.mp hrun
  obtain rfl : s₀' = s₀ := Option.some.inj (hbefore'.symm.trans hbefore)
  obtain ⟨s₁, hbegin, hafter⟩ := Transition.run_cons.mp hrest
  have hbounded := write_submissions_bounded hserial hbefore hbegin hafter
  simp only [hid, houtstanding] at hbounded
  obtain ⟨hbound, -, -, -, hretries, -⟩ := hbounded
  exact ⟨s₀', s₁, s, hbefore, hbegin, hafter, houtstanding, of_decide_eq_true htwo, hbound, hretries⟩

end TxSystem

end SoapySidekiq
