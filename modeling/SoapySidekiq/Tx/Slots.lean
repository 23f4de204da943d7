import Mathlib.Data.List.Perm.Basic
import SoapySidekiq.Tx.Drain

/-! # Ownership of the TX blocks

A slot of a completion state is set while a write has reserved it or the SDK has accepted its block,
and one of the two owns it at a time. The callers serialize their writes, so the ring index does not
move under a reservation. -/
set_option autoImplicit false

namespace SoapySidekiq

/-! ## Slots -/

namespace TxDevice

/-- The slot that a context names. -/
def slotOf (d : TxDevice) (c : TxSendContext) : Bool := d.slot c.completion c.txIndex

/-- `d'` is `d` with `value` in the slot of `c`, where that exists. -/
def Assigned (d : TxDevice) (c : TxSendContext) (value : Bool) (d' : TxDevice) : Prop :=
  ∀ k, (d'.completions[k]?).map TxCompletionState.slots = (d.completions[k]?).map fun state =>
    if k = c.completion then state.slots.set c.txIndex value else state.slots

theorem slotOf_eq (d : TxDevice) (c : TxSendContext) :
    d.slotOf c = (((d.completions[c.completion]?).map TxCompletionState.slots).bind
      fun slots => slots[c.txIndex]?).getD false := by
  unfold slotOf slot
  cases d.completions[c.completion]? <;> rfl

theorem Assigned.other {d d' : TxDevice} {c e : TxSendContext} {value : Bool}
    (h : d.Assigned c value d') (hne : e ≠ c) : d'.slotOf e = d.slotOf e := by
  rw [slotOf_eq, slotOf_eq, h]
  cases hd : d.completions[e.completion]? with
  | none => rfl
  | some state =>
    by_cases hk : e.completion = c.completion
    · have hi : c.txIndex ≠ e.txIndex := fun hi => hne (by cases c; cases e; simp_all)
      simp [hk, List.getElem?_set_ne hi]
    · simp [hk]

theorem Assigned.self {d d' : TxDevice} {c : TxSendContext} {value : Bool}
    (h : d.Assigned c value d') (hvalid : value = true → ∃ state,
      d.completions[c.completion]? = some state ∧ c.txIndex < state.slots.length) :
    d'.slotOf c = value := by
  rw [slotOf_eq, h]
  cases value with
  | true =>
    obtain ⟨state, hstate, hlt⟩ := hvalid rfl
    simp [hstate, hlt]
  | false =>
    cases hd : d.completions[c.completion]? with
    | none => rfl
    | some state =>
      simp only [Option.map_some, Option.bind_some, if_true, List.getElem?_set_self']
      cases state.slots[c.txIndex]? <;> rfl

theorem setSlot_assigned (d : TxDevice) (c : TxSendContext) (value : Bool) :
    d.Assigned c value (d.setSlot c.completion c.txIndex value) := by
  intro k
  simp only [setSlot_completions, List.getElem?_modify, Option.map_eq_map, Option.map_map]
  congr 1
  funext state
  by_cases hk : k = c.completion
  · simp [hk]
  · simp [hk, Ne.symm hk]

theorem callBack_assigned (d : TxDevice) (index : ℕ) (c : TxSendContext) :
    d.Assigned c false (d.callBack index c) := by
  intro k
  unfold callBack completeTx
  dsimp only
  split
  · next hnone =>
    by_cases hk : k = c.completion
    · subst hk; simp [hnone]
    · simp [hk]
  · next state hstate =>
    by_cases hk : k = c.completion
    · subst hk
      split
      · obtain ⟨hlt, rfl⟩ := List.getElem?_eq_some_iff.mp hstate
        simp [hlt]
      · next hlt => simp [hstate, List.set_eq_of_length_le (Nat.le_of_not_lt hlt)]
    · split <;> simp [Ne.symm hk]

theorem callBack_elsewhere (d : TxDevice) (index : ℕ) (c : TxSendContext) {k : ℕ}
    (hk : k ≠ c.completion) : (d.callBack index c).completions[k]? = d.completions[k]? := by
  unfold callBack completeTx
  dsimp only
  split
  · rfl
  · split
    · exact List.getElem?_set_ne (Ne.symm hk)
    · rfl

theorem initializeTxBuffers_slotOf (d : TxDevice) (c : TxSendContext) :
    d.initializeTxBuffers.slotOf c = d.slotOf c := by
  unfold slotOf slot initializeTxBuffers
  dsimp only
  rcases Nat.lt_trichotomy c.completion d.completions.length with hlt | heq | hgt
  · rw [List.getElem?_append_left hlt]
  · rw [heq, List.getElem?_concat_length, List.getElem?_eq_none (Nat.le_refl _)]
    by_cases hi : c.txIndex < d.config.txBufferCount <;> simp [hi]
  · rw [List.getElem?_eq_none (by simp; omega), List.getElem?_eq_none (Nat.le_of_lt hgt)]

end TxDevice

/-! ## Serialized writes -/

def Writer.isReturned (w : Writer) : Bool :=
  match w.pc with
  | .returned _ => true
  | _ => false

@[simp] theorem Writer.wakeCv_isReturned (w : Writer) : w.wakeCv.isReturned = w.isReturned :=
  wakeCv_keeps isReturned w fun _ hpc => by simp [isReturned, goto, hpc]

@[simp] theorem Writer.wakeChanged_isReturned (w : Writer) :
    w.wakeChanged.isReturned = w.isReturned :=
  wakeChanged_keeps isReturned w fun _ hpc => by simp [isReturned, goto, hpc]

/-- A call that has returned does not move. -/
theorem WriterMove.unreturned {d d' : TxDevice} {id : ℕ} {w w' : Writer}
    (h : WriterMove d id w d' w') : w.isReturned = false := by
  cases h <;> simp_all [Writer.isReturned]

namespace TxSystem

/-- The callers serialize their writes: a write begins when every earlier one has returned. -/
def serialized (s : TxSystem) : TxAction → Bool
  | .writeStream _ => s.writers.all Writer.isReturned
  | _ => true

/-- At most one write is in progress. -/
def Serial (s : TxSystem) : Prop :=
  ∀ (i j : ℕ) (w v : Writer), s.writers[i]? = some w → s.writers[j]? = some v →
    w.isReturned = false → v.isReturned = false → i = j

/-- Everybody but one has returned. -/
theorem serial_of_unique {s : TxSystem} {writers : List Writer} {f : Writer → Writer} (id : ℕ)
    (ht : s.writers = writers.map f) (hf : ∀ w, (f w).isReturned = w.isReturned)
    (hid : ∀ j v, writers[j]? = some v → v.isReturned = false → j = id) : s.Serial := by
  intro i j w v hw hv hi hj
  rw [ht, List.getElem?_map] at hw hv
  obtain ⟨w₀, hw₀, rfl⟩ := Option.map_eq_some_iff.mp hw
  obtain ⟨v₀, hv₀, rfl⟩ := Option.map_eq_some_iff.mp hv
  exact (hid i w₀ hw₀ (hf w₀ ▸ hi)).trans (hid j v₀ hv₀ (hf v₀ ▸ hj)).symm

theorem serial_step {s t : TxSystem} {a : TxAction} (h : s.Serial) (ha : s.serialized a = true)
    (hstep : TxStep s a t) : t.Serial := by
  obtain ⟨writers, wake, hmove, ht, hwake⟩ := hstep.writers
  have hf : ∀ w, (wake w).isReturned = w.isReturned := by
    rcases hwake with rfl | rfl | rfl <;> simp
  cases hmove with
  | none =>
    intro i j w v hw hv hi hj
    rw [ht, List.getElem?_map] at hw hv
    obtain ⟨w₀, hw₀, rfl⟩ := Option.map_eq_some_iff.mp hw
    obtain ⟨v₀, hv₀, rfl⟩ := Option.map_eq_some_iff.mp hv
    exact h i j w₀ v₀ hw₀ hv₀ (hf w₀ ▸ hi) (hf v₀ ▸ hj)
  | begun request hbegun =>
    subst hbegun
    simp only [serialized, List.all_eq_true] at ha
    refine serial_of_unique s.writers.length ht hf fun j v hv hj => ?_
    rcases Nat.lt_or_ge j s.writers.length with hlt | hge
    · rw [List.getElem?_append_left hlt] at hv
      simp [ha v (List.mem_of_getElem? hv)] at hj
    · have hlt := (List.getElem?_eq_some_iff.mp hv).1
      simp only [List.length_append, List.length_singleton] at hlt
      omega
  | moved id input w w' ha hw hmove =>
    refine serial_of_unique id ht hf fun j v hv hj => ?_
    by_cases hid : id = j
    · exact hid.symm
    · rw [List.getElem?_set_ne hid] at hv
      exact h j id v w hv hw hj hmove.unreturned

end TxSystem

/-! ## Owners -/

/-- The call holds the slot that the context names. -/
def Writer.holding (c : TxSendContext) (w : Writer) : Bool := w.holdsSlot && w.slot == c

/-- The SDK has refused the block, and the call has not released its reservation yet. -/
def Writer.refused (w : Writer) : Bool :=
  match w.pc with
  | .releasing (.ok _) => true
  | _ => false

/-- A reservation is of the ring's current slot, and the context names it once it is filled in. -/
def Writer.Placed (d : TxDevice) (w : Writer) : Prop :=
  w.holdsSlot = true → w.slot = ⟨d.txCompletion, d.txBlockIndex⟩ ∧
    (w.pc ≠ .reserved → w.context = w.slot)

theorem Writer.wakeCv_of_holdsSlot {w : Writer} (h : w.holdsSlot = true) : w.wakeCv = w := by
  rcases w.wakeCv_cases with heq | ⟨hpc, -⟩
  · exact heq
  · simp [holdsSlot, hpc] at h

theorem Writer.wakeChanged_of_holdsSlot {w : Writer} (h : w.holdsSlot = true) : w.wakeChanged = w := by
  rcases w.wakeChanged_cases with heq | ⟨site, -, hpc, -⟩
  · exact heq
  · simp [holdsSlot, hpc] at h

@[simp] theorem Writer.wakeCv_holding (c : TxSendContext) (w : Writer) :
    w.wakeCv.holding c = w.holding c :=
  wakeCv_keeps (holding c) w fun _ hpc => by simp [holding, holdsSlot, goto, hpc]

@[simp] theorem Writer.wakeChanged_holding (c : TxSendContext) (w : Writer) :
    w.wakeChanged.holding c = w.holding c :=
  wakeChanged_keeps (holding c) w fun _ hpc => by simp [holding, holdsSlot, goto, hpc]

theorem WriterMove.placed {d d' : TxDevice} {id : ℕ} {w w' : Writer} (h : WriterMove d id w d' w')
    (hw : w.Placed d) : w'.Placed d' := by
  unfold Writer.Placed at hw ⊢
  cases h with
  | submitted _ hpc hfill => subst hfill; simp_all [Writer.holdsSlot]
  | _ => simp_all [Writer.holdsSlot]

theorem setSlot_balance {d : TxDevice} (r c : TxSendContext) (value : Bool)
    (hbefore : d.slotOf r = !value) (hvalid : value = true → ∃ state,
      d.completions[r.completion]? = some state ∧ r.txIndex < state.slots.length) :
    ((d.setSlot r.completion r.txIndex value).slotOf c).toNat + (!value && r == c).toNat =
      (d.slotOf c).toNat + (value && r == c).toNat := by
  have hset := d.setSlot_assigned r value
  by_cases hc : c = r
  · subst hc
    rw [hset.self hvalid, hbefore]
    cases value <;> simp
  · rw [hset.other hc]
    have hne : (r == c) = false := beq_eq_false_iff_ne.mpr (Ne.symm hc)
    simp [hne]

/-- A move of a call hands slots over without losing one. -/
theorem WriterMove.balance {d d' : TxDevice} {id : ℕ} {w w' : Writer} (h : WriterMove d id w d' w')
    (hw : w.Placed d) (hpool : w.admitted = true → d.PoolReady)
    (hheld : w.holdsSlot = true → d.slotOf w.slot = true) (c : TxSendContext) :
    (d'.slotOf c).toNat + (w.holding c).toNat + d.inFlight.count c =
      (d.slotOf c).toNat + (w'.holding c).toNat + d'.inFlight.count c := by
  have hrelease : ∀ result, w.pc = .releasing result →
      ((d.setSlot d.txCompletion w.context.txIndex false).slotOf c).toNat + (w.holding c).toNat =
        (d.slotOf c).toNat := by
    intro result hpc
    have hholds : w.holdsSlot = true := by simp [Writer.holdsSlot, hpc]
    obtain ⟨hslot, hcontext⟩ := hw hholds
    have hname : (⟨d.txCompletion, w.context.txIndex⟩ : TxSendContext) = w.slot := by
      rw [hcontext (by simp [hpc]), hslot]
    have hbalance := setSlot_balance w.slot c false (hheld hholds) (by simp)
    rw [← hname] at hbalance
    simpa [Writer.holding, hholds, ← hname] using hbalance
  cases h with
  | reserved timedOut hpc hopen hslot =>
    have hvalid : ∃ state, d.completions[d.txCompletion]? = some state ∧
        d.txBlockIndex < state.slots.length := by
      obtain ⟨hslots, -, hindex⟩ := hpool (by simp [Writer.admitted, hpc])
      rw [List.getElem?_map] at hslots
      obtain ⟨state, hstate, hlength⟩ := Option.map_eq_some_iff.mp hslots
      exact ⟨state, hstate, hlength ▸ hindex⟩
    have hbalance := setSlot_balance ⟨d.txCompletion, d.txBlockIndex⟩ c true hslot
      fun _ => hvalid
    simpa [Writer.holding, Writer.holdsSlot, hpc] using hbalance
  | accepted hpc =>
    have hholds : w.holdsSlot = true := by simp [Writer.holdsSlot, hpc]
    have hcontext := (hw hholds).2 (by simp [hpc])
    have hafter : (w.goto .accepted).holding c = false := rfl
    have hslotOf : ({ d with inFlight := d.inFlight ++ [w.context] }.log
        (.accepted id (d.blockData w.context.txIndex))).slotOf c = d.slotOf c := rfl
    rw [hafter, hslotOf, hcontext]
    simp only [Writer.holding, hholds, Bool.true_and, TxDevice.log_inFlight, List.count_append,
      List.count_singleton]
    cases w.slot == c with
    | false => simp
    | true => simp; omega
  | queueFull result hpc | failed result hpc =>
    have hbalance := hrelease result hpc
    simp only [TxDevice.setSlot_inFlight, Nat.add_right_cancel_iff]
    simpa [Writer.holding, Writer.holdsSlot] using hbalance
  | submitted _ hpc hfill =>
    subst hfill
    simp [Writer.holding, Writer.holdsSlot, hpc, TxDevice.slotOf, TxDevice.slot]
  | _ => simp_all [Writer.holding, Writer.holdsSlot, TxDevice.slotOf, TxDevice.slot]

/-! ## The system -/

theorem stopped_slots (d : TxDevice) (caller : StopCaller) (status : ℤ) :
    (d.stopped caller status).device.completions = d.completions ∧
      (d.stopped caller status).device.inFlight = d.inFlight ∧
      (d.stopped caller status).device.txCompletion = d.txCompletion ∧
      (d.stopped caller status).device.txBlockIndex = d.txBlockIndex := by
  unfold TxDevice.stopped
  cases caller with
  | close => dsimp only; split <;> exact ⟨rfl, rfl, rfl, rfl⟩
  | deactivate | destroy => exact ⟨rfl, rfl, rfl, rfl⟩

/-- Only the allocation of new buffers touches the completion states. -/
theorem LifecycleMove.slots {free : Mutex → Bool} {d : TxDevice} {pc : TxLifecyclePc}
    {step : TxLifecycleStep} (h : LifecycleMove free d pc step) :
    (step.device.completions = d.completions ∧ step.device.inFlight = d.inFlight ∧
      step.device.txCompletion = d.txCompletion ∧ step.device.txBlockIndex = d.txBlockIndex) ∨
    ∃ handle, pc = .allocating handle ∧ step.device = d.initializeTxBuffers := by
  cases h with
  | unneeded | unstopped | stopped => exact .inl (stopped_slots _ _ _)
  | configured onPps txHandle call rest => cases rest <;> exact .inl ⟨rfl, rfl, rfl, rfl⟩
  | allocated handle => exact .inr ⟨handle, rfl, rfl⟩
  | _ => exact .inl ⟨rfl, rfl, rfl, rfl⟩

theorem BeginMove.slots {d : TxDevice} {step : TxLifecycleStep} (h : BeginMove d step) :
    step.device.completions = d.completions ∧ step.device.inFlight = d.inFlight ∧
      step.device.txCompletion = d.txCompletion ∧ step.device.txBlockIndex = d.txBlockIndex := by
  cases h with
  | activates => cases d.activationCalls _ <;> exact ⟨rfl, rfl, rfl, rfl⟩
  | _ => exact ⟨rfl, rfl, rfl, rfl⟩

namespace TxSystem

/-- Who owns the slot: the writes that have reserved it and the contexts in flight. -/
def owners (s : TxSystem) (c : TxSendContext) : ℕ :=
  s.writers.countP (Writer.holding c) + s.device.inFlight.count c

structure Slots (s : TxSystem) : Prop where
  owned : ∀ c, (s.device.slotOf c).toNat = s.owners c
  placed : ∀ w ∈ s.writers, w.Placed s.device

theorem Slots.notify {s : TxSystem} (h : s.Slots) (wake : Wake) : (s.notify wake).Slots := by
  cases wake with
  | nobody => exact h
  | cv =>
    refine ⟨fun c => ?_, ?_⟩
    · simp only [owners, TxSystem.notify, ThreadPool.countP_map (Writer.wakeCv_holding c)]
      exact h.owned c
    · refine ThreadPool.forall_map h.placed fun w hw hholds => ?_
      have hsame : w.wakeCv = w := Writer.wakeCv_of_holdsSlot (by simpa using hholds)
      rw [hsame] at hholds ⊢
      exact hw hholds
  | changed =>
    refine ⟨fun c => ?_, ?_⟩
    · simp only [owners, TxSystem.notify, ThreadPool.countP_map (Writer.wakeChanged_holding c)]
      exact h.owned c
    · refine ThreadPool.forall_map h.placed fun w hw hholds => ?_
      have hsame : w.wakeChanged = w := Writer.wakeChanged_of_holdsSlot (by simpa using hholds)
      rw [hsame] at hholds ⊢
      exact hw hholds

/-- A change of the device that the slots do not see. -/
theorem Slots.device {s t : TxSystem} (h : s.Slots) (hwriters : t.writers = s.writers)
    (hslots : t.device.completions = s.device.completions ∧ t.device.inFlight = s.device.inFlight ∧
      t.device.txCompletion = s.device.txCompletion ∧
      t.device.txBlockIndex = s.device.txBlockIndex) : t.Slots := by
  obtain ⟨hcompletions, hflight, hcompletion, hindex⟩ := hslots
  refine ⟨fun c => ?_, fun w hw => ?_⟩
  · have howned := h.owned c
    unfold owners TxDevice.slotOf TxDevice.slot at howned ⊢
    rwa [hwriters, hflight, hcompletions]
  · rw [hwriters] at hw
    have hplaced := h.placed w hw
    unfold Writer.Placed at hplaced ⊢
    rwa [hcompletion, hindex]

theorem Slots.held {s : TxSystem} (h : s.Slots) {w : Writer} (hw : w ∈ s.writers)
    (hholds : w.holdsSlot = true) : s.device.slotOf w.slot = true := by
  have hpos : 0 < s.writers.countP (Writer.holding w.slot) :=
    List.countP_pos_iff.mpr ⟨w, hw, by simp [Writer.holding, hholds]⟩
  have howned := h.owned w.slot
  unfold owners at howned
  cases hslot : s.device.slotOf w.slot with
  | true => rfl
  | false => rw [hslot, Bool.toNat_false] at howned; omega

theorem Slots.writer {s : TxSystem} {id : ℕ} {w w' : Writer} {d' : TxDevice} (h : s.Slots)
    (hs : s.Admission) (hserial : s.Serial) (hw : s.writers[id]? = some w)
    (hmove : WriterMove s.device id w d' w') : (s.setWriter id d' w').Slots := by
  have hmem := List.mem_of_getElem? hw
  have hplaced := h.placed w hmem
  have hpool : w.admitted = true → s.device.PoolReady := fun hadmitted =>
    hs.standing.pool (hs.standing.live (.inr (.inl (hs.writer_pos hw hadmitted)))).2
  refine ⟨fun c => ?_, fun u hu => ?_⟩
  · have hbalance := hmove.balance hplaced hpool (h.held hmem) c
    have hset := ThreadPool.countP_set (p := Writer.holding c) (b := w') hw
    have howned := h.owned c
    simp only [owners, setWriter_device, setWriter_writers] at howned ⊢
    omega
  · obtain ⟨j, hj⟩ := List.getElem?_of_mem hu
    by_cases hid : id = j
    · subst hid
      have hlt := (List.getElem?_eq_some_iff.mp hw).1
      obtain rfl : w' = u := by simpa [hlt] using hj
      exact hmove.placed hplaced
    · rw [setWriter_writers, List.getElem?_set_ne hid] at hj
      intro hholds
      have hunreturned : u.isReturned = false := by
        unfold Writer.holdsSlot at hholds
        unfold Writer.isReturned
        split at hholds <;> simp_all
      exact absurd (hserial id j w u hw hj hmove.unreturned hunreturned) hid

theorem owned_allocated (s : TxSystem) (step : TxLifecycleStep)
    (hdevice : step.device = s.device.initializeTxBuffers) (c : TxSendContext) :
    (s.setLifecycle step).owners c = s.owners c := by
  simp only [owners, setLifecycle_device, setLifecycle_writers, hdevice]
  rfl

theorem Slots.complete {s : TxSystem} {index : ℕ} {context : TxSendContext} (h : s.Slots)
    (hcontext : s.device.inFlight[index]? = some context) :
    (s.setDevice (s.device.callBack index context)).Slots := by
  have hcount : ∀ c, (s.device.inFlight.eraseIdx index).count c + (context == c).toNat =
      s.device.inFlight.count c := by
    intro c
    obtain ⟨hlt, rfl⟩ := List.getElem?_eq_some_iff.mp hcontext
    rw [← (List.getElem_cons_eraseIdx_perm hlt).count_eq c, List.count_cons]
    cases s.device.inFlight[index] == c <;> rfl
  have hset := s.device.callBack_assigned index context
  obtain ⟨completions, toNotify, heq⟩ := callBack_changes s.device index context
  have hflight : (s.device.callBack index context).inFlight = s.device.inFlight.eraseIdx index := by
    rw [heq]
  refine ⟨fun c => ?_, fun w hw => ?_⟩
  · have howned := h.owned c
    have herased := hcount c
    simp only [owners, setDevice_device, setDevice_writers, hflight] at howned ⊢
    by_cases hc : c = context
    · subst hc
      have hle := Bool.toNat_le (s.device.slotOf c)
      rw [hset.self (by simp)]
      simp only [beq_self_eq_true, Bool.toNat_true, Bool.toNat_false] at herased ⊢
      omega
    · have hne : (context == c) = false := beq_eq_false_iff_ne.mpr (Ne.symm hc)
      rw [hset.other hc]
      simp only [hne, Bool.toNat_false] at herased
      omega
  · have hplaced := h.placed w hw
    rw [setDevice_device, heq]
    exact hplaced

theorem slots_step {s t : TxSystem} {a : TxAction} (h : s.Slots) (hs : s.Admission)
    (hserial : s.Serial) (hstep : TxStep s a t) : t.Slots := by
  cases hstep with
  | writeStream request =>
    refine ⟨fun c => ?_, ThreadPool.forall_append h.placed fun hholds => ?_⟩
    · have howned := h.owned c
      simpa [owners, Writer.holding, Writer.holdsSlot, Writer.create] using howned
    · simp [Writer.holdsSlot, Writer.create] at hholds
  | readStreamStatus => exact h.device rfl ⟨rfl, rfl, rfl, rfl⟩
  | writer id input w w' d' hw hmove => exact (h.writer hs hserial hw hmove).notify _
  | poller id input p p' d' hp hmove =>
    have hset : (s.setPoller id d' p').Slots := by
      obtain ⟨_, _, _, rfl⟩ := hmove.changes
      exact h.device rfl ⟨rfl, rfl, rfl, rfl⟩
    exact hset.notify _
  | pps result d' wake hmove =>
    have hset : (s.setDevice d').Slots := h.device rfl (by cases hmove <;> exact ⟨rfl, rfl, rfl, rfl⟩)
    exact hset.notify _
  | complete index context hcontext => exact h.complete hcontext
  | notifyCompletion index wake =>
    have hset : (s.setDevice { s.device with
        toNotify := s.device.toNotify.eraseIdx index }).Slots := h.device rfl ⟨rfl, rfl, rfl, rfl⟩
    exact hset.notify _
  | call call step hidle hbegin hmove => exact h.device rfl hmove.slots
  | lifecycle input step hmove =>
    refine Slots.notify ?_ _
    rcases hmove.slots with hslots | ⟨handle, hpc, hdevice⟩
    · exact h.device rfl hslots
    · have hclosed := hs.standing.closed (by rw [hpc]; rfl)
      have hquiet := hs.quiet hclosed (by rw [hpc]; rfl)
      refine ⟨fun c => ?_, fun w hw hholds => ?_⟩
      · have howned := h.owned c
        rwa [owned_allocated s step hdevice, setLifecycle_device, hdevice,
          TxDevice.initializeTxBuffers_slotOf]
      · have hadmitted := Writer.pastGate_admitted (Writer.holdsSlot_pastGate hholds)
        simp [hquiet.1 w hw] at hadmitted

theorem slots_run {config : TxConfiguration} {actions : List TxAction} {s : TxSystem}
    (hserial : Transition.Along next (fun u a => u.serialized a = true) (create config) actions)
    (hrun : Transition.run next (create config) actions = some s) :
    s.Admission ∧ s.Serial ∧ s.Slots := by
  refine Transition.along_invariant (I := fun u => u.Admission ∧ u.Serial ∧ u.Slots)
    (fun u a t h ha hnext => ?_) ⟨admission_create config, ?_, ?_⟩ hserial hrun
  · have hstep := step_of_next hnext
    exact ⟨admission_step h.1 hstep, serial_step h.2.1 ha hstep, slots_step h.2.2 h.1 h.2.1 hstep⟩
  · intro i j w v hw
    simp [create] at hw
  · refine ⟨fun c => ?_, by simp [create]⟩
    have hfalse : (TxDevice.create config).slotOf c = false := by
      rw [TxDevice.slotOf_eq]
      rcases c with ⟨k, i⟩
      cases k with
      | zero => by_cases hi : i < config.txBufferCount <;> simp [TxDevice.create, hi]
      | succ k => simp [TxDevice.create]
    exact congrArg Bool.toNat hfalse

/-! ## The theorem -/

theorem Slots.owned_iff {s : TxSystem} (h : s.Slots) (c : TxSendContext) :
    s.device.slotOf c = true ↔
      (∃ w ∈ s.writers, w.holdsSlot = true ∧ w.slot = c) ∨ c ∈ s.device.inFlight := by
  have howned := h.owned c
  have hpos : s.device.slotOf c = true ↔ 0 < s.owners c := by
    rw [← howned]
    cases s.device.slotOf c <;> simp
  rw [hpos, owners, Nat.add_pos_iff_pos_or_pos, List.countP_pos_iff, List.count_pos_iff]
  simp [Writer.holding]

/-- Each slot is set exactly while a write has it reserved or a context in flight names it, by one
owner at a time; and a completion takes its context out of flight and clears the slot that it names,
in its own completion state, and nothing else. -/
theorem tx_block_ownership {config : TxConfiguration} {actions : List TxAction} {s : TxSystem}
    (hserial : Transition.Along next (fun u a => u.serialized a = true) (create config) actions)
    (hrun : Transition.run next (create config) actions = some s) :
    (∀ c, s.device.slotOf c = true ↔
      (∃ w ∈ s.writers, w.holdsSlot = true ∧ w.slot = c) ∨ c ∈ s.device.inFlight) ∧
    (∀ c, s.writers.countP (Writer.holding c) + s.device.inFlight.count c ≤ 1) ∧
    ∀ index context t, s.device.inFlight[index]? = some context →
      s.next (.complete index) = some t →
      t.device.inFlight = s.device.inFlight.eraseIdx index ∧
      (∀ c, t.device.slotOf c = if c = context then false else s.device.slotOf c) ∧
      ∀ k, k ≠ context.completion → t.device.completions[k]? = s.device.completions[k]? := by
  obtain ⟨-, -, hslots⟩ := slots_run hserial hrun
  refine ⟨hslots.owned_iff, fun c => ?_, ?_⟩
  · have howned := hslots.owned c
    have hle := Bool.toNat_le (s.device.slotOf c)
    unfold owners at howned
    omega
  · intro index context t hcontext hnext
    cases step_of_next hnext with
    | complete _ context' hcontext' =>
      obtain rfl : context' = context := by simpa [hcontext] using hcontext'.symm
      have hset := s.device.callBack_assigned index context'
      refine ⟨?_, fun c => ?_, fun k hk => ?_⟩
      · obtain ⟨_, _, heq⟩ := callBack_changes s.device index context'
        rw [setDevice_device, heq]
      · split
        · next hc => subst hc; exact hset.self (by simp)
        · next hc => exact hset.other hc
      · exact s.device.callBack_elsewhere index context' hk

/-- A block that is accepted, and not yet called back for when its stream has been closed and another
one set up and activated. -/
def reopenedRun : List TxAction :=
  SmallTx.setup ++ SmallTx.activate ++
    .writeStream ⟨100, some fun i => UInt8.ofNat i, 2, 0, 0⟩ :: List.replicate 9 (.writer 0 .run) ++
    [.writer 0 .accept, .writer 0 (.sdk 0)] ++ List.replicate 4 (.writer 0 .run) ++
    SmallTx.drain ++ [.lifecycle .run, .lifecycle (.sdk 0), .call (.closeStream 100)] ++
    List.replicate 5 (.lifecycle .run) ++ SmallTx.setup ++ SmallTx.activate

theorem tx_block_ownership_reopened :
    ∃ s t, Transition.run next (create SmallTx.config) reopenedRun = some s ∧
      s.device.txCompletion = 2 ∧ s.device.slotOf ⟨1, 0⟩ = true ∧
      s.next (.complete 0) = some t ∧ t.device.slotOf ⟨1, 0⟩ = false ∧
      t.device.completions[2]? = s.device.completions[2]? := by
  have hserial : Transition.Along next (fun u a => u.serialized a = true) (create SmallTx.config)
    reopenedRun := by decide +kernel
  obtain ⟨s, hrun, hchecks⟩ := Option.map_eq_some_iff.mp (show (Transition.run next
    (create SmallTx.config) reopenedRun).map (fun s => decide (s.device.txCompletion = 2) &&
      (decide (s.device.inFlight = [⟨1, 0⟩]) && (s.next (.complete 0)).isSome)) = some true
    by decide +kernel)
  simp only [Bool.and_eq_true, decide_eq_true_eq, Option.isSome_iff_exists] at hchecks
  obtain ⟨hcurrent, hflight, t, hnext⟩ := hchecks
  obtain ⟨howned, -, hcomplete⟩ := tx_block_ownership hserial hrun
  obtain ⟨-, hslots, hstates⟩ := hcomplete 0 ⟨1, 0⟩ t (by rw [hflight]; rfl) hnext
  exact ⟨s, t, hrun, hcurrent, (howned ⟨1, 0⟩).mpr (.inr (by simp [hflight])), hnext,
    by rw [hslots]; rfl, hstates 2 (by decide)⟩

/-- A write whose block the SDK refuses, up to the return of the SDK's call. -/
def refusedRun : List TxAction :=
  SmallTx.setup ++ SmallTx.activate ++
    .writeStream ⟨100, some fun i => UInt8.ofNat i, 2, 0, 0⟩ :: List.replicate 9 (.writer 0 .run) ++
    [.writer 0 (.sdk (-5))]

/-- The slot of a refused block is still set until the reservation is released. -/
theorem refused_block_reserved :
    ¬ ∀ actions s, Transition.Along next (fun u a => u.serialized a = true) (create SmallTx.config)
        actions → Transition.run next (create SmallTx.config) actions = some s →
      ∀ c, s.device.slotOf c = true ↔
        (∃ w ∈ s.writers, w.holdsSlot = true ∧ w.refused = false ∧ w.slot = c) ∨
          c ∈ s.device.inFlight := by
  intro hclaim
  obtain ⟨s, hrun, hchecks⟩ := Option.map_eq_some_iff.mp (show (Transition.run next
    (create SmallTx.config) refusedRun).map (fun s => s.device.slotOf ⟨1, 0⟩ &&
      (s.writers.all Writer.refused && decide (s.device.inFlight = []))) = some true
    by decide +kernel)
  simp only [Bool.and_eq_true, decide_eq_true_eq, List.all_eq_true] at hchecks
  obtain ⟨hslot, hrefused, hflight⟩ := hchecks
  rcases (hclaim refusedRun s (by decide +kernel) hrun ⟨1, 0⟩).mp hslot with ⟨w, hw, -, hnot, -⟩ | hmem
  · simp [hrefused w hw] at hnot
  · simp [hflight] at hmem

end TxSystem

end SoapySidekiq
