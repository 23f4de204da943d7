import SoapySidekiq.Tx.Slots

/-! # One write call in a step of the system

What a step does to a given write call, and to what this call reads of the device. While the callers
serialize their writes, nobody else's block gets between the blocks of a call in progress. -/
set_option autoImplicit false

namespace SoapySidekiq

/-! ## What the lifecycle leaves alone -/

theorem configure_pool (d : TxDevice) (onPps : Bool) (txHandle : UInt32) (rest : List SdkCall) :
    (d.configure onPps txHandle rest).device.config = d.config ∧
      (d.configure onPps txHandle rest).device.txBlocks = d.txBlocks ∧
      (d.configure onPps txHandle rest).device.txUseShort = d.txUseShort := by
  cases rest <;> exact ⟨rfl, rfl, rfl⟩

theorem stopped_config (d : TxDevice) (caller : StopCaller) (status : ℤ) :
    (d.stopped caller status).device.config = d.config := by
  unfold TxDevice.stopped
  cases caller with
  | close => dsimp only; split <;> rfl
  | deactivate | destroy => rfl

theorem BeginMove.config {d : TxDevice} {step : TxLifecycleStep} (h : BeginMove d step) :
    step.device.config = d.config := by
  cases h with
  | activates => exact (configure_pool d _ _ _).1
  | _ => rfl

theorem LifecycleMove.config {free : Mutex → Bool} {d : TxDevice} {pc : TxLifecyclePc}
    {step : TxLifecycleStep} (h : LifecycleMove free d pc step) : step.device.config = d.config := by
  cases h with
  | configured => exact (configure_pool _ _ _ _).1
  | unneeded | unstopped | stopped => exact stopped_config _ _ _
  | _ => rfl

theorem BeginMove.pool {d : TxDevice} {step : TxLifecycleStep} (h : BeginMove d step) :
    step.device.txBlocks = d.txBlocks ∧
      (step.device.txUseShort = d.txUseShort ∨ d.activeTxStream = none) := by
  cases h with
  | activates =>
    obtain ⟨-, hblocks, hformat⟩ := configure_pool d _ _ _
    exact ⟨hblocks, .inl hformat⟩
  | setup handle short htoken => exact ⟨rfl, .inr htoken⟩
  | _ => exact ⟨rfl, .inl rfl⟩

/-- The block pool changes only after the drain of `stopTxWrites`, or while there is no stream. -/
theorem LifecycleMove.pool {free : Mutex → Bool} {d : TxDevice} {pc : TxLifecyclePc}
    {step : TxLifecycleStep} (h : LifecycleMove free d pc step) :
    step.device.txUseShort = d.txUseShort ∧
      (step.device.txBlocks = d.txBlocks ∨ pc.isClosed = true ∧ pc.isDraining = false) := by
  have hstopped : ∀ (d : TxDevice) caller status,
      (d.stopped caller status).device.txUseShort = d.txUseShort := by
    intro d caller status
    unfold TxDevice.stopped
    cases caller with
    | close => dsimp only; split <;> rfl
    | deactivate | destroy => rfl
  cases h with
  | configured =>
    obtain ⟨-, hblocks, hformat⟩ := configure_pool (d.log _) _ _ _
    exact ⟨hformat, .inl hblocks⟩
  | unneeded | unstopped | stopped => exact ⟨hstopped _ _ _, .inr ⟨rfl, rfl⟩⟩
  | allocated => exact ⟨rfl, .inr ⟨rfl, rfl⟩⟩
  | _ => exact ⟨rfl, .inl rfl⟩

theorem TxStep.config {s t : TxSystem} {a : TxAction} (h : TxStep s a t) :
    t.device.config = s.device.config := by
  cases h with
  | writeStream | readStreamStatus => rfl
  | writer _ _ _ _ _ _ hmove => rw [TxSystem.notify_device]; exact hmove.frame.config
  | poller _ _ _ _ _ _ hmove => rw [TxSystem.notify_device]; exact hmove.frame.config
  | pps _ _ _ hmove =>
    rw [TxSystem.notify_device]
    cases hmove <;> rfl
  | complete index context => exact (s.device.callBack_frame index context).config
  | notifyCompletion => rw [TxSystem.notify_device]; rfl
  | call _ _ _ _ hmove => exact hmove.config
  | lifecycle _ _ hmove => rw [TxSystem.notify_device]; exact hmove.config

/-! ## Steps beside the writes -/

/-- What a step of anybody but the writers does to the ring of slots. -/
inductive RingStep (s : TxSystem) (a : TxAction) (d' : TxDevice) : Prop where
  | kept (ha : ∀ index, a ≠ .complete index)
      (hcompletions : d'.completions = s.device.completions)
      (hflight : d'.inFlight = s.device.inFlight)
      (hcompletion : d'.txCompletion = s.device.txCompletion)
      (hindex : d'.txBlockIndex = s.device.txBlockIndex)
  | completed (index : ℕ) (context : TxSendContext) (ha : a = .complete index)
      (hcontext : s.device.inFlight[index]? = some context)
      (hdevice : d' = s.device.callBack index context)
  | allocated (ha : ∀ index, a ≠ .complete index) (hquiet : ∀ w ∈ s.writers, w.admitted = false)
      (hdevice : d' = s.device.initializeTxBuffers)

/-- What such a step does to all that a write call depends on. -/
structure Aside (s : TxSystem) (a : TxAction) (d' : TxDevice) : Prop where
  trace : ∃ events, d'.trace = s.device.trace ++ events ∧ ∀ e ∈ events, e.kind ≠ .transmit
  pool : (∃ w ∈ s.writers, w.admitted = true) →
    d'.txBlocks = s.device.txBlocks ∧ d'.txUseShort = s.device.txUseShort
  ring : RingStep s a d'

/-- A step that does not touch the ring. -/
theorem aside_kept {s : TxSystem} {a : TxAction} {d' : TxDevice} (ha : ∀ index, a ≠ .complete index)
    (htrace : ∃ events, d'.trace = s.device.trace ++ events ∧ ∀ e ∈ events, e.kind ≠ .transmit)
    (hpool : d'.txBlocks = s.device.txBlocks ∧ d'.txUseShort = s.device.txUseShort)
    (hslots : d'.completions = s.device.completions ∧ d'.inFlight = s.device.inFlight ∧
      d'.txCompletion = s.device.txCompletion ∧ d'.txBlockIndex = s.device.txBlockIndex) :
    Aside s a d' :=
  ⟨htrace, fun _ => hpool, .kept ha hslots.1 hslots.2.1 hslots.2.2.1 hslots.2.2.2⟩

theorem events_ne {trace trace' : List SdkEvent} {kind : SdkCall.Kind}
    (h : ∃ events, trace' = trace ++ events ∧ ∀ e ∈ events, e.kind = kind)
    (hkind : kind ≠ .transmit) :
    ∃ events, trace' = trace ++ events ∧ ∀ e ∈ events, e.kind ≠ .transmit := by
  obtain ⟨events, htrace, hevents⟩ := h
  exact ⟨events, htrace, fun e he => hevents e he ▸ hkind⟩

theorem aside_poller {s : TxSystem} {id : ℕ} {input : StatusInput} {p p' : Poller} {d' : TxDevice}
    (hmove : PollerMove s.device p d' p') : Aside s (.poller id input) d' := by
  obtain ⟨events, htrace, hevents⟩ := hmove.trace
  refine aside_kept (by simp) (events_ne ⟨events, htrace, fun e he => (hevents e he).1⟩ (by simp)) ?_ ?_
  all_goals
    obtain ⟨_, _, _, rfl⟩ := hmove.changes
    simp

theorem aside_pps {s : TxSystem} {result : Except Exception ℤ} {d' : TxDevice} {wake : Wake}
    (hmove : PpsMove s.device d' wake) : Aside s (.pps result) d' := by
  refine aside_kept (by simp) (events_ne hmove.trace (by simp)) ?_ ?_ <;>
    cases hmove <;> simp

theorem aside_complete {s : TxSystem} {index : ℕ} {context : TxSendContext}
    (hcontext : s.device.inFlight[index]? = some context) :
    Aside s (.complete index) (s.device.callBack index context) := by
  obtain ⟨completions, toNotify, heq⟩ := callBack_changes s.device index context
  exact ⟨⟨[], by simp [heq], by simp⟩, fun _ => by simp [heq], .completed index context rfl hcontext rfl⟩

theorem aside_call {s : TxSystem} {call : TxLifecycleCall} {step : TxLifecycleStep} (hs : s.Admission)
    (hmove : BeginMove s.device step) : Aside s (.call call) step.device := by
  obtain ⟨hblocks, hformat⟩ := hmove.pool
  obtain ⟨hcompletions, hflight, hcompletion, hindex⟩ := hmove.slots
  refine ⟨events_ne hmove.trace (by simp), ?_, .kept (by simp) hcompletions hflight hcompletion hindex⟩
  rintro ⟨w, hw, hadmitted⟩
  obtain ⟨id, hid⟩ := List.getElem?_of_mem hw
  have hlive := (hs.standing.live (.inr (.inl (hs.writer_pos hid hadmitted)))).2
  exact ⟨hblocks, hformat.resolve_right fun hnone => by simp [hnone] at hlive⟩

theorem aside_lifecycle {s : TxSystem} {input : TxLifecycleInput} {step : TxLifecycleStep}
    (hs : s.Admission) (hmove : LifecycleMove s.free s.device s.lifecycle step) :
    Aside s (.lifecycle input) step.device := by
  obtain ⟨hformat, hblocks⟩ := hmove.pool
  have hquiet : s.lifecycle.isClosed = true → s.lifecycle.isDraining = false →
      ∀ w ∈ s.writers, w.admitted = false := fun hclosed hdraining =>
    (hs.quiet (hs.standing.closed hclosed) hdraining).1
  refine ⟨?_, ?_, ?_⟩
  · obtain ⟨events, htrace, hevents⟩ := hmove.trace hs.standing.place
    exact ⟨events, htrace, fun e he => (hevents e he).1⟩
  · rintro ⟨w, hw, hadmitted⟩
    refine ⟨hblocks.resolve_right ?_, hformat⟩
    rintro ⟨hclosed, hdraining⟩
    simp [hquiet hclosed hdraining w hw] at hadmitted
  · rcases hmove.slots with ⟨hcompletions, hflight, hcompletion, hindex⟩ | ⟨handle, hpc, hdevice⟩
    · exact .kept (by simp) hcompletions hflight hcompletion hindex
    · exact .allocated (by simp) (hquiet (by rw [hpc]; rfl) (by rw [hpc]; rfl)) hdevice

theorem TxStep.aside {s t : TxSystem} {a : TxAction} (hs : s.Admission) (hstep : TxStep s a t)
    (ha : ∀ j input, a ≠ .writer j input) : Aside s a t.device := by
  cases hstep with
  | writeStream | readStreamStatus =>
    exact aside_kept (by simp) ⟨[], by simp, by simp⟩ ⟨rfl, rfl⟩ ⟨rfl, rfl, rfl, rfl⟩
  | writer j input => exact absurd rfl (ha j input)
  | poller id input p p' d' hp hmove =>
    rw [TxSystem.notify_device]
    exact aside_poller hmove
  | pps result d' wake hmove =>
    rw [TxSystem.notify_device]
    exact aside_pps hmove
  | complete index context hcontext => exact aside_complete hcontext
  | notifyCompletion index wake =>
    rw [TxSystem.notify_device]
    exact aside_kept (by simp) ⟨[], by simp, by simp⟩ ⟨rfl, rfl⟩ ⟨rfl, rfl, rfl, rfl⟩
  | call call step hidle hbegin hmove => exact aside_call hs hmove
  | lifecycle input step hmove =>
    rw [TxSystem.notify_device]
    exact aside_lifecycle hs hmove

/-! ## Whose events -/

/-- The write call that makes the transmission of an event. -/
def SdkEvent.writer : SdkEvent → Option ℕ
  | .issued (.transmit _ writer _) | .returned (.transmit _ writer _) _ | .accepted writer _ =>
    some writer
  | _ => none

theorem SdkEvent.writer_none {e : SdkEvent} (h : e.kind ≠ .transmit) : e.writer = none := by
  unfold writer
  split
  · exact absurd rfl h
  · exact absurd rfl h
  · exact absurd rfl h
  · rfl

theorem WriterMove.events {d d' : TxDevice} {id : ℕ} {w w' : Writer} (h : WriterMove d id w d' w') :
    ∃ events, d'.trace = d.trace ++ events ∧ ∀ e ∈ events, e.writer = some id := by
  cases h with
  | submitted _ hpc hfill =>
    subst hfill
    exact ⟨[_], rfl, by simp [SdkEvent.writer, TxDevice.transmitCall]⟩
  | rejected | accepted | transmitted =>
    exact ⟨[_], rfl, by simp [SdkEvent.writer, TxDevice.transmitCall]⟩
  | _ => exact ⟨[], by simp, by simp⟩

/-- A step appends events of a write call only when it is a step of that call. -/
theorem TxStep.events {s t : TxSystem} {a : TxAction} (hs : s.Admission) (hstep : TxStep s a t) :
    ∃ events, t.device.trace = s.device.trace ++ events ∧ ∀ e ∈ events, ∀ id, e.writer = some id →
      id < s.writers.length ∧ ∃ input, a = .writer id input := by
  by_cases ha : ∃ j input, a = .writer j input
  · obtain ⟨j, input, rfl⟩ := ha
    cases hstep with
    | writer _ _ w w' d' hw hmove =>
      obtain ⟨events, htrace, hevents⟩ := hmove.events
      refine ⟨events, by rw [TxSystem.notify_device]; exact htrace, fun e he id hid => ?_⟩
      obtain rfl : j = id := Option.some.inj ((hevents e he).symm.trans hid)
      exact ⟨(List.getElem?_eq_some_iff.mp hw).1, input, rfl⟩
  · obtain ⟨events, htrace, hevents⟩ := (hstep.aside hs fun j input hj => ha ⟨j, input, hj⟩).trace
    refine ⟨events, htrace, fun e he id hid => ?_⟩
    rw [SdkEvent.writer_none (hevents e he)] at hid
    cases hid

/-- A call after the step was there before it, or has been made by it. -/
theorem TxStep.call_before {s t : TxSystem} {a : TxAction} {id : ℕ} {w' : Writer} (h : TxStep s a t)
    (hw' : t.writers[id]? = some w') :
    (∃ w, s.writers[id]? = some w) ∨
      id = s.writers.length ∧ ∃ request, a = .writeStream request ∧ w' = .create request := by
  rcases Nat.lt_or_ge id s.writers.length with hlt | hge
  · exact .inl ⟨s.writers[id], List.getElem?_eq_getElem hlt⟩
  · obtain ⟨writers, wake, hwriters, ht, hwake⟩ := h.writers
    rw [ht, List.getElem?_map] at hw'
    obtain ⟨w, hw, rfl⟩ := Option.map_eq_some_iff.mp hw'
    have hlt := (List.getElem?_eq_some_iff.mp hw).1
    cases hwriters with
    | none => omega
    | begun request ha =>
      rw [List.length_append, List.length_singleton] at hlt
      obtain rfl : id = s.writers.length := by omega
      obtain rfl : .create request = w := by simpa using hw
      refine .inr ⟨rfl, request, ha, ?_⟩
      rcases hwake with rfl | rfl | rfl <;> rfl
    | moved => rw [List.length_set] at hlt; omega

namespace TxSystem

/-! ## Serialized runs -/

/-- What holds after every run in which the callers serialize their writes. -/
structure Writing (config : TxConfiguration) (s : TxSystem) : Prop where
  admission : s.Admission
  serial : s.Serial
  slots : s.Slots
  configured : s.device.config = config
  /-- Only calls that were made are in the trace. -/
  made : ∀ e ∈ s.device.trace, ∀ id, e.writer = some id → id < s.writers.length

theorem writing_step {config : TxConfiguration} {s t : TxSystem} {a : TxAction} (h : s.Writing config)
    (ha : s.serialized a = true) (hstep : TxStep s a t) : t.Writing config where
  admission := admission_step h.admission hstep
  serial := serial_step h.serial ha hstep
  slots := slots_step h.slots h.admission h.serial hstep
  configured := hstep.config.trans h.configured
  made e he id hid := by
    have hlength : s.writers.length ≤ t.writers.length := by
      obtain ⟨writers, wake, hwriters, ht, -⟩ := hstep.writers
      rw [ht, List.length_map]
      cases hwriters <;> simp
    obtain ⟨events, htrace, hevents⟩ := hstep.events h.admission
    rw [htrace] at he
    rcases List.mem_append.mp he with he | he
    · exact Nat.lt_of_lt_of_le (h.made e he id hid) hlength
    · exact Nat.lt_of_lt_of_le (hevents e he id hid).1 hlength

theorem writing_create (config : TxConfiguration) : (create config).Writing config := by
  obtain ⟨hadmission, hserial, hslots⟩ :=
    slots_run (show Transition.Along next _ (create config) [] from trivial) rfl
  exact ⟨hadmission, hserial, hslots, rfl, by simp [create, TxDevice.create]⟩

theorem writing_run {config : TxConfiguration} {s t : TxSystem} {actions : List TxAction}
    (hs : s.Writing config)
    (hserial : Transition.Along next (fun u a => u.serialized a = true) s actions)
    (hrun : Transition.run next s actions = some t) : t.Writing config :=
  Transition.along_invariant (fun _ _ _ h ha hnext => writing_step h ha (step_of_next hnext)) hs
    hserial hrun

end TxSystem

/-! ## One write call -/

/-- A notification does to a call what the end of its wait does, or nothing. -/
theorem Writer.wake_cases {wake : Writer → Writer}
    (h : wake = id ∨ wake = Writer.wakeCv ∨ wake = Writer.wakeChanged) (w : Writer) :
    wake w = w ∨ ∃ site, w.pc = .parked site ∧ wake w = w.goto (.locking site false) := by
  rcases h with rfl | rfl | rfl
  · exact .inl rfl
  · exact w.wakeCv_cases.imp_right fun ⟨hpc, heq⟩ => ⟨_, hpc, heq⟩
  · exact w.wakeChanged_cases.imp_right fun ⟨site, _, hpc, heq⟩ => ⟨site, hpc, heq⟩

theorem TxSystem.notify_writers (s : TxSystem) (wake : Wake) :
    ∃ f, (s.notify wake).writers = s.writers.map f ∧
      (f = id ∨ f = Writer.wakeCv ∨ f = Writer.wakeChanged) := by
  cases wake with
  | nobody => exact ⟨id, (List.map_id _).symm, .inl rfl⟩
  | cv => exact ⟨_, rfl, .inr (.inl rfl)⟩
  | changed => exact ⟨_, rfl, .inr (.inr rfl)⟩

/-- What a step does to the write call number `id`, which `w` is before it. -/
inductive CallStep (s : TxSystem) (a : TxAction) (t : TxSystem) (id : ℕ) (w : Writer) :
    Writer → Prop where
  | moved (input : CallInput) (w' : Writer) (ha : a = .writer id input)
      (hmove : WriterMove s.device id w t.device w') : CallStep s a t id w w'
  /-- Another call moves, after this one has returned. -/
  | other (j : ℕ) (input : CallInput) (v v' : Writer) (ha : a = .writer j input) (hne : j ≠ id)
      (hreturned : w.isReturned = true) (hmove : WriterMove s.device j v t.device v') :
      CallStep s a t id w w
  | aside (w' : Writer) (ha : ∀ j input, a ≠ .writer j input)
      (hwake : w' = w ∨ ∃ site, w.pc = .parked site ∧ w' = w.goto (.locking site false))
      (haside : Aside s a t.device) : CallStep s a t id w w'

/-- A call that is running after a step was running before it. -/
theorem CallStep.running {s t : TxSystem} {a : TxAction} {id : ℕ} {w w' : Writer}
    (h : CallStep s a t id w w') (hw' : w'.isReturned = false) : w.isReturned = false := by
  cases h with
  | moved input _ ha hmove => exact hmove.unreturned
  | other => exact hw'
  | aside _ ha hwake =>
    rcases hwake with rfl | ⟨site, hpc, rfl⟩
    · exact hw'
    · simp [Writer.isReturned, hpc]

/-- The step of a call finds the call after it where the call's own move has left it. -/
theorem moved_writer {s : TxSystem} {id : ℕ} {w w' : Writer} {d' : TxDevice}
    (hw : s.writers[id]? = some w) (hmove : WriterMove s.device id w d' w') :
    ((s.setWriter id d' w').notify (TxSystem.writerWake w)).writers[id]? = some w' := by
  have hlt := (List.getElem?_eq_some_iff.mp hw).1
  by_cases hpc : ∃ status, w.pc = .notifying status
  · obtain ⟨status, hpc⟩ := hpc
    have hw' : w'.wakeChanged = w' := by
      cases hmove <;> simp_all [Writer.wakeChanged]
    simp [TxSystem.writerWake, hpc, TxSystem.notify, hlt, hw']
  · have hnobody : TxSystem.writerWake w = .nobody := by
      unfold TxSystem.writerWake
      split
      · next status h => exact absurd ⟨status, h⟩ hpc
      · rfl
    simp [hnobody, TxSystem.notify, hlt]

theorem call_step {s t : TxSystem} {a : TxAction} {id : ℕ} {w : Writer} (hs : s.Admission)
    (hserial : s.Serial) (hstep : TxStep s a t) (hw : s.writers[id]? = some w) :
    ∃ w', t.writers[id]? = some w' ∧ CallStep s a t id w w' := by
  have hwoken : ∀ (u : TxSystem) (wake : Wake), u.writers[id]? = some w →
      ∃ w', (u.notify wake).writers[id]? = some w' ∧
        (w' = w ∨ ∃ site, w.pc = .parked site ∧ w' = w.goto (.locking site false)) := by
    intro u wake hu
    obtain ⟨f, hwriters, hf⟩ := u.notify_writers wake
    exact ⟨f w, by rw [hwriters, List.getElem?_map, hu]; rfl, Writer.wake_cases hf w⟩
  have hbeside : ∀ (u : TxSystem) (wake : Wake), t = u.notify wake → u.writers[id]? = some w →
      (∀ j input, a ≠ .writer j input) → ∃ w', t.writers[id]? = some w' ∧ CallStep s a t id w w' := by
    intro u wake ht hu ha
    obtain ⟨w', hw', hsame⟩ := hwoken u wake hu
    exact ⟨w', ht ▸ hw', .aside w' ha hsame (hstep.aside hs ha)⟩
  cases hstep with
  | writeStream request =>
    have hlt := (List.getElem?_eq_some_iff.mp hw).1
    exact hbeside _ .nobody rfl (by simpa [List.getElem?_append_left hlt] using hw) (by simp)
  | readStreamStatus | complete | call => exact hbeside _ .nobody rfl hw (by simp)
  | writer j input v v' d' hv hmove =>
    by_cases hid : j = id
    · subst hid
      obtain rfl : v = w := Option.some.inj (hv.symm.trans hw)
      refine ⟨v', moved_writer hw hmove, .moved input v' rfl ?_⟩
      rwa [TxSystem.notify_device]
    · have hreturned : w.isReturned = true := by
        by_contra hnot
        exact hid (hserial j id v w hv hw hmove.unreturned (Bool.eq_false_iff.mpr hnot))
      obtain ⟨w', hw', hsame⟩ := hwoken (s.setWriter j d' v') (TxSystem.writerWake v)
        (by simpa [List.getElem?_set_ne hid] using hw)
      obtain rfl : w' = w := by
        refine hsame.resolve_right ?_
        rintro ⟨site, hpc, -⟩
        simp [Writer.isReturned, hpc] at hreturned
      refine ⟨w', hw', .other j input v v' rfl hid hreturned ?_⟩
      rwa [TxSystem.notify_device]
  | poller | pps | notifyCompletion | lifecycle => exact hbeside _ _ rfl hw (by simp)

end SoapySidekiq
