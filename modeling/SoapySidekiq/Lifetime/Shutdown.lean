import SoapySidekiq.Lifetime.Contract
import SoapySidekiq.Tx.Holding

/-! # The invariant of a device

What every phase of the destructor has achieved, and that the trace accounts for it, whatever the calls,
the workers and the SDK do. -/
set_option autoImplicit false

namespace SoapySidekiq
open Transition LifetimeEvent
variable {α τ κ : Type}

/-! ## Events of the TX half -/

namespace TxSystem

/-- Once the TX half is destroyed it only takes completions. -/
theorem destroyed_step {s t : TxSystem} {a : TxAction} (hs : s.Admission)
    (hdestroyed : s.lifecycle = .destroyed) (hstep : TxStep s a t)
    (ha : (∃ result, a = .pps result) ∨ (∃ index, a = .complete index) ∨
      ∃ index, a = .notifyCompletion index) :
    t.lifecycle = .destroyed ∧ t.device.trace = s.device.trace := by
  have hthread : s.device.txStreamingThread = none := by
    have hplace := hs.standing.place
    rwa [hdestroyed] at hplace
  have hnotify : ∀ (u : TxSystem) (wake : Wake), u.lifecycle = .destroyed →
      (u.notify wake).lifecycle = .destroyed := by
    intro u wake hu
    cases wake with
    | nobody | cv => exact hu
    | changed => simp [TxSystem.notify, hu]
  cases hstep with
  | pps result d' wake hmove => cases hmove <;> simp_all
  | complete index context =>
    obtain ⟨_, _, heq⟩ := callBack_changes s.device index context
    exact ⟨hdestroyed, by simp [heq]⟩
  | notifyCompletion index wake => exact ⟨hnotify _ _ hdestroyed, by rw [notify_device]; rfl⟩
  | _ => simp at ha

end TxSystem

/-- The events of a step of the TX half: those at the boundary to the SDK, and those of the blocks. -/
theorem txEvents_eq {s t : TxSystem} {a : TxAction} (hs : s.Admission) (hnext : s.next a = some t)
    (failed : List BlockCall) : ∃ events : List SdkEvent, t.device.trace = s.device.trace ++ events ∧
      (txEvents s t failed a : List (LifetimeEvent κ)) =
        events.map .tx ++ (blockCalls s t failed a).map .block := by
  obtain ⟨events, htrace, -⟩ := TxSystem.trace_step hs (step_of_next hnext)
  refine ⟨events, htrace, ?_⟩
  rw [txEvents, htrace, List.drop_left]

theorem asTx_txEvents (events : List SdkEvent) (blocks : List BlockCall) :
    (events.map LifetimeEvent.tx ++ blocks.map .block : List (LifetimeEvent κ)).filterMap asTx = events := by
  rw [List.filterMap_append, List.filterMap_map, List.filterMap_map]
  have hblocks : blocks.filterMap (asTx ∘ (LifetimeEvent.block : BlockCall → LifetimeEvent κ)) = [] :=
    List.filterMap_eq_nil_iff.mpr fun _ _ => rfl
  rw [hblocks, List.append_nil]
  exact List.filterMap_some

theorem txEvents_inner (s t : TxSystem) (failed : List BlockCall) (a : TxAction) :
    ∀ e ∈ (txEvents s t failed a : List (LifetimeEvent κ)), e.inner = true := by
  intro e he
  rcases List.mem_append.mp he with he | he
  · obtain ⟨event, -, rfl⟩ := List.mem_map.mp he
    rfl
  · obtain ⟨call, -, rfl⟩ := List.mem_map.mp he
    rfl

/-- Events of the TX half and of its blocks say nothing about RX. -/
theorem tx_events_quiet {l : List (LifetimeEvent κ)}
    (h : ∀ e ∈ l, (∃ event, e = .tx event) ∨ ∃ call, e = .block call) :
    l.countP issuesReceive = 0 ∧ l.countP returnsReceive = 0 ∧
      (∀ held, l.foldl holdRx held = held) ∧ ∀ e ∈ l, e.inner = true := by
  induction l with
  | nil => exact ⟨rfl, rfl, fun _ => rfl, by simp⟩
  | cons e l ih =>
    obtain ⟨hissues, hreturns, hhold, hinner⟩ := ih fun f hf => h f (List.mem_cons_of_mem _ hf)
    rcases h e List.mem_cons_self with ⟨event, rfl⟩ | ⟨call, rfl⟩
    all_goals exact ⟨hissues, hreturns, hhold, by simpa using ⟨rfl, hinner⟩⟩

/-! ## Events of the session -/

namespace SessionWorld

theorem backendCall_inner {w : SessionWorld α τ} {call : LifetimeCall κ} (h : w.backendCall = some call) :
    (LifetimeEvent.issued call).inner = true := by
  unfold backendCall at h
  split at h <;> cases h <;> rfl

theorem rxEvents_inner (w t : SessionWorld α τ) (a : SessionAction α τ) :
    ∀ e ∈ (rxEvents w t a : List (LifetimeEvent κ)), e.inner = true ∧ e.asTx = none := by
  intro e he
  cases a with
  | lifecycle input =>
    rw [rxEvents, List.mem_append] at he
    rcases he with he | he
    · cases input with
      | backend result =>
        obtain ⟨call, hcall, rfl⟩ := Option.map_eq_some_iff.mp (Option.mem_toList.mp he)
        exact ⟨backendCall_inner hcall, rfl⟩
      | _ => cases he
    · obtain ⟨call, hcall, rfl⟩ := Option.map_eq_some_iff.mp (Option.mem_toList.mp he)
      exact ⟨backendCall_inner hcall, rfl⟩
  | worker incoming =>
    have hcases : w.receiving = true ∧ e = .returned .receive (incoming.map fun _ => 0) ∨
        t.receiving = true ∧ e = .issued .receive := by simpa [rxEvents] using he
    rcases hcases with ⟨-, rfl⟩ | ⟨-, rfl⟩ <;> exact ⟨rfl, rfl⟩
  | _ => cases he

end SessionWorld

theorem SessionWorld.create_idle {capacity : ℕ} {timing : τ} {w : SessionWorld α τ}
    (h : SessionWorld.create capacity timing = .ok w) :
    unconfirmedStart w.backend = none ∧ w.receiving = false := by
  unfold SessionWorld.create at h
  cases hqueue : (RxSampleQueue.create capacity : Except Exception (RxSampleQueue α)) with
  | error e => rw [hqueue] at h; cases h
  | ok queue =>
    rw [hqueue] at h
    cases h
    exact ⟨rfl, rfl⟩

/-! ## The invariant -/

namespace Lifetime

/-- What each phase of the destructor has achieved. -/
def Place (s : Lifetime α τ κ) : Phase → Prop
  | .alive => True
  | .shutdownTx => s.controls = [] ∧ s.rx.pc = .free
  | .shutdownRx | .resetRx => s.controls = [] ∧ s.tx.lifecycle = .destroyed ∧
    (SessionWorld.shutting s.rx.pc = true ∨ s.rx.pc = .free ∧ s.rx.joinable = false)
  | .unregistering | .exiting | .gone => s.controls = [] ∧ s.tx.lifecycle = .destroyed ∧
    s.rx.pc = .free ∧ s.rx.joinable = false

/-- The account of `skiq_exit` in each phase. -/
structure Accounted (phase : Phase) (trace : List (LifetimeEvent κ)) : Prop where
  initialized : trace.any initializes = true
  unreleased : phase.released = false → trace.countP exits = 0
  released : phase.released = true → Released trace

structure Sound (config : TxConfiguration) (s : Lifetime α τ κ) : Prop where
  tx : TxSystem.Reachable config s.tx
  rx : s.rx.Ownership
  txTrace : s.trace.filterMap asTx = s.tx.device.trace
  rxHeld : s.trace.foldl holdRx none = unconfirmedStart s.rx.backend
  receives : s.trace.countP issuesReceive = s.trace.countP returnsReceive + s.rx.receiving.toNat
  accounted : Accounted s.phase s.trace
  place : s.Place s.phase

theorem Accounted.inner {phase : Phase} {trace events : List (LifetimeEvent κ)}
    (h : Accounted phase trace) (hinner : ∀ e ∈ events, e.inner = true)
    (hafter : phase.released = true → ∀ e ∈ events, e.afterExit = true) :
    Accounted phase (trace ++ events) where
  initialized := by rw [List.any_append, h.initialized]; rfl
  unreleased hphase := by
    have hnone : events.countP exits = 0 := List.countP_eq_zero.mpr fun e he => by
      simp [(ordinary_of_inner (hinner e he)).exits]
    rw [List.countP_append, h.unreleased hphase, hnone]
  released hphase := by
    obtain ⟨before, after, rfl, hexits, hinit, hsettled, hlast⟩ := h.released hphase
    refine ⟨before, after ++ events, by simp, hexits, hinit, hsettled, fun e he => ?_⟩
    rcases List.mem_append.mp he with he | he
    · exact hlast e he
    · exact hafter hphase e he

/-! ## Steps of the TX half -/

theorem allowsTx_late {phase : Phase} {a : TxAction} (h : phase.allowsTx a = true)
    (halive : phase ≠ .alive) (hshutdown : phase ≠ .shutdownTx) :
    (∃ result, a = .pps result) ∨ (∃ index, a = .complete index) ∨
      ∃ index, a = .notifyCompletion index := by
  cases a with
  | pps result => exact .inl ⟨_, rfl⟩
  | complete index => exact .inr (.inl ⟨_, rfl⟩)
  | notifyCompletion index => exact .inr (.inr ⟨_, rfl⟩)
  | call call => cases call <;> simp [Phase.allowsTx, halive] at h
  | _ => simp [Phase.allowsTx, halive, hshutdown] at h

/-- After the destruction of the TX half its steps free blocks and nothing else. -/
theorem blockCalls_late {s t : TxSystem} {a : TxAction} (failed : List BlockCall)
    (ha : (∃ result, a = .pps result) ∨ (∃ index, a = .complete index) ∨
      ∃ index, a = .notifyCompletion index) : ∀ call ∈ blockCalls s t failed a, call = .free := by
  rcases ha with ⟨result, rfl⟩ | ⟨index, rfl⟩ | ⟨index, rfl⟩
  · simp [blockCalls]
  · simp only [blockCalls]
    split
    · split <;> simp
    · simp
  · simp [blockCalls]

theorem released_late {phase : Phase} (h : phase.released = true) :
    phase ≠ .alive ∧ phase ≠ .shutdownTx := by
  cases phase <;> simp_all [Phase.released]

theorem Place.destroyed {s : Lifetime α τ κ} {phase : Phase} (h : s.Place phase)
    (halive : phase ≠ .alive) (hshutdown : phase ≠ .shutdownTx) : s.tx.lifecycle = .destroyed := by
  cases phase <;> simp_all [Place]

theorem Sound.txStep {config : TxConfiguration} {s : Lifetime α τ κ} (h : s.Sound config) {a : TxAction}
    {tx : TxSystem} (failed : List BlockCall) (hallow : s.phase.allowsTx a = true)
    (hnext : s.tx.next a = some tx) :
    ({ s with tx := tx }.log (txEvents s.tx tx failed a)).Sound config := by
  have hadmission := h.tx.admission
  obtain ⟨events, htrace, hevents⟩ := txEvents_eq (κ := κ) hadmission hnext failed
  have hkinds : ∀ e ∈ (txEvents s.tx tx failed a : List (LifetimeEvent κ)),
      (∃ event, e = .tx event) ∨ ∃ call, e = .block call := by
    rw [hevents]
    intro e he
    rcases List.mem_append.mp he with he | he
    · obtain ⟨event, -, rfl⟩ := List.mem_map.mp he
      exact .inl ⟨event, rfl⟩
    · obtain ⟨call, -, rfl⟩ := List.mem_map.mp he
      exact .inr ⟨call, rfl⟩
  obtain ⟨hissues, hreturns, hhold, hinner⟩ := tx_events_quiet hkinds
  have hlate : s.phase ≠ .alive → s.phase ≠ .shutdownTx →
      tx.lifecycle = .destroyed ∧ tx.device.trace = s.tx.device.trace := fun halive hshutdown =>
    TxSystem.destroyed_step hadmission (h.place.destroyed halive hshutdown) (step_of_next hnext)
      (allowsTx_late hallow halive hshutdown)
  refine ⟨?_, h.rx, ?_, ?_, ?_, h.accounted.inner hinner fun hreleased => ?_, ?_⟩
  · obtain ⟨actions, hrun⟩ := h.tx
    exact ⟨actions ++ [a], run_append.mpr ⟨_, hrun, run_cons.mpr ⟨_, hnext, rfl⟩⟩⟩
  · rw [log, List.filterMap_append, h.txTrace, hevents, asTx_txEvents]
    exact htrace.symm
  · rw [log, List.foldl_append, hhold]
    exact h.rxHeld
  · rw [log, List.countP_append, List.countP_append, hissues, hreturns]
    exact h.receives
  · -- Nothing but completions is left.
    obtain ⟨halive, hshutdown⟩ := released_late hreleased
    have hnil : events = [] := by
      have hsame := (hlate halive hshutdown).2
      rw [htrace] at hsame
      exact List.append_right_eq_self.mp hsame
    rw [hevents, hnil]
    intro e he
    obtain ⟨call, hcall, rfl⟩ := List.mem_map.mp he
    rw [blockCalls_late failed (allowsTx_late hallow halive hshutdown) call hcall]
    rfl
  · have hplace := h.place
    cases hphase : s.phase with
    | alive => exact trivial
    | shutdownTx => rwa [hphase] at hplace
    | _ =>
      have hdestroyed := (hlate (by simp [hphase]) (by simp [hphase])).1
      rw [hphase] at hplace
      exact ⟨hplace.1, hdestroyed, hplace.2.2⟩

/-! ## Steps of the session -/

theorem allowsRx_late {phase : Phase} {a : SessionAction α τ} (h : phase.allowsRx a = true)
    (halive : phase ≠ .alive) (hshutdown : phase ≠ .shutdownRx) (hreset : phase ≠ .resetRx) :
    ∃ incoming, a = .worker incoming := by
  cases a with
  | worker incoming => exact ⟨incoming, rfl⟩
  | call call => cases call <;> simp [Phase.allowsRx, halive] at h
  | _ => simp [Phase.allowsRx, halive, hshutdown, hreset] at h

/-- Without a thread object no worker moves. -/
theorem worker_needs_thread {arith : Arithmetic} {w t : SessionWorld α τ}
    {incoming : Except Exception (RxReceiveResult α)}
    (h : w.next arith (.worker incoming) = some t) : w.joinable = true := by
  simp only [SessionWorld.next] at h
  split at h
  · cases h
  · next hthread => simp [SessionWorld.joinable, hthread]

theorem Place.joined {s : Lifetime α τ κ} {phase : Phase} (h : s.Place phase)
    (hphase : phase = .unregistering ∨ phase.released = true) : s.rx.joinable = false := by
  cases phase <;> simp_all [Place, Phase.released]

/-- A step of the session during its `shutdown`. -/
theorem shutdown_step {arith : Arithmetic} {w t : SessionWorld α τ} {a : SessionAction α τ}
    (hw : w.Ownership)
    (hplace : SessionWorld.shutting w.pc = true ∨ w.pc = .free ∧ w.joinable = false)
    (hcall : ∀ call, a ≠ .call call) (hnext : w.next arith a = some t) :
    SessionWorld.shutting t.pc = true ∨ t.pc = .free ∧ t.joinable = false := by
  by_cases hlifecycle : ∃ input, a = .lifecycle input
  · obtain ⟨input, rfl⟩ := hlifecycle
    rcases hplace with hshutting | ⟨hfree, -⟩
    · exact SessionWorld.shutting_step hshutting hnext
    · simp [SessionWorld.next, SessionWorld.lifecycleStep, hfree] at hnext
  · obtain ⟨-, hpc, -, -, hthread⟩ := hw.beside hnext hcall fun input ha => hlifecycle ⟨input, ha⟩
    rw [hpc]
    refine hplace.imp_right fun hfree => ⟨hfree.1, ?_⟩
    by_contra hjoinable
    rw [hthread (by simpa using hjoinable)] at hfree
    cases hfree.2

theorem Sound.rxStep {config : TxConfiguration} {arith : Arithmetic} {s : Lifetime α τ κ}
    (h : s.Sound config) {a : SessionAction α τ} {rx : SessionWorld α τ}
    (hallow : s.phase.allowsRx a = true) (hnext : s.rx.next arith a = some rx) :
    ({ s with rx := rx }.log (rxEvents s.rx rx a)).Sound config := by
  have hinner := SessionWorld.rxEvents_inner (κ := κ) s.rx rx a
  have hworker : s.phase ≠ .alive → s.phase ≠ .shutdownRx → s.phase ≠ .resetRx →
      rx.pc = s.rx.pc ∧ s.rx.joinable = true := by
    intro halive hshutdown hreset
    obtain ⟨incoming, rfl⟩ := allowsRx_late hallow halive hshutdown hreset
    exact ⟨(h.rx.beside hnext (by simp) (by simp)).2.1, worker_needs_thread hnext⟩
  have hmoving : ¬(s.phase = .unregistering ∨ s.phase.released = true) := by
    intro hphase
    have hjoinable := (hworker (by rintro heq; simp [heq, Phase.released] at hphase)
      (by rintro heq; simp [heq, Phase.released] at hphase)
      (by rintro heq; simp [heq, Phase.released] at hphase)).2
    rw [h.place.joined hphase] at hjoinable
    cases hjoinable
  refine ⟨h.tx, h.rx.next a hnext, ?_, ?_, ?_,
    h.accounted.inner (fun e he => (hinner e he).1) fun hreleased => absurd (.inr hreleased) hmoving, ?_⟩
  · have hnil : (rxEvents s.rx rx a : List (LifetimeEvent κ)).filterMap asTx = [] :=
      List.filterMap_eq_nil_iff.mpr fun e he => (hinner e he).2
    rw [log, List.filterMap_append, h.txTrace, hnil, List.append_nil]
  · rw [log, List.foldl_append, h.rxHeld, SessionWorld.rxEvents_hold h.rx hnext]
  · have hreceives := SessionWorld.rxEvents_receives (κ := κ) h.rx hnext
    have hbefore := h.receives
    rw [log, List.countP_append, List.countP_append]
    dsimp only
    omega
  · have hplace := h.place
    cases hphase : s.phase with
    | alive => exact trivial
    | shutdownTx =>
      rw [hphase] at hplace
      have hpc := (hworker (by simp [hphase]) (by simp [hphase]) (by simp [hphase])).1
      exact ⟨hplace.1, hpc.trans hplace.2⟩
    | shutdownRx | resetRx =>
      rw [hphase] at hplace
      refine ⟨hplace.1, hplace.2.1, shutdown_step h.rx hplace.2.2 ?_ hnext⟩
      rintro call rfl
      rw [hphase] at hallow
      cases call <;> simp [Phase.allowsRx] at hallow
    | unregistering | exiting | gone => exact absurd (by simp [hphase, Phase.released]) hmoving

/-! ## Steps of the device -/

/-- Starts at a PPS edge, counted in the trace of the device and in that of its TX half. -/
theorem ppsStarts_asTx (trace : List (LifetimeEvent κ)) :
    trace.countP issuesPpsStart = (trace.filterMap asTx).countP SdkEvent.issuesPps ∧
      trace.countP returnsPpsStart = (trace.filterMap asTx).countP SdkEvent.returnsPps := by
  have hissues : ∀ e : LifetimeEvent κ, (e.asTx.map SdkEvent.issuesPps).getD false = e.issuesPpsStart := by
    intro e
    cases e with
    | tx e => cases e with
      | issued call => cases call <;> rfl
      | _ => rfl
    | _ => rfl
  have hreturns : ∀ e : LifetimeEvent κ, (e.asTx.map SdkEvent.returnsPps).getD false = e.returnsPpsStart := by
    intro e
    cases e with
    | tx e => cases e with
      | returned call => cases call <;> rfl
      | _ => rfl
    | _ => rfl
  simp only [List.countP_filterMap, hissues, hreturns]
  exact ⟨trivial, trivial⟩

/-- The destructor goes on to its next phase, in front of `skiq_exit`. -/
theorem Accounted.goto {phase phase' : Phase} {trace : List (LifetimeEvent κ)}
    (h : Accounted phase trace) (hbefore : phase.released = false) (hafter : phase'.released = false) :
    Accounted phase' trace :=
  ⟨h.initialized, fun _ => h.unreleased hbefore, by simp [hafter]⟩

/-- The session's `shutdown` is entered. -/
theorem Sound.entered {config : TxConfiguration} {s : Lifetime α τ κ} (h : s.Sound config) {phase : Phase}
    (hfree : s.rx.pc = .free) (hbefore : s.phase.released = false)
    (hphase : phase = .shutdownRx ∨ phase = .resetRx) (hcontrols : s.controls = [])
    (hdestroyed : s.tx.lifecycle = .destroyed) : (s.enterShutdown phase).Sound config where
  tx := h.tx
  rx := h.rx.entered hfree .shutdown
  txTrace := h.txTrace
  rxHeld := h.rxHeld
  receives := h.receives
  accounted := h.accounted.goto hbefore (by rcases hphase with rfl | rfl <;> rfl)
  place := by rcases hphase with rfl | rfl <;> exact ⟨hcontrols, hdestroyed, .inl rfl⟩

theorem serialized_cases {s : Lifetime α τ κ} (h : s.serialized = true) :
    s.tx.lifecycle = .idle ∧ s.rx.pc = .free ∧ s.controls = [] := by
  simp only [serialized, Bool.and_eq_true, decide_eq_true_eq, List.isEmpty_iff] at h
  obtain ⟨⟨⟨⟨hidle, -⟩, -⟩, hfree⟩, hcontrols⟩ := h
  refine ⟨hidle, ?_, hcontrols⟩
  cases hpc : s.rx.pc <;> simp_all

theorem shutdownReturned_cases {s : Lifetime α τ κ} (h : s.shutdownReturned = true) :
    s.rx.pc = .free ∧ s.rx.fallbacks = [] := by
  unfold shutdownReturned at h
  cases hpc : s.rx.pc <;> simp_all

/-- With both workers joined and the callback gone nothing is left open. -/
theorem Sound.settled {config : TxConfiguration} {s : Lifetime α τ κ} (h : s.Sound config)
    (hdestroyed : s.tx.lifecycle = .destroyed) (hjoined : s.rx.joinable = false) (status : ℤ) :
    Settled (s.trace ++ [.returned (.registerTxComplete false) (.ok status)]) where
  receives := by
    have hreceives := h.receives
    rw [SessionWorld.receiving_of_not_joinable hjoined] at hreceives
    simpa [issuesReceive, returnsReceive] using hreceives
  ppsStarts := by
    obtain ⟨hissues, hreturns⟩ := ppsStarts_asTx (s.trace ++
      [LifetimeEvent.returned (.registerTxComplete false) (.ok status)])
    rw [hissues, hreturns, List.filterMap_append, h.txTrace]
    change (s.tx.device.trace ++ []).countP _ = (s.tx.device.trace ++ []).countP _
    have hthread : s.tx.device.txStreamingThread = none := by
      have hplace := h.tx.admission.standing.place
      rwa [hdestroyed] at hplace
    have hpending := h.tx.held.pending.count
    simpa [TxDevice.ppsStarting, hthread] using hpending
  callback := by rw [callbackRegistered, List.foldl_append]; rfl

theorem Sound.next {config : TxConfiguration} {arith : Arithmetic} {s t : Lifetime α τ κ}
    {a : LifetimeAction α τ κ} (h : s.Sound config) (hnext : s.next arith a = some t) :
    t.Sound config := by
  -- A call of a control function touches neither half.
  have hcontrol : ∀ (controls : List κ) (e : LifetimeEvent κ), e.neutral = true → e.inner = true →
      (s.phase ≠ .alive → s.controls = [] → controls = []) → s.phase.released = false →
      ({ s with controls := controls }.log [e]).Sound config := by
    intro controls e hneutral hinner hcontrols hphase
    obtain ⟨htx, hissues, hreturns, -, -, hhold⟩ := streamless_of_neutral hneutral
    refine ⟨h.tx, h.rx, ?_, ?_, ?_, h.accounted.inner (by simpa using hinner) (by simp [hphase]), ?_⟩
    · simp [log, h.txTrace, htx]
    · simp [log, h.rxHeld, hhold]
    · simp [log, h.receives, hissues, hreturns]
    · have hplace := h.place
      cases hat : s.phase <;> simp_all [Place, log]
  cases a with
  | tx action failed =>
    simp only [Lifetime.next] at hnext
    split at hnext
    · next hallow =>
      obtain ⟨tx, htx, rfl⟩ := Option.map_eq_some_iff.mp hnext
      exact h.txStep failed hallow htx
    · cases hnext
  | rx action =>
    simp only [Lifetime.next] at hnext
    split at hnext
    · next hallow =>
      obtain ⟨rx, hrx, rfl⟩ := Option.map_eq_some_iff.mp hnext
      exact h.rxStep hallow hrx
    · cases hnext
  | control call =>
    simp only [Lifetime.next] at hnext
    split at hnext
    · next halive =>
      cases hnext
      exact hcontrol _ _ rfl rfl (by simp [halive]) (by simp [halive, Phase.released])
    · cases hnext
  | controlled index status =>
    simp only [Lifetime.next] at hnext
    split at hnext
    · next call hcall =>
      cases hnext
      have hsome : s.controls ≠ [] := by
        rintro hnil
        simp [hnil] at hcall
      have hplace := h.place
      refine hcontrol _ _ rfl rfl (fun _ hnil => absurd hnil hsome) ?_
      cases hat : s.phase <;> simp_all [Place, Phase.released]
    · cases hnext
  | destroy =>
    simp only [Lifetime.next] at hnext
    split at hnext
    · next halive =>
      obtain ⟨tx, htx, rfl⟩ := Option.map_eq_some_iff.mp hnext
      obtain ⟨halive, hserialized⟩ := halive
      obtain ⟨hidle, hfree, hcontrols⟩ := serialized_cases hserialized
      have hreachable : TxSystem.Reachable config tx := by
        obtain ⟨actions, hrun⟩ := h.tx
        exact ⟨actions ++ [_], run_append.mpr ⟨_, hrun, run_cons.mpr ⟨_, htx, rfl⟩⟩⟩
      rw [TxSystem.next, if_pos hidle] at htx
      cases htx
      exact
        { h with
          tx := hreachable
          accounted := h.accounted.goto (by rw [halive]; rfl) rfl
          place := ⟨hcontrols, hfree⟩ }
    · cases hnext
  | proceed =>
    have hplace := h.place
    simp only [Lifetime.next] at hnext
    cases hphase : s.phase with
    | shutdownTx =>
      rw [hphase] at hnext hplace
      obtain ⟨hdestroyed, rfl⟩ : s.tx.lifecycle = .destroyed ∧ s.enterShutdown .shutdownRx = t := by
        simpa using hnext
      exact h.entered hplace.2 (by rw [hphase]; rfl) (.inl rfl) hplace.1 hdestroyed
    | shutdownRx =>
      rw [hphase] at hnext hplace
      obtain ⟨hreturned, rfl⟩ : s.shutdownReturned = true ∧ s.enterShutdown .resetRx = t := by
        simpa using hnext
      exact h.entered (shutdownReturned_cases hreturned).1 (by rw [hphase]; rfl) (.inr rfl) hplace.1
        hplace.2.1
    | resetRx =>
      rw [hphase] at hnext hplace
      obtain ⟨hreturned, hsome⟩ := Option.ite_none_right_eq_some.mp hnext
      cases hsome
      have hfree := (shutdownReturned_cases hreturned).1
      have hjoined : s.rx.joinable = false := by
        rcases hplace.2.2 with hshutting | hdone
        · rw [hfree] at hshutting
          cases hshutting
        · exact hdone.2
      have hexits := h.accounted.unreleased (by rw [hphase]; rfl)
      exact
        { tx := h.tx
          rx := h.rx
          txTrace := by simp [log, h.txTrace, asTx]
          rxHeld := by simp [log, h.rxHeld, holdRx]
          receives := by simp [log, h.receives, issuesReceive, returnsReceive]
          accounted := ⟨by simp [log, h.accounted.initialized], fun _ => by simp [log, hexits, exits],
            by simp [log, Phase.released]⟩
          place := ⟨hplace.1, hplace.2.1, hfree, hjoined⟩ }
    | alive | unregistering | exiting | gone => rw [hphase] at hnext; cases hnext
  | returned status =>
    have hplace := h.place
    simp only [Lifetime.next] at hnext
    cases hphase : s.phase with
    | unregistering =>
      rw [hphase] at hnext hplace
      cases hnext
      have hexits := h.accounted.unreleased (by rw [hphase]; rfl)
      have hsettled := h.settled hplace.2.1 hplace.2.2.2 status
      exact
        { tx := h.tx
          rx := h.rx
          txTrace := by simp [log, h.txTrace, asTx]
          rxHeld := by simp [log, h.rxHeld, holdRx]
          receives := by simp [log, h.receives, issuesReceive, returnsReceive]
          accounted := ⟨by simp [log, h.accounted.initialized], by simp [log, Phase.released], fun _ =>
            ⟨_, [], by simp [log], by simp [hexits, exits], by simp [h.accounted.initialized], hsettled,
              by simp⟩⟩
          place := hplace }
    | exiting =>
      rw [hphase] at hnext hplace
      cases hnext
      obtain ⟨before, after, htrace, hbefore, hinit, hsettled, hafter⟩ :=
        h.accounted.released (by rw [hphase]; rfl)
      exact
        { tx := h.tx
          rx := h.rx
          txTrace := by simp [log, h.txTrace, asTx]
          rxHeld := by simp [log, h.rxHeld, holdRx]
          receives := by simp [log, h.receives, issuesReceive, returnsReceive]
          accounted := ⟨by simp [log, h.accounted.initialized], by simp [log, Phase.released], fun _ =>
            ⟨before, after ++ [.returned .exit (.ok status)], by simp [log, htrace], hbefore, hinit, hsettled,
              by simpa [afterExit, or_imp, forall_and] using hafter⟩⟩
          place := hplace }
    | alive | shutdownTx | shutdownRx | resetRx | gone => rw [hphase] at hnext; cases hnext

end Lifetime

end SoapySidekiq
