import SoapySidekiq.Lifetime.Shutdown

/-! # From the constructor to the end of the destructor

The trace of a device meets its obligations to the SDK: the destructor stops and joins both directions,
unregisters the callback and calls `skiq_exit`, in this order, and a constructor that throws has released
what it had initialized. -/
set_option autoImplicit false

namespace SoapySidekiq
open Transition LifetimeEvent
variable {α τ κ : Type}

namespace Lifetime

/-! ## Stops -/

/-- The destructor is in front of the unregistration. -/
def isStopping (phase : Phase) : Bool :=
  match phase with
  | .shutdownTx | .shutdownRx | .resetRx => true
  | _ => false

/-- The destructor has gone on to the unregistration. -/
def isReleasing (phase : Phase) : Bool :=
  match phase with
  | .unregistering | .exiting | .gone => true
  | _ => false

/-- How a step goes on in the phases of the destructor. -/
structure Onward (s t : Lifetime α τ κ) (events : List (LifetimeEvent κ)) : Prop where
  trace : t.trace = s.trace ++ events
  stopping : isStopping s.phase = true →
    isStopping t.phase = true ∧ .issued (.registerTxComplete false) ∉ events ∨
    isReleasing t.phase = true ∧ events = [.issued (.registerTxComplete false)]
  releasing : isReleasing s.phase = true → isReleasing t.phase = true

theorem not_unregistration {events : List (LifetimeEvent κ)} (h : ∀ e ∈ events, e.inner = true) :
    .issued (.registerTxComplete false) ∉ events := fun hmem => by
  cases h _ hmem

theorem onward_of_next {arith : Arithmetic} {s t : Lifetime α τ κ} {a : LifetimeAction α τ κ}
    (hnext : s.next arith a = some t) : ∃ events, Onward s t events := by
  cases a with
  | tx action failed =>
    simp only [Lifetime.next] at hnext
    split at hnext
    · obtain ⟨tx, -, rfl⟩ := Option.map_eq_some_iff.mp hnext
      exact ⟨_, rfl, fun hphase => .inl ⟨hphase, not_unregistration (txEvents_inner _ _ _ _)⟩, id⟩
    · cases hnext
  | rx action =>
    simp only [Lifetime.next] at hnext
    split at hnext
    · obtain ⟨rx, -, rfl⟩ := Option.map_eq_some_iff.mp hnext
      refine ⟨_, rfl, fun hphase => .inl ⟨hphase, not_unregistration fun e he => ?_⟩, id⟩
      exact (SessionWorld.rxEvents_inner s.rx rx action e he).1
    · cases hnext
  | control call =>
    simp only [Lifetime.next] at hnext
    split at hnext <;> cases hnext
    exact ⟨_, rfl, fun hphase => .inl ⟨hphase, by simp⟩, id⟩
  | controlled index status =>
    simp only [Lifetime.next] at hnext
    split at hnext <;> cases hnext
    exact ⟨_, rfl, fun hphase => .inl ⟨hphase, by simp⟩, id⟩
  | destroy =>
    simp only [Lifetime.next] at hnext
    split at hnext
    · next halive =>
      obtain ⟨tx, -, rfl⟩ := Option.map_eq_some_iff.mp hnext
      exact ⟨[], by simp, fun _ => .inl ⟨rfl, by simp⟩, by simp [halive.1, isReleasing]⟩
    · cases hnext
  | proceed =>
    simp only [Lifetime.next] at hnext
    split at hnext
    · split at hnext <;> cases hnext
      exact ⟨[], by simp [enterShutdown], fun _ => .inl ⟨rfl, by simp⟩, by simp_all [isReleasing]⟩
    · split at hnext <;> cases hnext
      exact ⟨[], by simp [enterShutdown], fun _ => .inl ⟨rfl, by simp⟩, by simp_all [isReleasing]⟩
    · split at hnext <;> cases hnext
      exact ⟨_, rfl, fun _ => .inr ⟨rfl, rfl⟩, fun _ => rfl⟩
    · cases hnext
  | returned status =>
    simp only [Lifetime.next] at hnext
    split at hnext <;> cases hnext
    · exact ⟨_, rfl, by simp_all [isStopping], fun _ => rfl⟩
    · exact ⟨_, rfl, by simp_all [isStopping], fun _ => rfl⟩

/-- The stop has been issued since the trace was `start`, and in front of the unregistration. -/
def StoppedSince (start : List (LifetimeEvent κ)) (stop : LifetimeEvent κ)
    (trace : List (LifetimeEvent κ)) : Prop :=
  ∃ before after, trace = start ++ before ++ .issued (.registerTxComplete false) :: after ∧
    .issued (.registerTxComplete false) ∉ before ∧ stop ∈ before

/-- The stop has been issued, and the unregistration has not, or follows it. -/
inductive Stopped (start : List (LifetimeEvent κ)) (stop : LifetimeEvent κ) (s : Lifetime α τ κ) : Prop where
  | stopping (hphase : isStopping s.phase = true) (events : List (LifetimeEvent κ))
      (htrace : s.trace = start ++ events) (hnone : .issued (.registerTxComplete false) ∉ events)
      (hstop : stop ∈ events) : Stopped start stop s
  | releasing (hphase : isReleasing s.phase = true) (hstop : StoppedSince start stop s.trace) :
      Stopped start stop s

theorem Stopped.next {arith : Arithmetic} {start : List (LifetimeEvent κ)} {stop : LifetimeEvent κ}
    {s t : Lifetime α τ κ} {a : LifetimeAction α τ κ} (h : Stopped start stop s)
    (hnext : s.next arith a = some t) : Stopped start stop t := by
  obtain ⟨more, hmore, hstopping, hreleasing⟩ := onward_of_next hnext
  cases h with
  | stopping hphase events htrace hnone hstop =>
    rcases hstopping hphase with ⟨hphase', hinner⟩ | ⟨hphase', rfl⟩
    · exact .stopping hphase' (events ++ more) (by rw [hmore, htrace, List.append_assoc])
        (by simp [hnone, hinner]) (List.mem_append_left _ hstop)
    · exact .releasing hphase' ⟨events, [], by rw [hmore, htrace], hnone, hstop⟩
  | releasing hphase hstop =>
    obtain ⟨before, after, htrace, hnone, hstop⟩ := hstop
    exact .releasing (hreleasing hphase) ⟨before, after ++ more,
      by rw [hmore, htrace, List.append_assoc, List.cons_append], hnone, hstop⟩

/-- The trace goes on from `start` without an unregistration. -/
def Since (start trace : List (LifetimeEvent κ)) : Prop :=
  ∃ events, trace = start ++ events ∧ .issued (.registerTxComplete false) ∉ events

theorem Since.append {start trace more : List (LifetimeEvent κ)} (h : Since start trace)
    (hmore : .issued (.registerTxComplete false) ∉ more) : Since start (trace ++ more) := by
  obtain ⟨events, rfl, hnone⟩ := h
  exact ⟨events ++ more, List.append_assoc _ _ _, by simp [hnone, hmore]⟩

theorem Stopped.issued {start more : List (LifetimeEvent κ)} {stop : LifetimeEvent κ} {s : Lifetime α τ κ}
    {trace : List (LifetimeEvent κ)} (hphase : isStopping s.phase = true) (h : Since start trace)
    (htrace : s.trace = trace ++ more) (hmore : .issued (.registerTxComplete false) ∉ more)
    (hstop : stop ∈ more) : Stopped start stop s := by
  obtain ⟨events, rfl, hnone⟩ := h
  exact .stopping hphase (events ++ more) (by rw [htrace, List.append_assoc]) (by simp [hnone, hmore])
    (List.mem_append_right _ hstop)

/-- `shutdownTx` is in front of its stop of the stream. -/
structure PendingTx (start : List (LifetimeEvent κ)) (handle : TxStreamHandle) (s : Lifetime α τ κ) :
    Prop where
  phase : s.phase = .shutdownTx
  stop : TxSystem.BeforeStop .destroy handle s.tx
  trace : Since start s.trace

theorem PendingTx.next {config : TxConfiguration} {arith : Arithmetic}
    {start : List (LifetimeEvent κ)} {handle : TxStreamHandle} {s t : Lifetime α τ κ}
    {a : LifetimeAction α τ κ} (h : PendingTx start handle s) (hs : s.Sound config)
    (hnext : s.next arith a = some t) : PendingTx start handle t ∨
      Stopped start (.tx (.issued (.stopTxStreaming handle.txHandle))) t := by
  obtain ⟨hphase, hstop, htrace⟩ := h
  cases a with
  | tx action failed =>
    simp only [Lifetime.next] at hnext
    split at hnext
    · obtain ⟨tx, htx, rfl⟩ := Option.map_eq_some_iff.mp hnext
      obtain ⟨more, hdevice, hmore⟩ := txEvents_eq (κ := κ) hs.tx.admission htx failed
      have hinner : .issued (.registerTxComplete false) ∉
          (txEvents s.tx tx failed action : List (LifetimeEvent κ)) :=
        not_unregistration (txEvents_inner _ _ _ _)
      rcases TxSystem.beforeStop_step hstop (step_of_next htx) with hbefore | hissued
      · exact .inl ⟨hphase, hbefore, htrace.append hinner⟩
      · refine .inr (.issued (by simp [log, hphase, isStopping]) htrace rfl hinner ?_)
        rw [hissued] at hdevice
        rw [hmore, ← List.append_cancel_left hdevice]
        exact List.mem_append_left _ (List.mem_map_of_mem List.mem_cons_self)
    · cases hnext
  | rx action =>
    simp only [Lifetime.next] at hnext
    split at hnext
    · obtain ⟨rx, -, rfl⟩ := Option.map_eq_some_iff.mp hnext
      exact .inl ⟨hphase, hstop, htrace.append (not_unregistration fun e he =>
        (SessionWorld.rxEvents_inner s.rx rx action e he).1)⟩
    · cases hnext
  | controlled index status =>
    simp only [Lifetime.next] at hnext
    split at hnext <;> cases hnext
    exact .inl ⟨hphase, hstop, htrace.append (by simp)⟩
  | proceed =>
    have hcaller := hstop.lifecycle
    simp only [Lifetime.next, hphase] at hnext
    split at hnext <;> cases hnext
    next hdestroyed =>
    rw [hdestroyed] at hcaller
    cases hcaller
  | control | destroy | returned => simp [Lifetime.next, hphase] at hnext

/-- `shutdown` is in front of its stop of the RX hardware, or has not been entered. -/
structure PendingRx (start : List (LifetimeEvent κ)) (handle : UInt32) (s : Lifetime α τ κ) : Prop where
  phase : s.phase = .shutdownTx ∧ s.rx.pc = .free ∨
    s.phase = .shutdownRx ∧ SessionWorld.beforeStop s.rx.pc = true
  owns : s.rx.Owns handle
  trace : Since start s.trace

theorem PendingRx.next {config : TxConfiguration} {arith : Arithmetic}
    {start : List (LifetimeEvent κ)} {handle : UInt32} {s t : Lifetime α τ κ}
    {a : LifetimeAction α τ κ} (h : PendingRx start handle s) (hs : s.Sound config)
    (hnext : s.next arith a = some t) : PendingRx start handle t ∨
      Stopped start (.issued (.stopRx handle false)) t := by
  obtain ⟨hphase, howns, htrace⟩ := h
  have hstopping : isStopping s.phase = true := by
    rcases hphase with ⟨hphase, -⟩ | ⟨hphase, -⟩ <;> rw [hphase] <;> rfl
  cases a with
  | tx action failed =>
    simp only [Lifetime.next] at hnext
    split at hnext
    · obtain ⟨tx, -, rfl⟩ := Option.map_eq_some_iff.mp hnext
      exact .inl ⟨hphase, howns, htrace.append (not_unregistration (txEvents_inner _ _ _ _))⟩
    · cases hnext
  | rx action =>
    simp only [Lifetime.next] at hnext
    split at hnext
    · next hallow =>
      obtain ⟨rx, hrx, rfl⟩ := Option.map_eq_some_iff.mp hnext
      have hinner : .issued (.registerTxComplete false) ∉ (rxEvents s.rx rx action : List (LifetimeEvent κ)) :=
        not_unregistration fun e he => (SessionWorld.rxEvents_inner s.rx rx action e he).1
      by_cases hlifecycle : ∃ input, action = .lifecycle input
      · obtain ⟨input, rfl⟩ := hlifecycle
        rcases hphase with ⟨hphase, hfree⟩ | ⟨hphase, hbefore⟩
        · simp [hphase, Phase.allowsRx] at hallow
        · rcases SessionWorld.beforeStop_step (κ := κ) hbefore howns hrx with ⟨hbefore', howns'⟩ | hissued
          · exact .inl ⟨.inr ⟨hphase, hbefore'⟩, howns', htrace.append hinner⟩
          · refine .inr (.issued hstopping htrace rfl hinner ?_)
            rw [rxEvents, hissued]
            exact List.mem_append_right _ List.mem_cons_self
      · have hcall : ∀ call, action ≠ .call call := by
          rintro call rfl
          rcases hphase with ⟨hphase, -⟩ | ⟨hphase, -⟩ <;> rw [hphase] at hallow <;>
            cases call <;> simp [Phase.allowsRx] at hallow
        obtain ⟨-, hpc, hactive, hconfiguration, -⟩ := hs.rx.beside hrx hcall fun input ha =>
          hlifecycle ⟨input, ha⟩
        refine .inl ⟨?_, ⟨hactive.trans howns.1, ?_⟩, htrace.append hinner⟩
        · simpa [log, hpc] using hphase
        · exact (congrArg RxSessionConfiguration.handle hconfiguration).trans howns.2
    · cases hnext
  | controlled index status =>
    simp only [Lifetime.next] at hnext
    split at hnext <;> cases hnext
    exact .inl ⟨hphase, howns, htrace.append (by simp)⟩
  | proceed =>
    rcases hphase with ⟨hphase, hfree⟩ | ⟨hphase, hbefore⟩
    · simp only [Lifetime.next, hphase] at hnext
      split at hnext <;> cases hnext
      exact .inl ⟨.inr ⟨rfl, rfl⟩, howns, htrace⟩
    · simp only [Lifetime.next, hphase] at hnext
      split at hnext
      · next hreturned =>
        rw [(shutdownReturned_cases hreturned).1] at hbefore
        cases hbefore
      · cases hnext
  | control | destroy | returned =>
    rcases hphase with ⟨hphase, -⟩ | ⟨hphase, -⟩ <;> simp [Lifetime.next, hphase] at hnext

/-! ## The theorem -/

/-- The TX hardware is held, or may still come to be held by a start that the PPS worker is in. -/
def OwnsTx (s : Lifetime α τ κ) (txHandle : UInt32) : Prop :=
  heldTx (s.trace.filterMap asTx) = some txHandle ∨
    s.tx.device.txStreamActive = true ∧ s.tx.device.tokenHandle = some txHandle

def OwnsRx (s : Lifetime α τ κ) (handle : UInt32) : Prop :=
  s.trace.foldl holdRx none = some handle

/-- What the SDK may rely on in a state of a device. -/
structure SdkContract (s : Lifetime α τ κ) : Prop where
  alive : s.phase.released = false → s.trace.countP exits = 0
  released : s.phase.released = true → s.trace.countP exits = 1 ∧ Over s.trace ∧
    s.tx.device.txStreamingThread = none ∧ s.rx.joinable = false

theorem Sound.contract {config : TxConfiguration} {s : Lifetime α τ κ} (h : s.Sound config) :
    s.SdkContract where
  alive := h.accounted.unreleased
  released hphase := by
    have hover := (h.accounted.released hphase).over
    obtain ⟨halive, hshutdown⟩ := released_late hphase
    have hplace := h.tx.admission.standing.place
    rw [h.place.destroyed halive hshutdown] at hplace
    exact ⟨by rw [hover.once, if_pos h.accounted.initialized], hover, hplace,
      h.place.joined (.inr hphase)⟩

/-- What is in front of a stop until it is issued has stopped once the destructor goes on to release. -/
theorem stopped_of_run {config : TxConfiguration} {arith : Arithmetic} {start : List (LifetimeEvent κ)}
    {stop : LifetimeEvent κ} (Pending : Lifetime α τ κ → Prop)
    (hstep : ∀ v a w, v.Sound config → Pending v → v.next arith a = some w →
      Pending w ∨ Stopped start stop w)
    (hphase : ∀ v, Pending v → isReleasing v.phase = false) {v s : Lifetime α τ κ}
    {actions : List (LifetimeAction α τ κ)} (hv : v.Sound config) (hpending : Pending v)
    (hrun : Transition.run (Lifetime.next arith) v actions = some s)
    (hreleasing : isReleasing s.phase = true) : StoppedSince start stop s.trace := by
  have hboth : ∀ v a w, (v.Sound config ∧ (Pending v ∨ Stopped start stop v)) →
      Lifetime.next arith v a = some w → w.Sound config ∧ (Pending w ∨ Stopped start stop w) := by
    rintro v a w ⟨hv, hp | hstopped⟩ hnext
    · exact ⟨hv.next hnext, hstep v a w hv hp hnext⟩
    · exact ⟨hv.next hnext, .inr (hstopped.next hnext)⟩
  obtain ⟨-, hp | hstopped⟩ := run_invariant hboth ⟨hv, .inl hpending⟩ hrun
  · rw [hphase s hp] at hreleasing
    cases hreleasing
  · cases hstopped with
    | stopping hstill => cases hat : s.phase <;> simp [hat, isStopping, isReleasing] at hstill hreleasing
    | releasing _ hstop => exact hstop

/-- The TX stream that is owned at its destruction is stopped. -/
theorem Sound.stopsTx {config : TxConfiguration} {arith : Arithmetic} {u s : Lifetime α τ κ}
    {txHandle : UInt32} {rest : List (LifetimeAction α τ κ)} (hu : u.Sound config)
    (howns : u.OwnsTx txHandle)
    (hrun : Transition.run (Lifetime.next arith) u (.destroy :: rest) = some s)
    (hphase : isReleasing s.phase = true) :
    StoppedSince u.trace (.tx (.issued (.stopTxStreaming txHandle))) s.trace := by
  obtain ⟨v, hdestroy, hrest⟩ := run_cons.mp hrun
  have hv := hu.next hdestroy
  simp only [Lifetime.next] at hdestroy
  split at hdestroy
  · next halive =>
    obtain ⟨tx, htx, rfl⟩ := Option.map_eq_some_iff.mp hdestroy
    obtain ⟨hidle, -, -⟩ := serialized_cases halive.2
    rw [TxSystem.next, if_pos hidle] at htx
    cases htx
    have hheld := hu.tx.held
    unfold TxSystem.Held at hheld
    rw [hidle] at hheld
    rw [OwnsTx, hu.txTrace] at howns
    obtain ⟨hactive, htoken⟩ : u.tx.device.txStreamActive = true ∧
        u.tx.device.tokenHandle = some txHandle := by
      rcases howns with hheldTx | howns
      · exact ⟨by simpa [TxLifecyclePc.isRaising] using hheld.active _ hheldTx,
          hheld.token _ hheldTx (by simp)⟩
      · exact howns
    obtain ⟨handle, hhandle, rfl⟩ := Option.map_eq_some_iff.mp htoken
    have hbefore : TxSystem.BeforeStop .destroy handle
        (u.tx.setLifecycle (u.tx.device.beginCall .destroy)) :=
      ⟨rfl, (fun _ hstop => by cases hstop), hactive, hhandle⟩
    exact stopped_of_run (PendingTx u.trace handle) (fun _ _ _ hv hp => hp.next hv)
      (fun _ hp => by rw [hp.phase]; rfl) hv ⟨rfl, hbefore, [], (List.append_nil _).symm, by simp⟩ hrest hphase
  · cases hdestroy

/-- So is the RX hardware. -/
theorem Sound.stopsRx {config : TxConfiguration} {arith : Arithmetic} {u s : Lifetime α τ κ}
    {handle : UInt32} {rest : List (LifetimeAction α τ κ)} (hu : u.Sound config)
    (howns : u.OwnsRx handle)
    (hrun : Transition.run (Lifetime.next arith) u (.destroy :: rest) = some s)
    (hphase : isReleasing s.phase = true) :
    StoppedSince u.trace (.issued (.stopRx handle false)) s.trace := by
  obtain ⟨v, hdestroy, hrest⟩ := run_cons.mp hrun
  have hv := hu.next hdestroy
  simp only [Lifetime.next] at hdestroy
  split at hdestroy
  · next halive =>
    obtain ⟨tx, htx, rfl⟩ := Option.map_eq_some_iff.mp hdestroy
    obtain ⟨-, hfree, -⟩ := serialized_cases halive.2
    have hhardware : u.rx.Owns handle := by
      rw [OwnsRx, hu.rxHeld, hu.rx.backend] at howns
      split at howns
      · next hactive => exact ⟨hactive, Option.some.inj howns⟩
      · cases howns
    refine stopped_of_run (PendingRx u.trace handle) (fun _ _ _ hv hp => hp.next hv) (fun _ hp => ?_) hv
      ⟨.inl ⟨rfl, hfree⟩, hhardware, [], (List.append_nil _).symm, by simp⟩ hrest hphase
    rcases hp.phase with ⟨hat, -⟩ | ⟨hat, -⟩ <;> rw [hat] <;> rfl
  · cases hdestroy

/-- A device in the state in which its constructor leaves it. -/
theorem sound_constructed {d : ConstructedDevice} {trace : List (LifetimeEvent κ)}
    (hfresh : Constructor.Fresh trace) {capacity : ℕ} {timing : τ} {rx : SessionWorld α τ}
    (hrx : SessionWorld.create capacity timing = .ok rx) (headers : SdkHeaders)
    (convert : UInt32 → UInt32 → Int16) :
    (d.lifetime headers convert rx trace).Sound (d.txConfiguration headers convert) where
  tx := ⟨[], rfl⟩
  rx := .create hrx
  txTrace := hfresh.asTx
  rxHeld := by
    change trace.foldl LifetimeEvent.holdRx none = unconfirmedStart rx.backend
    rw [(SessionWorld.create_idle hrx).1]
    exact hfresh.holdRx none
  receives := by
    change trace.countP _ = trace.countP _ + rx.receiving.toNat
    rw [hfresh.receives.1, hfresh.receives.2, (SessionWorld.create_idle hrx).2]
    rfl
  accounted := ⟨hfresh.initialized, fun _ => hfresh.exits, by simp [ConstructedDevice.lifetime, Phase.released]⟩
  place := trivial

/-- The stops that a destruction owes: `u` is the device at its destruction, `s` a later state. -/
structure StopsBefore (u s : Lifetime α τ κ) : Prop where
  tx : ∀ txHandle, u.OwnsTx txHandle →
    StoppedSince u.trace (.tx (.issued (.stopTxStreaming txHandle))) s.trace
  rx : ∀ handle, u.OwnsRx handle → StoppedSince u.trace (.issued (.stopRx handle false)) s.trace

/-- A constructor that throws has released what it had initialized. A device that is constructed keeps
its contract in every state of every run, and its destruction stops the hardware that is still owned
before it unregisters the callback. -/
theorem sdk_lifetime (arith : Arithmetic) (headers : SdkHeaders) (arguments : Kwargs)
    (w : World Unit SetupAnswer Exception) {result : Except Exception ConstructedDevice}
    {r : Progress (LifetimeEvent κ) Unit}
    (hconstruct : Constructor.construct headers arguments w ⟨(), [], 0, 0⟩ = (result, r)) :
    (∀ e, result = .error e → Over r.trace) ∧
    ∀ d, result = .ok d → ∀ convert capacity (timing : τ) (rx : SessionWorld α τ),
      SessionWorld.create capacity timing = .ok rx → ∀ actions s,
        Transition.run (Lifetime.next arith) (d.lifetime headers convert rx r.trace) actions = some s →
        s.SdkContract ∧ ∀ first rest u, actions = first ++ .destroy :: rest →
          Transition.run (Lifetime.next arith) (d.lifetime headers convert rx r.trace) first = some u →
          isReleasing s.phase = true → u.StopsBefore s := by
  have hbuilt := Constructor.construct_built headers arguments w (r := ⟨(), [], 0, 0⟩) (κ := κ) rfl
  rw [hconstruct] at hbuilt
  constructor
  · rintro e rfl
    exact hbuilt.over
  · rintro d rfl convert capacity timing rx hrx actions s hrun
    have hsound := sound_constructed (d := d) hbuilt.fresh hrx headers convert
    refine ⟨(run_invariant (fun _ _ _ h hnext => h.next hnext) hsound hrun).contract, ?_⟩
    rintro first rest u rfl hfirst hphase
    obtain ⟨v, hv, hrest⟩ := run_append.mp hrun
    obtain rfl := Option.some.inj (hfirst.symm.trans hv)
    have hu := run_invariant (fun _ _ _ h hnext => h.next hnext) hsound hfirst
    exact ⟨fun txHandle howns => hu.stopsTx howns hrest hphase,
      fun handle howns => hu.stopsRx howns hrest hphase⟩

/-! ### A device whose TX hardware does not stop -/

/-- The SDK succeeds and answers every question with 2. -/
def sampleAnswer : SetupAnswer where
  status := 0
  holds := true
  number := 2
  text := "X2"
  parameters := ⟨.x2, [3, 4], [5, 6]⟩
  readback := ⟨0, 1000000, .finite ⟨1000000, 0, by decide⟩, 1000000⟩
  thrown := none

def sampleWorld : World Unit SetupAnswer Exception := ⟨fun _ s => (sampleAnswer, s), fun _ => none⟩

def sampleArguments : Kwargs := fun key =>
  if key = "card" then some "0" else if key = "tx_buffer_count" then some "2"
  else if key = "tx_block_size" then some "252" else none

def sampleConstruction : Except Exception ConstructedDevice × Progress (LifetimeEvent Unit) Unit :=
  Constructor.construct ⟨0, 1, Int.one_ne_zero⟩ sampleArguments sampleWorld ⟨(), [], 0, 0⟩

/-- Both directions are activated, and the RX worker calls `receive`. -/
def sampleStreaming : List (LifetimeAction Int16 Unit Unit) :=
  [.call (.setupStream "CS16" [0] [] 100), .lifecycle (.sdk 0), .lifecycle .run, .lifecycle .run,
    .call (.activateStream 100 0 0 0), .lifecycle (.sdk 0), .lifecycle (.sdk 0), .lifecycle (.sdk 0),
    .lifecycle (.sdk 0), .lifecycle (.sdk 0), .lifecycle .run, .lifecycle (.sdk 0), .lifecycle .run,
    .lifecycle .run, .lifecycle .run].map (fun action => .tx action []) ++
  [.call (.activate ⟨3, 2, .ofFrequency 1000000, 40000000, true, false⟩), .lifecycle .proceed,
    .lifecycle (.backend (.ok 0)), .lifecycle .proceed, .lifecycle .proceed, .lifecycle .proceed,
    .worker (.error .foreign)].map .rx

theorem noSamples_lt : ([] : List Int16).length < 2 ^ 64 := by decide

/-- The stop of TX fails, the one of RX succeeds. -/
def sampleDestruction : List (LifetimeAction Int16 Unit Unit) :=
  [.lifecycle .run, .lifecycle .run, .lifecycle .run, .lifecycle .run, .lifecycle .run,
    .lifecycle (.sdk (-5))].map (fun action => .tx action []) ++ [.proceed] ++
  [.lifecycle .proceed, .lifecycle .proceed, .lifecycle .proceed, .lifecycle (.backend (.ok 0)),
    .worker (.ok ⟨.noData, 3, ⟨[], noSamples_lt⟩, 0, 0, 0⟩), .worker (.error .foreign),
    .lifecycle .proceed].map .rx ++
  [.proceed, .rx (.lifecycle .proceed), .proceed, .returned 0, .returned 0]

/-- What the runs of the device show, once it has been constructed and its session created. -/
def sampleShows (d : ConstructedDevice) (trace : List (LifetimeEvent Unit)) (rx : SessionWorld Int16 Unit) :
    Bool :=
  let start := d.lifetime ⟨0, 1, Int.one_ne_zero⟩ (fun _ _ => 0) rx trace
  ((Transition.run (Lifetime.next .int128) start sampleStreaming).map fun u =>
      decide (heldTx (u.trace.filterMap asTx) = some 5 ∧ u.trace.foldl holdRx none = some 3)) ==
    some true &&
  ((Transition.run (Lifetime.next .int128) start (sampleStreaming ++ .destroy :: sampleDestruction)).map
    fun s => decide (s.phase = .gone)) == some true

def sampleChecks : Bool :=
  match sampleConstruction, (SessionWorld.create 4 () : Except Exception (SessionWorld Int16 Unit)) with
  | (.ok d, r), .ok rx => sampleShows d r.trace rx
  | _, _ => false

theorem sdk_lifetime_failed_stop :
    ∃ (d : ConstructedDevice) (r : Progress (LifetimeEvent Unit) Unit) (rx : SessionWorld Int16 Unit)
      (u s : Lifetime Int16 Unit Unit), sampleConstruction = (.ok d, r) ∧ u.OwnsTx 5 ∧ u.OwnsRx 3 ∧
      Transition.run (Lifetime.next .int128) (d.lifetime ⟨0, 1, by decide⟩ (fun _ _ => 0) rx r.trace)
        (sampleStreaming ++ .destroy :: sampleDestruction) = some s ∧
      s.phase = .gone ∧ s.SdkContract ∧ u.StopsBefore s := by
  have hchecks : sampleChecks = true := by decide +kernel
  unfold sampleChecks at hchecks
  split at hchecks
  · next d r rx hconstruct hrx =>
    simp only [sampleShows, Bool.and_eq_true, beq_iff_eq] at hchecks
    obtain ⟨hfirst, hall⟩ := hchecks
    obtain ⟨u, hu, howns⟩ := Option.map_eq_some_iff.mp hfirst
    obtain ⟨s, hs, hgone⟩ := Option.map_eq_some_iff.mp hall
    obtain ⟨htx, hrx'⟩ := of_decide_eq_true howns
    have hphase := of_decide_eq_true hgone
    obtain ⟨hcontract, hstops⟩ := (sdk_lifetime .int128 ⟨0, 1, by decide⟩ sampleArguments sampleWorld
      hconstruct).2 d rfl (fun _ _ => 0) 4 () rx hrx _ s hs
    exact ⟨d, r, rx, u, s, hconstruct, .inl htx, hrx', hs, hphase, hcontract,
      hstops _ _ u rfl hu (by rw [hphase]; rfl)⟩
  · cases hchecks

end Lifetime

end SoapySidekiq
