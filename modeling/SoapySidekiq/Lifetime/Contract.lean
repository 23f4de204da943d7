import SoapySidekiq.Lifetime.Session

/-! # What a trace of the SDK owes

The obligations of a device to the SDK as properties of the trace of all its calls: `skiq_exit` answers
one successful `skiq_init`, comes last but for the blocks of late completions, and finds no call in
progress, no callback registered. What the constructor leaves of them. -/
set_option autoImplicit false

namespace SoapySidekiq
variable {κ : Type}

namespace LifetimeEvent

/-! ## Kinds of events -/

def asTx : LifetimeEvent κ → Option SdkEvent
  | .tx e => some e
  | _ => none

/-- What a device does between its construction and the end of its destructor. -/
def inner : LifetimeEvent κ → Bool
  | .tx _ | .block _ => true
  | .issued call | .returned call _ =>
    match call with
    | .control _ | .startRx _ _ | .stopRx _ _ | .receive => true
    | _ => false

/-- Whether the completion callback is registered, after one more event. -/
def callback (registered : Bool) (e : LifetimeEvent κ) : Bool :=
  if e.registers then true else if e.unregisters then false else registered

/-- Nothing that the SDK is asked to set up or to release. -/
structure Ordinary (e : LifetimeEvent κ) : Prop where
  exits : e.exits = false
  initializes : e.initializes = false
  registers : e.registers = false
  unregisters : e.unregisters = false

theorem ordinary_of_inner {e : LifetimeEvent κ} (h : e.inner = true) : e.Ordinary := by
  cases e with
  | tx | block => exact ⟨rfl, rfl, rfl, rfl⟩
  | issued call | returned call => cases call <;> first | exact ⟨rfl, rfl, rfl, rfl⟩ | cases h

/-- An event that streaming has no part in. -/
structure Streamless (e : LifetimeEvent κ) : Prop where
  asTx : e.asTx = none
  issuesReceive : e.issuesReceive = false
  returnsReceive : e.returnsReceive = false
  issuesPpsStart : e.issuesPpsStart = false
  returnsPpsStart : e.returnsPpsStart = false
  holdRx : ∀ held, e.holdRx held = held

theorem ordinary_of_neutral {e : LifetimeEvent κ} (h : e.neutral = true) : e.Ordinary := by
  cases e with
  | tx | block => cases h
  | issued call | returned call => cases call <;> first | exact ⟨rfl, rfl, rfl, rfl⟩ | cases h

theorem streamless_of_neutral {e : LifetimeEvent κ} (h : e.neutral = true) : e.Streamless := by
  cases e with
  | tx | block => cases h
  | issued call | returned call =>
    cases call <;> first | exact ⟨rfl, rfl, rfl, rfl, rfl, fun _ => rfl⟩ | cases h

end LifetimeEvent

open LifetimeEvent

/-! ## Obligations -/

/-- The completion callback is registered. -/
def callbackRegistered (trace : List (LifetimeEvent κ)) : Bool := trace.foldl callback false

/-- Every receive and every start at a PPS edge has returned, and the callback is not registered. -/
structure Settled (trace : List (LifetimeEvent κ)) : Prop where
  receives : trace.countP issuesReceive = trace.countP returnsReceive
  ppsStarts : trace.countP issuesPpsStart = trace.countP returnsPpsStart
  callback : callbackRegistered trace = false

/-- The SDK has been released: `skiq_exit` was called once, for a `skiq_init` that succeeded, with
everything settled, and only late blocks were freed after it. -/
def Released (trace : List (LifetimeEvent κ)) : Prop :=
  ∃ before after, trace = before ++ .issued .exit :: after ∧ before.countP exits = 0 ∧
    before.any initializes = true ∧ Settled before ∧ ∀ e ∈ after, e.afterExit = true

/-- A device that is gone has released the SDK exactly if it had initialized it. -/
structure Over (trace : List (LifetimeEvent κ)) : Prop where
  once : trace.countP exits = if trace.any initializes then 1 else 0
  last : ∀ before after, trace = before ++ .issued .exit :: after →
    Settled before ∧ ∀ e ∈ after, e.afterExit = true

theorem afterExit_ordinary {e : LifetimeEvent κ} (h : e.afterExit = true) :
    e.exits = false ∧ e.initializes = false := by
  cases e with
  | tx => cases h
  | block => exact ⟨rfl, rfl⟩
  | issued => cases h
  | returned call => cases call <;> first | exact ⟨rfl, rfl⟩ | cases h

theorem not_mem_of_countP {trace : List (LifetimeEvent κ)} (h : trace.countP exits = 0) :
    (.issued .exit : LifetimeEvent κ) ∉ trace := fun hmem => by
  simpa [exits] using List.countP_eq_zero.mp h _ hmem

theorem Released.over {trace : List (LifetimeEvent κ)} (h : Released trace) : Over trace := by
  obtain ⟨before, after, rfl, hbefore, hinit, hsettled, hafter⟩ := h
  have hnone : after.countP exits = 0 := List.countP_eq_zero.mpr fun e he => by
    simp [(afterExit_ordinary (hafter e he)).1]
  refine ⟨?_, fun before' after' hsplit => ?_⟩
  · rw [List.countP_append, List.countP_cons_of_pos rfl, hbefore, hnone, List.any_append, hinit]
    rfl
  · obtain ⟨rfl, -, rfl⟩ := (List.append_cons_inj_of_notMem (not_mem_of_countP hbefore)
      (not_mem_of_countP hnone)).mp hsplit
    exact ⟨hsettled, hafter⟩

/-- What has not been initialized has not been released. -/
theorem over_of_uninitialized {trace : List (LifetimeEvent κ)} (hexits : trace.countP exits = 0)
    (hinit : trace.any initializes = false) : Over trace := by
  refine ⟨by simp [hexits, hinit], fun before after hsplit => ?_⟩
  subst hsplit
  exact absurd (by simp) (not_mem_of_countP hexits)

/-! ## The constructor -/

namespace Constructor

/-- A trace that releases nothing and has no part in streaming. -/
structure Quiet (l : List (LifetimeEvent κ)) : Prop where
  exits : l.countP exits = 0
  receives : l.countP issuesReceive = 0 ∧ l.countP returnsReceive = 0
  ppsStarts : l.countP issuesPpsStart = 0 ∧ l.countP returnsPpsStart = 0
  asTx : l.filterMap asTx = []
  holdRx : ∀ held, l.foldl holdRx held = held

theorem Quiet.append {l m : List (LifetimeEvent κ)} (hl : Quiet l) (hm : Quiet m) : Quiet (l ++ m) where
  exits := by rw [List.countP_append, hl.exits, hm.exits]
  receives := by simp [hl.receives, hm.receives]
  ppsStarts := by simp [hl.ppsStarts, hm.ppsStarts]
  asTx := by rw [List.filterMap_append, hl.asTx, hm.asTx]; rfl
  holdRx held := by rw [List.foldl_append, hl.holdRx, hm.holdRx]

theorem quiet_init (status : ℤ) : Quiet (called (κ := κ) .init status) :=
  ⟨rfl, ⟨rfl, rfl⟩, ⟨rfl, rfl⟩, rfl, fun _ => rfl⟩

theorem quiet_register (enabled : Bool) (status : ℤ) :
    Quiet (called (κ := κ) (.registerTxComplete enabled) status) :=
  ⟨rfl, ⟨rfl, rfl⟩, ⟨rfl, rfl⟩, rfl, fun _ => rfl⟩

/-- What a neutral trace leaves alone. -/
theorem quiet_of_neutral {l : List (LifetimeEvent κ)} (h : ∀ e ∈ l, e.neutral = true) :
    Quiet l ∧ l.any initializes = false ∧ ∀ registered, l.foldl callback registered = registered := by
  induction l with
  | nil => exact ⟨⟨rfl, ⟨rfl, rfl⟩, ⟨rfl, rfl⟩, rfl, fun _ => rfl⟩, rfl, fun _ => rfl⟩
  | cons e l ih =>
    obtain ⟨hexits, hinit, hregisters, hunregisters⟩ := ordinary_of_neutral (h e List.mem_cons_self)
    obtain ⟨htx, hissues, hreturns, hstarts, hstarted, hhold⟩ :=
      streamless_of_neutral (h e List.mem_cons_self)
    obtain ⟨hquiet, hnone, hcallback⟩ := ih fun f hf => h f (List.mem_cons_of_mem _ hf)
    refine ⟨?_, by rw [List.any_cons, hinit, hnone]; rfl, fun registered => ?_⟩
    · exact
        { exits := by simp [hexits, hquiet.exits]
          receives := by simp [hissues, hreturns, hquiet.receives]
          ppsStarts := by simp [hstarts, hstarted, hquiet.ppsStarts]
          asTx := by simp [htx, hquiet.asTx]
          holdRx := by simp [hhold, hquiet.holdRx] }
    · rw [List.foldl_cons, hcallback, callback, hregisters, hunregisters]
      rfl

theorem Scope.quiet {result : Except Exception ConstructedDevice} {scope : List (LifetimeEvent κ)}
    (h : Scope result scope) : Quiet scope := by
  cases h with
  | unconfigured e _ hsetup => exact (quiet_of_neutral hsetup).1
  | unregistered e setup hsetup | registered d setup hsetup =>
    exact (quiet_of_neutral hsetup).1.append (quiet_register _ _)
  | rolledBack e setup hsetup =>
    exact ((quiet_of_neutral hsetup).1.append (quiet_register _ _)).append (quiet_register _ _)

/-- A scope that was left by an exception leaves no callback behind. -/
theorem Scope.unregisters {e : Exception} {scope : List (LifetimeEvent κ)}
    (h : Scope (.error e) scope) : scope.foldl callback false = false := by
  cases h with
  | unconfigured _ _ hsetup => exact (quiet_of_neutral hsetup).2.2 false
  | unregistered _ setup hsetup status hstatus =>
    rw [List.foldl_append, (quiet_of_neutral hsetup).2.2]
    simp [called, callback, registers, LifetimeEvent.unregisters, hstatus]
  | rolledBack _ setup hsetup =>
    rw [List.foldl_append]
    rfl

/-- The trace with which a device starts its life. -/
structure Fresh (trace : List (LifetimeEvent κ)) : Prop extends Quiet trace where
  initialized : trace.any initializes = true

theorem Built.fresh {d : ConstructedDevice} {trace : List (LifetimeEvent κ)}
    (h : Built (.ok d) trace) : Fresh trace := by
  cases h with
  | built _ first scope hfirst hscope =>
    refine ⟨((quiet_of_neutral hfirst).1.append (quiet_init 0)).append hscope.quiet, ?_⟩
    simp [called, initializes]

/-- A constructor that throws owes the SDK nothing. -/
theorem Built.over {e : Exception} {trace : List (LifetimeEvent κ)} (h : Built (.error e) trace) :
    Over trace := by
  cases h with
  | refused _ _ hfirst =>
    obtain ⟨hquiet, hinit, -⟩ := quiet_of_neutral hfirst
    exact over_of_uninitialized hquiet.exits hinit
  | uninitialized _ first hfirst status hstatus =>
    obtain ⟨hquiet, hinit, -⟩ := quiet_of_neutral hfirst
    refine over_of_uninitialized (hquiet.append (quiet_init status)).exits ?_
    rw [List.any_append, hinit]
    simp [called, initializes, hstatus]
  | abandoned _ first scope hfirst hscope status =>
    obtain ⟨hquiet, hinit, hcallback⟩ := quiet_of_neutral hfirst
    have hbefore := (hquiet.append (quiet_init 0)).append hscope.quiet
    refine Released.over ⟨first ++ called .init 0 ++ scope, [.returned .exit (.ok status)], ?_,
      hbefore.exits, by simp [called, initializes], ⟨?_, ?_, ?_⟩, by simp [afterExit]⟩
    · simp [called]
    · rw [hbefore.receives.1, hbefore.receives.2]
    · rw [hbefore.ppsStarts.1, hbefore.ppsStarts.2]
    · rw [callbackRegistered, List.foldl_append, List.foldl_append, hcallback]
      exact hscope.unregisters

end Constructor

end SoapySidekiq
