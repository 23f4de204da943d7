import SoapySidekiq.Foundations.Transition
import SoapySidekiq.Rx.Session

/-! # The invariant of the RX session

What every program counter of a lifecycle call knows about the session, and that the steps of the
call, of the worker, of the readers and of the end of a failed `shutdown` keep it. -/
set_option autoImplicit false

namespace SoapySidekiq
open Transition
variable {α τ : Type}

/-! ## The backend's view -/

def startSucceeded (result : Except Exception ℤ) : Bool :=
  match result with
  | .ok status => status == 0
  | .error _ => false

/-- The handle of a successful start that no stop has confirmed yet, after one more call. -/
def confirm (unconfirmed : Option UInt32) : BackendCall → Option UInt32
  | .start handle _ result => if startSucceeded result then some handle else unconfirmed
  | .stop _ _ result => if released result then none else unconfirmed

def unconfirmedStart (backend : List BackendCall) : Option UInt32 := backend.foldl confirm none

theorem unconfirmedStart_append (backend : List BackendCall) (c : BackendCall) :
    unconfirmedStart (backend ++ [c]) = confirm (unconfirmedStart backend) c := by
  simp [unconfirmedStart]

namespace SessionWorld

/-! ## The invariant -/

/-- What each program counter knows. -/
def AtPc (w : SessionWorld α τ) : LifecyclePc τ → Prop
  | .free =>
    (∀ o, w.outcome = some (.deactivate, o) → w.session.running = false ∧ w.joinable = false) ∧
    (∀ kind e, w.outcome = some (kind, .rejected e) → w.effects = []) ∧
    (∀ kind e, w.outcome = some (kind, .invalid e) → Effect.start ∉ w.effects ∧ .stop ∉ w.effects)
  | .activateConfigured _ => w.effects = []
  | .preparing _ => w.owned = false ∧ w.effects = [.prepare]
  | .configureInactive => w.effects = []
  | .configuring => w.owned = false
  | .activateLocked c prepare =>
    (prepare = none ∧ w.effects = []) ∨
    ∃ p, prepare = some p ∧ p w.timing = .ok c ∧ w.owned = false ∧ w.effects = [.prepare]
  | .starting c prepare => w.owned = false ∧ ∀ p, prepare = some p → p w.timing = .ok c
  | .startQueue c | .setRunning c | .createThread c | .rollbackRunning c _ =>
    w.session.active = true ∧ w.joinable = false ∧ w.session.activeConfiguration = c
  | .rollbackQueue c _ | .rollbackStop c _ =>
    w.session.active = true ∧ w.joinable = false ∧ w.session.activeConfiguration = c ∧
      w.session.running = false
  | .deactivate _ _ => True
  | .clearRunning _ _ => True
  | .stopQueue _ _ => w.session.running = false
  | .stopping _ _ => w.session.active = true ∧ w.session.running = false
  | .joining _ _ => w.session.running = false

/-- The call is between its stop of the hardware and the join of the worker. -/
def aboutToJoin : LifecyclePc τ → Bool
  | .joining _ _ => true
  | _ => false

/-- `running_` is set but the worker does not exist yet, or could not be created. -/
def launching : LifecyclePc τ → Bool
  | .createThread _ | .rollbackRunning _ _ => true
  | _ => false

/-- The worker has cleared `running_`, or seen it clear, for good. -/
def halted : WorkerPc α → Bool
  | .storeQueue | .finished => true
  | _ => false

structure Ownership (w : SessionWorld α τ) : Prop where
  backend : unconfirmedStart w.backend =
    if w.session.active then some w.session.activeConfiguration.handle else none
  worker : w.joinable = true → w.session.active = true ∨ aboutToJoin w.pc = true
  running : w.session.running = true → w.joinable = true ∨ launching w.pc = true
  halted : ∀ worker, w.session.receiveThread = some worker → halted worker.pc = true →
    w.session.running = false
  configuration : ∀ worker, w.session.receiveThread = some worker →
    worker.configuration = w.session.activeConfiguration
  snapshot : ∀ p, w.prepared = some p → w.owned = true →
    p w.timing = .ok w.session.activeConfiguration
  terminated : w.terminated = false
  atPc : w.AtPc w.pc

theorem owned_eq_false {w : SessionWorld α τ} :
    w.owned = false ↔ w.session.active = false ∧ w.joinable = false := by
  simp [owned]

theorem Ownership.create {capacity : ℕ} {timing : τ} {w : SessionWorld α τ}
    (h : SessionWorld.create capacity timing = .ok w) : w.Ownership := by
  unfold SessionWorld.create at h
  cases hq : (RxSampleQueue.create capacity : Except Exception (RxSampleQueue α)) with
  | error e => rw [hq] at h; cases h
  | ok q =>
    rw [hq] at h
    cases h
    exact
      { backend := rfl
        worker := by simp [joinable]
        running := by simp
        halted := by simp
        configuration := by simp
        snapshot := by simp
        terminated := rfl
        atPc := by simp [AtPc] }

/-! ## Steps beside the call -/

/-- What the worker, the end of a failed `shutdown` and the readers can change: the queue, the
diagnostics, `running_` from set to clear, and a thread object that is joined after that. -/
structure Calmer (s t : RxStreamSession α) : Prop where
  thread : t.receiveThread.isSome = true → s.receiveThread.isSome = true
  running : t.running = true →
    s.running = true ∧ (s.receiveThread.isSome = true → t.receiveThread.isSome = true)
  active : t.active = s.active
  activeConfiguration : t.activeConfiguration = s.activeConfiguration
  halted : ∀ worker, t.receiveThread = some worker → SessionWorld.halted worker.pc = true →
    t.running = false
  configuration : ∀ worker, t.receiveThread = some worker →
    ∃ worker', s.receiveThread = some worker' ∧ worker.configuration = worker'.configuration

theorem AtPc.calmer {w : SessionWorld α τ} {s : RxStreamSession α} {fallbacks : List Fallback}
    (hs : Calmer w.session s) {pc : LifecyclePc τ} (h : w.AtPc pc) :
    ({ w with session := s, fallbacks := fallbacks } : SessionWorld α τ).AtPc pc := by
  have hrunning : w.session.running = false → s.running = false := by
    intro hr
    by_contra hc
    have := (hs.running (Bool.eq_true_of_not_eq_false hc)).1
    rw [hr] at this
    cases this
  have hjoinable : w.joinable = false → s.receiveThread.isSome = false := by
    intro hj
    by_contra hc
    have := hs.thread (Bool.eq_true_of_not_eq_false hc)
    exact absurd this (by simpa [joinable] using hj)
  have howned : w.owned = false → (s.active || s.receiveThread.isSome) = false := by
    intro ho
    obtain ⟨ha, hj⟩ := owned_eq_false.mp ho
    rw [hs.active, ha, hjoinable hj]
    rfl
  cases pc with
  | free => exact ⟨fun o ho => (h.1 o ho).imp hrunning hjoinable, h.2⟩
  | activateConfigured _ => exact h
  | preparing _ => exact ⟨howned h.1, h.2⟩
  | configureInactive => exact h
  | configuring => exact howned h
  | activateLocked c prepare =>
    rcases h with h | ⟨p, hp, hc, ho, he⟩
    · exact .inl h
    · exact .inr ⟨p, hp, hc, howned ho, he⟩
  | starting c prepare => exact ⟨howned h.1, h.2⟩
  | startQueue c => exact ⟨hs.active.trans h.1, hjoinable h.2.1, hs.activeConfiguration.trans h.2.2⟩
  | setRunning c => exact ⟨hs.active.trans h.1, hjoinable h.2.1, hs.activeConfiguration.trans h.2.2⟩
  | createThread c => exact ⟨hs.active.trans h.1, hjoinable h.2.1, hs.activeConfiguration.trans h.2.2⟩
  | rollbackRunning c e =>
    exact ⟨hs.active.trans h.1, hjoinable h.2.1, hs.activeConfiguration.trans h.2.2⟩
  | rollbackQueue c e =>
    exact ⟨hs.active.trans h.1, hjoinable h.2.1, hs.activeConfiguration.trans h.2.2.1,
      hrunning h.2.2.2⟩
  | rollbackStop c e =>
    exact ⟨hs.active.trans h.1, hjoinable h.2.1, hs.activeConfiguration.trans h.2.2.1,
      hrunning h.2.2.2⟩
  | deactivate _ _ => trivial
  | clearRunning _ _ => trivial
  | stopQueue _ _ => exact hrunning h
  | stopping _ _ => exact ⟨hs.active.trans h.1, hrunning h.2⟩
  | joining _ _ => exact hrunning h

theorem Ownership.calmer {w : SessionWorld α τ} (h : w.Ownership) {s : RxStreamSession α}
    (hs : Calmer w.session s) (fallbacks : List Fallback) :
    ({ w with session := s, fallbacks := fallbacks } : SessionWorld α τ).Ownership where
  backend := by
    simp only [hs.active, hs.activeConfiguration]
    exact h.backend
  worker := fun hj => (h.worker (hs.thread hj)).imp_left hs.active.trans
  running := fun hr =>
    (h.running (hs.running hr).1).imp_left (hs.running hr).2
  halted := hs.halted
  configuration := by
    intro worker hw
    obtain ⟨worker', hw', hc⟩ := hs.configuration worker hw
    rw [hc, h.configuration worker' hw']
    exact hs.activeConfiguration.symm
  snapshot := by
    intro p hp ho
    rw [show p w.timing = _ from h.snapshot p hp ?_]
    · exact congrArg _ hs.activeConfiguration.symm
    · rcases Bool.or_eq_true_iff.mp ho with ha | hj
      · exact Bool.or_eq_true_iff.mpr (.inl (hs.active.symm.trans ha))
      · exact Bool.or_eq_true_iff.mpr (.inr (hs.thread hj))
  terminated := h.terminated
  atPc := h.atPc.calmer hs

/-- A step that ends with the worker at a program counter that is not a halt. -/
theorem Calmer.of_thread {s t : RxStreamSession α} {worker worker' : Worker α}
    (hw : s.receiveThread = some worker) (hthread : t.receiveThread = some worker')
    (hc : worker'.configuration = worker.configuration)
    (hrunning : t.running = true → s.running = true) (hactive : t.active = s.active)
    (hconf : t.activeConfiguration = s.activeConfiguration)
    (hh : SessionWorld.halted worker'.pc = true → t.running = false) : Calmer s t where
  thread := by simp [hw]
  running := fun hr => ⟨hrunning hr, by simp [hthread]⟩
  active := hactive
  activeConfiguration := hconf
  halted := by
    intro worker'' h
    rw [hthread, Option.some.injEq] at h
    rw [← h]
    exact hh
  configuration := by
    intro worker'' h
    rw [hthread, Option.some.injEq] at h
    exact ⟨worker, hw, by rw [← h, hc]⟩

theorem processResult_calmer {s : RxStreamSession α} {worker : Worker α}
    (hw : s.receiveThread = some worker) (result : RxReceiveResult α) :
    Calmer s (s.processResult worker result) := by
  unfold RxStreamSession.processResult
  split
  · exact .of_thread hw rfl rfl id rfl rfl (by intro h; cases h)
  · exact .of_thread hw rfl rfl id rfl rfl (by intro h; cases h)
  · exact .of_thread hw rfl rfl id rfl rfl (by intro h; cases h)
  · split
    · exact .of_thread hw rfl rfl id rfl rfl (by intro h; cases h)
    · split
      · exact .of_thread hw rfl rfl id rfl rfl (by intro h; cases h)
      · exact .of_thread hw rfl rfl id rfl rfl (by intro h; cases h)

theorem workerStep_calmer {arith : Arithmetic} {s t : RxStreamSession α} {worker : Worker α}
    {incoming : Except Exception (RxReceiveResult α)} (hw : s.receiveThread = some worker)
    (hh : SessionWorld.halted worker.pc = true → s.running = false)
    (h : s.workerStep arith worker incoming = some t) : Calmer s t := by
  unfold RxStreamSession.workerStep at h
  cases hpc : worker.pc with
  | loop =>
    rw [hpc] at h
    cases h
    refine .of_thread hw rfl rfl id rfl rfl (fun hf => ?_)
    by_contra hr
    rw [show s.running = true from Bool.eq_true_of_not_eq_false hr] at hf
    cases hf
  | receiving =>
    rw [hpc] at h
    cases incoming with
    | error e => cases h; exact .of_thread hw rfl rfl id rfl rfl (by intro h; cases h)
    | ok result => cases h; exact .of_thread hw rfl rfl id rfl rfl (by intro h; cases h)
  | received result =>
    rw [hpc] at h
    cases h
    refine .of_thread hw rfl rfl id rfl rfl (fun hf => ?_)
    by_contra hr
    rw [show s.running = true from Bool.eq_true_of_not_eq_false hr] at hf
    cases hf
  | process result =>
    rw [hpc] at h
    cases h
    exact processResult_calmer hw result
  | push samples timestamp =>
    rw [hpc] at h
    simp only at h
    split at h
    · cases h; exact .of_thread hw rfl rfl id rfl rfl (by intro h; cases h)
    · cases h; exact .of_thread hw rfl rfl id rfl rfl (by intro h; cases h)
  | storeError code =>
    rw [hpc] at h
    cases h
    exact .of_thread hw rfl rfl id rfl rfl (by intro h; cases h)
  | storeFailed =>
    rw [hpc] at h
    cases h
    exact .of_thread hw rfl rfl id rfl rfl (by intro h; cases h)
  | storeStopped =>
    rw [hpc] at h
    cases h
    exact .of_thread hw rfl rfl (by intro h; cases h) rfl rfl (fun _ => rfl)
  | storeQueue =>
    rw [hpc] at h
    cases h
    exact .of_thread hw rfl rfl id rfl rfl (fun _ => hh (by rw [hpc]; rfl))
  | finished => rw [hpc] at h; cases h

/-- `join` takes the thread object away only after its worker has finished. -/
theorem joined_cases {w t : SessionWorld α τ} (h : w.joined = some t) :
    t = { w with session := { w.session with receiveThread := none } } ∧
      ∀ worker, w.session.receiveThread = some worker → SessionWorld.halted worker.pc = true := by
  unfold joined at h
  cases hw : w.session.receiveThread with
  | none =>
    rw [hw] at h
    cases h
    rw [← hw]
    exact ⟨rfl, by simp [hw]⟩
  | some worker =>
    rw [hw] at h
    cases hpc : worker.pc with
    | finished =>
      simp only [hpc, Option.some.injEq] at h
      refine ⟨h.symm, fun worker' h' => ?_⟩
      cases h'
      rw [hpc]
      rfl
    | _ => simp [hpc] at h

theorem Calmer.joined {s : RxStreamSession α}
    (hdone : ∀ worker, s.receiveThread = some worker → SessionWorld.halted worker.pc = true)
    (hh : ∀ worker, s.receiveThread = some worker → SessionWorld.halted worker.pc = true →
      s.running = false) : Calmer s { s with receiveThread := none } where
  thread := by simp
  running := by
    intro hr
    refine ⟨hr, fun hsome => ?_⟩
    obtain ⟨worker, hw⟩ := Option.isSome_iff_exists.mp hsome
    rw [show s.running = true from hr] at hh
    exact absurd (hh worker hw (hdone worker hw)) (by simp)
  active := rfl
  activeConfiguration := rfl
  halted := by simp
  configuration := by simp

/-! ## Steps of the call -/

theorem owned_cases {w : SessionWorld α τ} (h : w.Ownership) (ho : w.owned = false) :
    w.session.active = false ∧ w.joinable = false ∧ unconfirmedStart w.backend = none := by
  obtain ⟨ha, hj⟩ := owned_eq_false.mp ho
  refine ⟨ha, hj, ?_⟩
  rw [h.backend, ha]
  rfl

/-- A step that moves only the program counter and the records of the call. -/
theorem Ownership.moved {w t : SessionWorld α τ} (h : w.Ownership)
    (hsession : t.session = w.session) (htiming : t.timing = w.timing)
    (hprepared : t.prepared = w.prepared) (hbackend : t.backend = w.backend)
    (hterminated : t.terminated = w.terminated) (hjoin : aboutToJoin w.pc = false)
    (hlaunch : launching w.pc = false ∨ launching t.pc = true) (hpc : t.AtPc t.pc) :
    t.Ownership where
  backend := by rw [hbackend, hsession]; exact h.backend
  worker := by
    unfold joinable
    rw [hsession]
    intro hj
    exact (h.worker hj).imp_right fun hc => by rw [hjoin] at hc; cases hc
  running := by
    unfold joinable
    rw [hsession]
    intro hr
    rcases h.running hr with hj | hl
    · exact .inl hj
    · rcases hlaunch with hn | hy
      · rw [hn] at hl; cases hl
      · exact .inr hy
  halted := by rw [hsession]; exact h.halted
  configuration := by rw [hsession]; exact h.configuration
  snapshot := by
    unfold owned joinable
    rw [hsession, htiming, hprepared]
    exact h.snapshot
  terminated := hterminated.trans h.terminated
  atPc := hpc

/-- A step on the session alone that the worker could have taken, and then to the next counter. -/
theorem Ownership.calmed {w : SessionWorld α τ} (h : w.Ownership) {s : RxStreamSession α}
    (hs : Calmer w.session s) {t : SessionWorld α τ} (hsession : t.session = s)
    (htiming : t.timing = w.timing) (hprepared : t.prepared = w.prepared)
    (hbackend : t.backend = w.backend) (hterminated : t.terminated = w.terminated)
    (hjoin : aboutToJoin w.pc = false) (hlaunch : launching w.pc = false ∨ launching t.pc = true)
    (hpc : t.AtPc t.pc) : t.Ownership :=
  (h.calmer hs w.fallbacks).moved hsession htiming hprepared hbackend hterminated hjoin hlaunch hpc

theorem Ownership.entered {w : SessionWorld α τ} (h : w.Ownership) (hfree : w.pc = .free)
    (call : LifecycleCall τ) : (w.enter call).Ownership := by
  refine h.moved rfl rfl rfl rfl rfl (by rw [hfree]; rfl) (.inl (by rw [hfree]; rfl)) ?_
  cases call with
  | activate c => exact .inl ⟨rfl, rfl⟩
  | activateConfigured p => exact (rfl : ([] : List Effect) = [])
  | configureInactive => exact (rfl : ([] : List Effect) = [])
  | deactivate onPps => trivial
  | shutdown => trivial

theorem Ownership.started {w : SessionWorld α τ} (h : w.Ownership) {c : RxSessionConfiguration}
    {prepare : Option (Prepare τ)} (hpc : w.pc = .starting c prepare)
    (result : Except Exception ℤ) : (w.started c prepare result).Ownership := by
  have hat : w.AtPc (.starting c prepare) := hpc ▸ h.atPc
  obtain ⟨ha, hj, hu⟩ := owned_cases h hat.1
  have hback : ∀ b, unconfirmedStart (w.backend ++ [BackendCall.start c.handle c.onPps b]) =
      if startSucceeded b then some c.handle else none := by
    intro b
    rw [unconfirmedStart_append, hu]
    rfl
  have hr : w.session.running = false := by
    by_contra hr
    rcases h.running (by simpa using hr) with hj' | hl
    · rw [hj] at hj'; cases hj'
    · rw [hpc] at hl; cases hl
  -- A start that fails leaves the session as it was.
  have hkeep : ∀ b outcome, startSucceeded b = false → (∀ e, outcome ≠ .rejected e) →
      (∀ e, outcome ≠ .invalid e) →
      ({ w with backend := w.backend ++ [BackendCall.start c.handle c.onPps b] }.leave .activate
        outcome : SessionWorld α τ).Ownership := by
    intro b outcome hb hrej hinv
    exact
      { backend := by
          change unconfirmedStart (w.backend ++ [BackendCall.start c.handle c.onPps b]) =
            if w.session.active = true then some w.session.activeConfiguration.handle else none
          rw [hback, hb, ha]
          rfl
        worker := fun hj' => by rw [show w.joinable = true from hj'] at hj; cases hj
        running := fun hr' => by rw [show w.session.running = true from hr'] at hr; cases hr
        halted := h.halted
        configuration := h.configuration
        snapshot := h.snapshot
        terminated := h.terminated
        atPc := by
          refine ⟨fun o ho => ?_, fun kind e ho => ?_, fun kind e ho => ?_⟩
          · cases ho
          · cases ho; exact absurd rfl (hrej e)
          · cases ho; exact absurd rfl (hinv e) }
  unfold SessionWorld.started
  cases result with
  | error e => exact hkeep _ _ rfl (by simp) (by simp)
  | ok status =>
    simp only
    split
    · rename_i hne
      exact hkeep _ _ (by simp [startSucceeded, hne]) (by simp) (by simp)
    · rename_i hz
      have hz : status = 0 := not_not.mp hz
      exact
        { backend := by
            simp only [hback, startSucceeded, hz]
            rfl
          worker := fun _ => .inl rfl
          running := fun hr' => by rw [show w.session.running = true from hr'] at hr; cases hr
          halted := h.halted
          configuration := by
            intro worker hw
            exact absurd (show w.joinable = true by simp [joinable, show w.session.receiveThread = _ from hw])
              (by simp [hj])
          snapshot := fun p hp _ => hat.2 p hp
          terminated := h.terminated
          atPc := ⟨rfl, hj, rfl⟩ }

/-- A stop of the owned handle, on the way to the counter `pc`. -/
theorem Ownership.stopped {w : SessionWorld α τ} (h : w.Ownership) (hactive : w.session.active = true)
    (hrunning : w.session.running = false) {handle : UInt32} (onPps : Bool)
    (result : Except Exception ℤ) {t : SessionWorld α τ}
    (hsession : t.session = (w.stopped handle onPps result).session)
    (htiming : t.timing = w.timing) (hprepared : t.prepared = w.prepared)
    (hbackend : t.backend = (w.stopped handle onPps result).backend)
    (hterminated : t.terminated = w.terminated)
    (hjoin : w.joinable = false ∨ aboutToJoin t.pc = true) (hpc : t.AtPc t.pc) : t.Ownership where
  backend := by
    rw [hbackend, hsession]
    simp only [SessionWorld.stopped, unconfirmedStart_append, h.backend, hactive, confirm]
    cases released result <;> rfl
  worker := by
    unfold joinable
    rw [hsession]
    intro hj
    rcases hjoin with hn | hy
    · rw [show w.joinable = true from hj] at hn; cases hn
    · exact .inr hy
  running := by
    rw [hsession]
    intro hr
    rw [show w.session.running = true from hr] at hrunning
    cases hrunning
  halted := by rw [hsession]; exact h.halted
  configuration := by rw [hsession]; exact h.configuration
  snapshot := by
    rw [hsession, htiming, hprepared]
    intro p hp _
    exact h.snapshot p hp (by simp [owned, hactive])
  terminated := hterminated.trans h.terminated
  atPc := hpc

theorem Ownership.createThread {w : SessionWorld α τ} (h : w.Ownership)
    {c : RxSessionConfiguration} (hpc : w.pc = .createThread c) :
    (w.createThread c none).Ownership := by
  obtain ⟨ha, hj, hc⟩ : w.AtPc (.createThread c) := hpc ▸ h.atPc
  exact
    { backend := h.backend
      worker := fun _ => .inl ha
      running := fun _ => .inl rfl
      halted := by
        intro worker hw hh
        cases hw
        cases hh
      configuration := by
        intro worker hw
        cases hw
        exact hc.symm
      snapshot := fun p hp _ => h.snapshot p hp (by simp [owned, ha])
      terminated := by simp [SessionWorld.createThread, leave, h.terminated, hj]
      atPc := ⟨fun o ho => (by cases ho), fun kind e ho => (by cases ho),
        fun kind e ho => (by cases ho)⟩ }

theorem Ownership.deactivated {w : SessionWorld α τ} (h : w.Ownership)
    (hrunning : w.session.running = false) (hjoinable : w.joinable = false)
    (result : Except Exception ℤ) (quiet : Bool) : (w.deactivated result quiet).Ownership := by
  -- Whatever the result, only the records of the call change.
  have hleave : ∀ (fallbacks : List Fallback) (kind : CallKind) (outcome : Outcome),
      (∀ e, outcome ≠ .rejected e) → (∀ e, outcome ≠ .invalid e) →
      ({ w with fallbacks := fallbacks }.leave kind outcome : SessionWorld α τ).Ownership := by
    intro fallbacks kind outcome hrej hinv
    exact
      { backend := h.backend
        worker := fun hj => by rw [show w.joinable = true from hj] at hjoinable; cases hjoinable
        running := fun hr => by
          rw [show w.session.running = true from hr] at hrunning; cases hrunning
        halted := h.halted
        configuration := h.configuration
        snapshot := h.snapshot
        terminated := h.terminated
        atPc := by
          refine ⟨fun _ _ => ⟨hrunning, hjoinable⟩, fun kind e ho => ?_, fun kind e ho => ?_⟩
          · cases ho; exact absurd rfl (hrej e)
          · cases ho; exact absurd rfl (hinv e) }
  unfold SessionWorld.deactivated
  cases result with
  | ok status => exact hleave w.fallbacks _ _ (by simp) (by simp)
  | error e =>
    cases quiet with
    | true => exact hleave _ _ _ (by simp) (by simp)
    | false => exact hleave w.fallbacks _ _ (by simp) (by simp)

theorem Ownership.joining {w t : SessionWorld α τ} (h : w.Ownership)
    {result : Except Exception ℤ} {quiet : Bool} (hpc : w.pc = .joining result quiet)
    (hj : w.joined = some t) : (t.deactivated result quiet).Ownership := by
  have hrunning : w.session.running = false := (hpc ▸ h.atPc : w.AtPc (.joining result quiet))
  obtain ⟨rfl, hdone⟩ := joined_cases hj
  exact (h.calmer (.joined hdone h.halted) w.fallbacks).deactivated hrunning rfl result quiet

/-- The queue may change, and `running_` may be cleared. -/
theorem Ownership.calmer_queue {w : SessionWorld α τ} (h : w.Ownership) (queue : RxSampleQueue α)
    (running : Bool) (hr : running = true → w.session.running = true) :
    Calmer w.session { w.session with queue := queue, running := running } where
  thread := id
  running := fun h => ⟨hr h, id⟩
  active := rfl
  activeConfiguration := rfl
  halted := by
    intro worker hw hh
    have hfalse := h.halted worker hw hh
    by_contra hc
    have := hr (by simpa using hc)
    rw [hfalse] at this
    cases this
  configuration := fun worker hw => ⟨worker, hw, rfl⟩

theorem Ownership.leave {w : SessionWorld α τ} (h : w.Ownership) (hjoin : aboutToJoin w.pc = false)
    (hlaunch : launching w.pc = false) (kind : CallKind) (outcome : Outcome)
    (hkind : kind ≠ .deactivate) (hrej : ∀ e, outcome = .rejected e → w.effects = [])
    (hinv : ∀ e, outcome = .invalid e → Effect.start ∉ w.effects ∧ .stop ∉ w.effects) :
    (w.leave kind outcome).Ownership := by
  refine h.moved rfl rfl rfl rfl rfl hjoin (.inl hlaunch) ⟨fun o ho => ?_, fun k e ho => ?_, fun k e ho => ?_⟩
  · cases ho; exact absurd rfl hkind
  · cases ho; exact hrej e rfl
  · cases ho; exact hinv e rfl

/-- `running_` is cleared, on the way to a counter that knows it. -/
theorem Ownership.cleared {w : SessionWorld α τ} (h : w.Ownership) {pc : LifecyclePc τ}
    (hjoin : aboutToJoin w.pc = false)
    (hpc : ({ w with session := { w.session with running := false } } : SessionWorld α τ).AtPc pc) :
    ({ w with session := { w.session with running := false } }.goto pc :
      SessionWorld α τ).Ownership where
  backend := h.backend
  worker := fun hj => (h.worker hj).imp_right fun hc => by rw [hjoin] at hc; cases hc
  running := fun hr => by cases hr
  halted := fun _ _ _ => rfl
  configuration := h.configuration
  snapshot := h.snapshot
  terminated := h.terminated
  atPc := by cases pc <;> exact hpc

/-- A session that nobody owns may change its timing. -/
theorem Ownership.configured {w : SessionWorld α τ} (h : w.Ownership) (hpc : w.pc = .configuring)
    (timing : τ) (thrown : Option Exception) :
    ({ w with timing := timing }.leave .configure
      (match thrown with | some e => .threw e | none => .returned 0) :
      SessionWorld α τ).Ownership := by
  have ho : w.owned = false := (hpc ▸ h.atPc : w.AtPc .configuring)
  obtain ⟨ha, hj, -⟩ := owned_cases h ho
  exact
    { backend := h.backend
      worker := fun hj' => by rw [show w.joinable = true from hj'] at hj; cases hj
      running := fun hr => by
        rcases h.running hr with hj' | hl
        · exact .inl hj'
        · rw [hpc] at hl; cases hl
      halted := h.halted
      configuration := h.configuration
      snapshot := fun p _ howned => by rw [show w.owned = true from howned] at ho; cases ho
      terminated := h.terminated
      atPc := by
        refine ⟨fun o ho => (by cases ho), fun kind e ho => ?_, fun kind e ho => ?_⟩
        · cases thrown <;> cases ho
        · cases thrown <;> cases ho }

theorem Ownership.lifecycle {w t : SessionWorld α τ} (h : w.Ownership)
    {input : LifecycleInput τ} (hstep : w.lifecycleStep input = some t) : t.Ownership := by
  have hat := h.atPc
  unfold lifecycleStep at hstep
  split at hstep
  case h_1 p hpc =>
    rw [hpc] at hat
    split at hstep
    · cases hstep
      exact h.leave (by rw [hpc]; rfl) (by rw [hpc]; rfl) _ _ (by simp) (fun _ _ => hat) (by simp)
    · rename_i hno
      cases hstep
      have ho : w.owned = false := by simpa using hno
      refine h.moved rfl rfl rfl rfl rfl (by rw [hpc]; rfl) (.inl (by rw [hpc]; rfl)) ⟨ho, ?_⟩
      exact congrArg (· ++ [Effect.prepare]) hat
  case h_2 p hpc =>
    rw [hpc] at hat
    split at hstep
    · cases hstep
      exact h.leave (by rw [hpc]; rfl) (by rw [hpc]; rfl) _ _ (by simp) (by simp) (by simp)
    · rename_i c hc
      cases hstep
      exact h.moved rfl rfl rfl rfl rfl (by rw [hpc]; rfl) (.inl (by rw [hpc]; rfl))
        (.inr ⟨p, rfl, hc, hat.1, hat.2⟩)
  case h_3 hpc =>
    rw [hpc] at hat
    split at hstep
    · cases hstep
      exact h.leave (by rw [hpc]; rfl) (by rw [hpc]; rfl) _ _ (by simp) (fun _ _ => hat) (by simp)
    · rename_i hno
      cases hstep
      exact h.moved rfl rfl rfl rfl rfl (by rw [hpc]; rfl) (.inl (by rw [hpc]; rfl))
        (show w.owned = false by simpa using hno)
  case h_4 timing thrown hpc =>
    cases hstep
    exact h.configured hpc timing thrown
  case h_5 c prepare hpc =>
    rw [hpc] at hat
    split at hstep
    · cases hstep
      refine h.leave (by rw [hpc]; rfl) (by rw [hpc]; rfl) _ _ (by simp) (by simp) (fun e _ => ?_)
      rcases hat with ⟨-, he⟩ | ⟨-, -, -, -, he⟩
      · simp [he]
      · simp [he]
    · split at hstep
      · rename_i howned
        cases hstep
        refine h.leave (by rw [hpc]; rfl) (by rw [hpc]; rfl) _ _ (by simp) (fun e _ => ?_) (by simp)
        rcases hat with ⟨-, he⟩ | ⟨-, -, -, ho, -⟩
        · exact he
        · rw [ho] at howned; cases howned
      · rename_i hno
        cases hstep
        have ho : w.owned = false := by simpa using hno
        refine h.moved rfl rfl rfl rfl rfl (by rw [hpc]; rfl) (.inl (by rw [hpc]; rfl)) ⟨ho, ?_⟩
        rcases hat with ⟨hn, -⟩ | ⟨p, hp, hc, -, -⟩
        · simp [hn]
        · intro q hq
          rw [hp, Option.some.injEq] at hq
          rw [← hq]
          exact hc
  case h_6 c prepare result hpc =>
    cases hstep
    exact h.started hpc result
  case h_7 c hpc =>
    rw [hpc] at hat
    cases hstep
    exact h.calmed (h.calmer_queue w.session.queue.start w.session.running id) rfl rfl rfl rfl rfl
      (by rw [hpc]; rfl) (.inl (by rw [hpc]; rfl)) hat
  case h_8 c hpc =>
    rw [hpc] at hat
    cases hstep
    have hnone : w.session.receiveThread = none := by simpa [joinable] using hat.2.1
    exact
      { backend := h.backend
        worker := fun _ => .inl hat.1
        running := fun _ => .inr rfl
        halted := fun worker hw => by rw [show w.session.receiveThread = _ from hw] at hnone; cases hnone
        configuration := h.configuration
        snapshot := h.snapshot
        terminated := h.terminated
        atPc := hat }
  case h_9 c hpc =>
    cases hstep
    exact h.createThread hpc
  case h_10 c e hpc =>
    rw [hpc] at hat
    cases hstep
    exact h.moved rfl rfl rfl rfl rfl (by rw [hpc]; rfl) (.inr rfl) hat
  case h_11 c e hpc =>
    rw [hpc] at hat
    cases hstep
    exact h.cleared (by rw [hpc]; rfl) ⟨hat.1, hat.2.1, hat.2.2, rfl⟩
  case h_12 c e hpc =>
    rw [hpc] at hat
    cases hstep
    exact h.calmed (h.calmer_queue w.session.queue.reset w.session.running id) rfl rfl rfl rfl rfl
      (by rw [hpc]; rfl) (.inl (by rw [hpc]; rfl)) hat
  case h_13 c e result hpc =>
    rw [hpc] at hat
    cases hstep
    exact h.stopped hat.1 hat.2.2.2 false result rfl rfl rfl rfl rfl (.inl hat.2.1)
      ⟨fun o ho => (by cases ho), fun kind e ho => (by cases ho), fun kind e ho => (by cases ho)⟩
  case h_14 onPps quiet hpc =>
    split at hstep
    · rename_i hno
      cases hstep
      have hj : w.joinable = false := (owned_eq_false.mp (by simpa using hno)).2
      refine h.deactivated ?_ hj _ quiet
      by_contra hr
      rcases h.running (Bool.eq_true_of_not_eq_false hr) with hj' | hl
      · rw [hj] at hj'; cases hj'
      · rw [hpc] at hl; cases hl
    · cases hstep
      exact h.moved rfl rfl rfl rfl rfl (by rw [hpc]; rfl) (.inl (by rw [hpc]; rfl)) trivial
  case h_15 onPps quiet hpc =>
    cases hstep
    exact h.cleared (by rw [hpc]; rfl) rfl
  case h_16 onPps quiet hpc =>
    rw [hpc] at hat
    have hc := h.calmer_queue w.session.queue.stop w.session.running id
    simp only at hstep
    split at hstep
    · rename_i hactive
      cases hstep
      exact h.calmed hc rfl rfl rfl rfl rfl (by rw [hpc]; rfl) (.inl (by rw [hpc]; rfl))
        ⟨hactive, hat⟩
    · cases hstep
      exact h.calmed hc rfl rfl rfl rfl rfl (by rw [hpc]; rfl) (.inl (by rw [hpc]; rfl)) hat
  case h_17 onPps quiet result hpc =>
    rw [hpc] at hat
    cases hstep
    exact h.stopped hat.1 hat.2 onPps result rfl rfl rfl rfl rfl (.inr rfl) hat.2
  case h_18 result quiet hpc =>
    obtain ⟨u, hu, rfl⟩ := Option.map_eq_some_iff.mp hstep
    exact h.joining hpc hu
  case h_19 => cases hstep

theorem Ownership.fallback {w t : SessionWorld α τ} (h : w.Ownership) {index : ℕ}
    (hstep : w.fallbackStep index = some t) : t.Ownership := by
  unfold fallbackStep at hstep
  split at hstep
  · cases hstep
  · cases hstep
    exact h.calmer (h.calmer_queue w.session.queue false (by simp)) _
  · cases hstep
    exact h.calmer (h.calmer_queue w.session.queue.stop w.session.running id) _
  · obtain ⟨u, hu, rfl⟩ := Option.map_eq_some_iff.mp hstep
    obtain ⟨rfl, hdone⟩ := joined_cases hu
    exact h.calmer (.joined hdone h.halted) _

theorem Ownership.next {arith : Arithmetic} {w t : SessionWorld α τ} (h : w.Ownership)
    (a : SessionAction α τ) (hstep : w.next arith a = some t) : t.Ownership := by
  cases a with
  | call call =>
    simp only [SessionWorld.next] at hstep
    split at hstep
    · rename_i hfree
      cases hstep
      exact h.entered hfree call
    · cases hstep
  | lifecycle input => exact h.lifecycle hstep
  | worker incoming =>
    simp only [SessionWorld.next] at hstep
    split at hstep
    · cases hstep
    · rename_i worker hw
      obtain ⟨s, hs, rfl⟩ := Option.map_eq_some_iff.mp hstep
      exact h.calmer (workerStep_calmer hw (h.halted worker hw) hs) w.fallbacks
  | fallback index => exact h.fallback hstep
  | read output requested timeoutUs =>
    cases hstep
    exact h.calmer (h.calmer_queue _ w.session.running id) w.fallbacks

end SessionWorld

end SoapySidekiq
