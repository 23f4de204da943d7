import SoapySidekiq.Rx.Backend
import SoapySidekiq.Rx.Conservation

/-! # From the SDK to the reader

The whole receive path: what `skiq_receive` returns goes through the backend, the worker and the queue
to the readers, while lifecycle calls, the end of a failed `shutdown` and the readers run beside the
worker. The queue of a session changes by sections of the queue only, so its ledger stays balanced; the
blocks in the ledger are those of the packets that the worker has received. -/
set_option autoImplicit false

namespace SoapySidekiq
open Transition
variable {τ : Type}

/-! ## The pipeline -/

/-- An action on the session whose worker receives what the backend makes of a return of the SDK, and
whose readers bring a buffer with room for their request. -/
inductive PipelineAction (τ : Type) where
  | call (call : LifecycleCall τ)
  | lifecycle (input : LifecycleInput τ)
  | worker (incoming : Except Exception SdkReceive)
  | fallback (index : ℕ)
  | read (output : Option (List Int16)) (requested : ℕ) (timeoutUs : ℤ)
      (room : ∀ out, output = some out → requested * 2 ≤ out.length)

def PipelineAction.onSession (codes : SdkReceiveCodes) : PipelineAction τ → SessionAction Int16 τ
  | .call c => .call c
  | .lifecycle input => .lifecycle input
  | .worker incoming => .worker (incoming.map (SidekiqRxBackend.receive codes))
  | .fallback index => .fallback index
  | .read output requested timeoutUs _ => .read output requested timeoutUs

/-- The session beside the ledger of its queue, the configuration with which the queue was started, and
the returns of the SDK that the worker has received since. -/
structure RxPipeline (τ : Type) where
  world : SessionWorld Int16 τ
  ledger : Session Int16
  configuration : RxSessionConfiguration
  packets : List SdkReceive

namespace RxPipeline

def observed (p : RxPipeline τ) : Observed Int16 := ⟨p.world.session.queue, p.ledger⟩

/-- The section of the queue that an action runs, if it runs one. -/
def queueOp (p : RxPipeline τ) : PipelineAction τ → Option (QueueOp Int16)
  | .call _ => none
  | .lifecycle _ =>
    match p.world.pc with
    | .startQueue _ => some .start
    | .rollbackQueue _ _ => some .reset
    | .stopQueue _ _ => some .stop
    | _ => none
  | .worker _ =>
    match p.world.session.receiveThread with
    | none => none
    | some worker =>
      match worker.pc with
      | .push samples timestamp =>
        some (.push (.vector samples) (.ticks timestamp worker.frequency) worker.configuration.sampleRate)
      | .storeQueue => some .fail
      | _ => none
  | .fallback index =>
    match p.world.fallbacks[index]? with
    | some .stopQueue => some .stop
    | _ => none
  | .read output requested timeoutUs room => some (.read output requested timeoutUs room)

/-- The configuration with which an action starts the queue. -/
def starts (p : RxPipeline τ) : PipelineAction τ → Option RxSessionConfiguration
  | .lifecycle _ =>
    match p.world.pc with
    | .startQueue configuration => some configuration
    | _ => none
  | _ => none

/-- The return of the SDK that the worker receives. -/
def received (p : RxPipeline τ) : PipelineAction τ → List SdkReceive
  | .worker (.ok packet) =>
    match p.world.session.receiveThread with
    | none => []
    | some worker =>
      match worker.pc with
      | .receiving => [packet]
      | _ => []
  | _ => []

def observe (arith : Arithmetic) (p : RxPipeline τ) (a : PipelineAction τ) : Observed Int16 :=
  match p.queueOp a with
  | none => p.observed
  | some op => p.observed.step arith op

def next (arith : Arithmetic) (codes : SdkReceiveCodes) (p : RxPipeline τ) (a : PipelineAction τ) :
    Option (RxPipeline τ) :=
  (p.world.next arith (a.onSession codes)).map fun world =>
    match p.starts a with
    | some configuration => ⟨world, (p.observe arith a).session, configuration, []⟩
    | none => ⟨world, (p.observe arith a).session, p.configuration, p.packets ++ p.received a⟩

/-- The pipeline of a new session. -/
def create (world : SessionWorld Int16 τ) : RxPipeline τ :=
  ⟨world, .empty, world.session.activeConfiguration, []⟩

/-! ## The session refines the queue -/

variable {arith : Arithmetic} {codes : SdkReceiveCodes} {p q : RxPipeline τ}

theorem joined_queue {w w' : SessionWorld Int16 τ} (h : w.joined = some w') :
    w'.session.queue = w.session.queue := by
  unfold SessionWorld.joined at h
  split at h
  · cases h; rfl
  · split at h <;> cases h
    rfl

theorem deactivated_queue (w : SessionWorld Int16 τ) (result : Except Exception ℤ) (quiet : Bool) :
    (w.deactivated result quiet).session = w.session := by
  unfold SessionWorld.deactivated
  cases result with
  | ok status => rfl
  | error e => dsimp only; split <;> rfl

theorem started_queue (w : SessionWorld Int16 τ) (c : RxSessionConfiguration)
    (prepare : Option (Prepare τ)) (result : Except Exception ℤ) :
    (w.started c prepare result).session.queue = w.session.queue := by
  unfold SessionWorld.started
  cases result with
  | error e => rfl
  | ok status => dsimp only; split <;> rfl

theorem processResult_queue (s : RxStreamSession Int16) (w : Worker Int16)
    (result : RxReceiveResult Int16) : (s.processResult w result).queue = s.queue := by
  unfold RxStreamSession.processResult
  cases result.status with
  | success => dsimp only; split <;> [skip; split] <;> rfl
  | _ => rfl

/-- A lifecycle step changes the queue by the section that it runs. -/
theorem lifecycle_queue {input : LifecycleInput τ} {w : SessionWorld Int16 τ}
    (h : p.world.lifecycleStep input = some w) :
    w.session.queue = (p.observe arith (.lifecycle input)).queue := by
  unfold observe queueOp observed
  unfold SessionWorld.lifecycleStep at h
  split at h
  case h_1 _ hpc | h_2 _ hpc | h_3 hpc =>
    simp only [hpc]
    split at h <;> cases h <;> rfl
  case h_5 c prepare hpc =>
    simp only [hpc]
    split at h
    · cases h; rfl
    · split at h <;> cases h <;> rfl
  case h_6 c prepare result hpc =>
    simp only [hpc]
    cases h
    exact started_queue _ _ _ _
  case h_14 onPps quiet hpc =>
    simp only [hpc]
    split at h <;> cases h
    · rw [deactivated_queue]
    · rfl
  case h_16 onPps quiet hpc =>
    simp only [hpc]
    dsimp only at h
    split at h <;> cases h <;> rfl
  case h_18 result quiet hpc =>
    simp only [hpc]
    obtain ⟨w', hjoined, rfl⟩ := Option.map_eq_some_iff.mp h
    rw [deactivated_queue]
    exact joined_queue hjoined
  case h_19 => cases h
  all_goals
    rename_i hpc
    simp only [hpc]
    cases h
    rfl

theorem worker_queue {worker : Worker Int16} (hworker : p.world.session.receiveThread = some worker)
    {incoming : Except Exception SdkReceive} {s : RxStreamSession Int16}
    (h : p.world.session.workerStep arith worker (incoming.map (SidekiqRxBackend.receive codes)) =
      some s) : s.queue = (p.observe arith (.worker incoming)).queue := by
  unfold observe queueOp observed
  simp only [hworker]
  unfold RxStreamSession.workerStep at h
  cases hpc : worker.pc <;> simp only [hpc] at h ⊢
  case receiving => cases incoming <;> cases h <;> rfl
  case process result =>
    cases h
    exact processResult_queue _ _ _
  case push samples timestamp =>
    simp only [Observed.step, RxSampleQueue.perform, RxSampleQueue.pushOf]
    split at h
    all_goals
      rename_i hpush
      cases h
      rw [hpush]
      rfl
  case finished => cases h
  all_goals
    cases h
    rfl

theorem fallback_queue {index : ℕ} {w : SessionWorld Int16 τ} (h : p.world.fallbackStep index = some w) :
    w.session.queue = (p.observe arith (.fallback index)).queue := by
  unfold observe queueOp observed
  unfold SessionWorld.fallbackStep at h
  split at h
  · cases h
  · next hfallback => simp only [hfallback]; cases h; rfl
  · next hfallback => simp only [hfallback]; cases h; rfl
  · next hfallback =>
    simp only [hfallback]
    obtain ⟨w', hjoined, rfl⟩ := Option.map_eq_some_iff.mp h
    exact (joined_queue hjoined : w'.session.queue = _)

/-- Every step of the session is a section of its queue, or leaves the queue alone. -/
theorem next_observed {a : PipelineAction τ} (h : p.next arith codes a = some q) :
    q.observed = p.observe arith a := by
  obtain ⟨w, hw, hq⟩ := Option.map_eq_some_iff.mp h
  have hqueue : w.session.queue = (p.observe arith a).queue := by
    cases a with
    | call call =>
      simp only [PipelineAction.onSession, SessionWorld.next] at hw
      split at hw <;> cases hw
      rfl
    | lifecycle input => exact lifecycle_queue hw
    | worker incoming =>
      simp only [PipelineAction.onSession, SessionWorld.next] at hw
      split at hw
      · cases hw
      · next worker hworker =>
        obtain ⟨s, hs, rfl⟩ := Option.map_eq_some_iff.mp hw
        exact worker_queue hworker hs
    | fallback index => exact fallback_queue hw
    | read output requested timeoutUs room =>
      cases hw
      rfl
  cases hstarts : p.starts a <;> simp only [hstarts] at hq <;> subst hq <;>
    simp only [observed, hqueue]

theorem consistent_next {capacity : ℕ} {a : PipelineAction τ} (h : Consistent arith capacity p.observed)
    (hnext : p.next arith codes a = some q) : Consistent arith capacity q.observed := by
  rw [next_observed hnext, observe]
  cases p.queueOp a with
  | none => exact h
  | some op => exact h.step op

/-! ## What the packets carry -/

/-- The push that a packet leads to: a well-formed packet of the configured handle and size, whose
timestamp fits. -/
def carried (codes : SdkReceiveCodes) (c : RxSessionConfiguration) (packet : SdkReceive) :
    Option (Pushed Int16) :=
  match c.wellFormed (.ok (SidekiqRxBackend.receive codes packet)) with
  | none => none
  | some result =>
    if c.overflows result then none
    else some ⟨result.samples, .ticks (c.selectedTimestamp result) c.selectedClock, c.sampleRate⟩

/-- The blocks of the ledger are those of the packets, up to the one that the worker is busy with. -/
def AtWorker (codes : SdkReceiveCodes) (p : RxPipeline τ) : WorkerPc Int16 → Prop
  | .loop | .receiving | .storeError _ | .storeFailed | .storeStopped | .storeQueue =>
    p.world.session.queue.running = true →
      p.ledger.blocks = p.packets.filterMap (carried codes p.configuration)
  | .received result | .process result =>
    ∃ before packet, p.packets = before ++ [packet] ∧ result = SidekiqRxBackend.receive codes packet ∧
      (p.world.session.queue.running = true →
        p.ledger.blocks = before.filterMap (carried codes p.configuration))
  | .push samples timestamp =>
    ∃ before packet result, p.packets = before ++ [packet] ∧
      p.configuration.wellFormed (.ok (SidekiqRxBackend.receive codes packet)) = some result ∧
      samples = result.samples ∧ timestamp = p.configuration.selectedTimestamp result ∧
      (p.world.session.queue.running = true →
        p.ledger.blocks = before.filterMap (carried codes p.configuration))
  | .finished => True

/-- What an activation has prepared for its worker. -/
def Launch (p : RxPipeline τ) : LifecyclePc τ → Prop
  | .starting c _ | .startQueue c => c.check = none
  | .setRunning c | .createThread c =>
    c.check = none ∧ p.configuration = c ∧ p.packets = [] ∧ p.ledger.blocks = []
  | _ => True

/-- The ledger has the blocks of a beginning of the packets, and while the queue runs of all of them
that the worker is done with. -/
structure Fed (codes : SdkReceiveCodes) (p : RxPipeline τ) : Prop where
  taken : ∃ taken, taken <+: p.packets ∧
    p.ledger.blocks = taken.filterMap (carried codes p.configuration)
  launch : p.Launch p.world.pc
  worker : ∀ worker, p.world.session.receiveThread = some worker →
    worker.configuration = p.configuration ∧ worker.configuration.check = none ∧
      p.AtWorker codes worker.pc

theorem Launch.congr {pc : LifecyclePc τ} (h : p.Launch pc)
    (hconfiguration : q.configuration = p.configuration) (hpackets : q.packets = p.packets)
    (hblocks : q.ledger.blocks = p.ledger.blocks) : q.Launch pc := by
  cases pc with
  | setRunning | createThread =>
    obtain ⟨hcheck, hc, hnone, hempty⟩ := h
    exact ⟨hcheck, hconfiguration.trans hc, hpackets.trans hnone, hblocks.trans hempty⟩
  | _ => exact h

theorem read_blocks (arith : Arithmetic) (st : Observed Int16) (output : Option (List Int16))
    (requested : ℕ) (timeoutUs : ℤ)
    (room : ∀ out, output = some out → requested * 2 ≤ out.length) :
    (st.step arith (.read output requested timeoutUs room)).session.blocks = st.session.blocks := by
  simp only [Observed.step, Observed.record]
  split <;> rfl

theorem fed_create {capacity : ℕ} {timing : τ} {w : SessionWorld Int16 τ}
    (h : SessionWorld.create capacity timing = .ok w) : (create w).Fed codes := by
  unfold SessionWorld.create at h
  cases hq : (RxSampleQueue.create capacity : Except Exception (RxSampleQueue Int16)) with
  | error e => rw [hq] at h; cases h
  | ok queue =>
    rw [hq] at h
    cases h
    exact ⟨⟨[], List.nil_prefix, rfl⟩, trivial, by simp [create]⟩

/-! ## Steps beside the worker -/

/-- A step that keeps the thread, the packets and the blocks, and does not set the queue running. -/
theorem Fed.kept (h : p.Fed codes) {w : SessionWorld Int16 τ} {ledger : Session Int16}
    (hthread : w.session.receiveThread = p.world.session.receiveThread)
    (hrunning : w.session.queue.running = true → p.world.session.queue.running = true)
    (hblocks : ledger.blocks = p.ledger.blocks)
    (hlaunch : ({ p with world := w, ledger := ledger } : RxPipeline τ).Launch w.pc) :
    Fed codes { p with world := w, ledger := ledger } := by
  obtain ⟨taken, hprefix, htaken⟩ := h.taken
  refine ⟨⟨taken, hprefix, hblocks.trans htaken⟩, hlaunch, fun worker hworker => ?_⟩
  obtain ⟨hconfiguration, hcheck, hat⟩ := h.worker worker (hthread ▸ hworker)
  refine ⟨hconfiguration, hcheck, ?_⟩
  cases hpc : worker.pc with
  | loop | receiving | storeError | storeFailed | storeStopped | storeQueue =>
    rw [hpc] at hat
    exact fun hrun => hblocks.trans (hat (hrunning hrun))
  | received | process =>
    rw [hpc] at hat
    obtain ⟨before, packet, h₁, h₂, h₃⟩ := hat
    exact ⟨before, packet, h₁, h₂, fun hrun => hblocks.trans (h₃ (hrunning hrun))⟩
  | push =>
    rw [hpc] at hat
    obtain ⟨before, packet, result, h₁, h₂, h₃, h₄, h₅⟩ := hat
    exact ⟨before, packet, result, h₁, h₂, h₃, h₄, fun hrun => hblocks.trans (h₅ (hrunning hrun))⟩
  | finished => trivial

/-- A step that leaves no worker. -/
theorem Fed.threadless (h : p.Fed codes) {w : SessionWorld Int16 τ} {ledger : Session Int16}
    (hthread : w.session.receiveThread = none)
    (hblocks : ledger.blocks = p.ledger.blocks ∨ ledger.blocks = [])
    (hlaunch : ({ p with world := w, ledger := ledger } : RxPipeline τ).Launch w.pc) :
    Fed codes { p with world := w, ledger := ledger } := by
  refine ⟨?_, hlaunch, fun worker hworker => ?_⟩
  · obtain ⟨taken, hprefix, htaken⟩ := h.taken
    rcases hblocks with hblocks | hblocks
    · exact ⟨taken, hprefix, hblocks.trans htaken⟩
    · exact ⟨[], List.nil_prefix, hblocks⟩
  · rw [show w.session.receiveThread = none from hthread] at hworker
    cases hworker

theorem deactivated_launch {w : SessionWorld Int16 τ} {ledger : Session Int16}
    {result : Except Exception ℤ} {quiet : Bool} :
    ({ p with world := w.deactivated result quiet, ledger := ledger } : RxPipeline τ).Launch
      (w.deactivated result quiet).pc := by
  unfold SessionWorld.deactivated
  cases result with
  | ok status => trivial
  | error e => dsimp only; split <;> trivial

theorem joined_thread {w w' : SessionWorld Int16 τ} (h : w.joined = some w') :
    w'.session.receiveThread = none := by
  unfold SessionWorld.joined at h
  split at h
  · next hnone => cases h; exact hnone
  · split at h <;> cases h
    rfl

/-- What a lifecycle step leaves. -/
def afterLifecycle (arith : Arithmetic) (p : RxPipeline τ) (input : LifecycleInput τ)
    (w : SessionWorld Int16 τ) : RxPipeline τ :=
  match p.starts (.lifecycle input) with
  | some configuration => ⟨w, (p.observe arith (.lifecycle input)).session, configuration, []⟩
  | none => ⟨w, (p.observe arith (.lifecycle input)).session, p.configuration, p.packets⟩

theorem Fed.lifecycle (h : p.Fed codes) (hs : p.world.Ownership) {input : LifecycleInput τ}
    {w : SessionWorld Int16 τ} (hstep : p.world.lifecycleStep input = some w) :
    Fed codes (p.afterLifecycle arith input w) := by
  have hat := hs.atPc
  have hlaunch := h.launch
  unfold afterLifecycle starts observe queueOp
  unfold SessionWorld.lifecycleStep at hstep
  split at hstep
  case h_1 _ hpc | h_2 _ hpc | h_3 hpc =>
    simp only [hpc]
    split at hstep <;> cases hstep <;> exact h.kept rfl id rfl trivial
  case h_4 timing thrown hpc =>
    simp only [hpc]
    cases hstep
    exact h.kept rfl id rfl trivial
  case h_5 c prepare hpc =>
    simp only [hpc]
    split at hstep
    · cases hstep
      exact h.kept rfl id rfl trivial
    · next hcheck =>
      split at hstep <;> cases hstep
      · exact h.kept rfl id rfl trivial
      · exact h.kept rfl id rfl hcheck
  case h_6 c prepare result hpc =>
    rw [hpc] at hlaunch
    simp only [hpc]
    cases hstep
    unfold SessionWorld.started
    cases result with
    | error e => exact h.kept rfl id rfl trivial
    | ok status =>
      dsimp only
      split
      · exact h.kept rfl id rfl trivial
      · exact h.kept rfl id rfl hlaunch
  case h_7 c hpc =>
    rw [hpc] at hat hlaunch
    simp only [hpc]
    cases hstep
    refine ⟨⟨[], List.nil_prefix, rfl⟩, ⟨hlaunch, rfl, rfl, rfl⟩, fun worker hworker => ?_⟩
    have hjoin := hat.2.1
    dsimp only [SessionWorld.goto] at hworker
    rw [SessionWorld.joinable, hworker] at hjoin
    cases hjoin
  case h_8 c hpc =>
    rw [hpc] at hlaunch
    simp only [hpc]
    cases hstep
    exact h.kept rfl id rfl hlaunch
  case h_9 c hpc =>
    rw [hpc] at hlaunch
    simp only [hpc]
    cases hstep
    obtain ⟨hcheck, rfl, hpackets, hblocks⟩ := hlaunch
    refine ⟨h.taken, trivial, fun worker hworker => ?_⟩
    obtain rfl := Option.some.inj hworker
    exact ⟨rfl, hcheck, fun _ => by dsimp only [observed]; rw [hpackets, hblocks]; rfl⟩
  case h_12 c e hpc =>
    rw [hpc] at hat
    simp only [hpc]
    cases hstep
    have hnone : p.world.session.receiveThread = none := by simpa [SessionWorld.joinable] using hat.2.1
    exact h.threadless hnone (.inr rfl) trivial
  case h_14 onPps quiet hpc =>
    simp only [hpc]
    split at hstep <;> cases hstep
    · exact h.kept (by rw [deactivated_queue]) (by rw [deactivated_queue]; exact id) rfl deactivated_launch
    · exact h.kept rfl id rfl trivial
  case h_16 onPps quiet hpc =>
    simp only [hpc]
    dsimp only at hstep
    split at hstep <;> cases hstep <;> exact h.kept rfl (fun hrun => by cases hrun) rfl trivial
  case h_18 result quiet hpc =>
    simp only [hpc]
    obtain ⟨w', hjoined, rfl⟩ := Option.map_eq_some_iff.mp hstep
    exact h.threadless (by rw [deactivated_queue]; exact joined_thread hjoined) (.inl rfl)
      deactivated_launch
  case h_19 => cases hstep
  all_goals
    rename_i hpc
    simp only [hpc]
    cases hstep
    exact h.kept rfl id rfl trivial

/-! ## Steps of the worker -/

/-- A step of the worker that leaves it at another place. -/
theorem Fed.turned (h : p.Fed codes) (hs : p.world.Ownership) {worker : Worker Int16}
    (hworker : p.world.session.receiveThread = some worker) {s : RxStreamSession Int16}
    {last : Option UInt64} {pc : WorkerPc Int16}
    (hthread : s.receiveThread = some ⟨worker.configuration, last, pc⟩) {ledger : Session Int16}
    {packets : List SdkReceive}
    (htaken : ∃ taken, taken <+: packets ∧
      ledger.blocks = taken.filterMap (carried codes p.configuration))
    (hat : (⟨{ p.world with session := s }, ledger, p.configuration, packets⟩ : RxPipeline τ).AtWorker
      codes pc) :
    Fed codes ⟨{ p.world with session := s }, ledger, p.configuration, packets⟩ := by
  obtain ⟨hconfiguration, hcheck, -⟩ := h.worker worker hworker
  refine ⟨htaken, ?_, fun other hother => ?_⟩
  · have hlaunch := h.launch
    have hatPc := hs.atPc
    have hjoin : p.world.joinable = true := by simp [SessionWorld.joinable, hworker]
    dsimp only
    generalize p.world.pc = pc at hlaunch hatPc ⊢
    cases pc with
    | setRunning | createThread => simp [hatPc.2.1] at hjoin
    | _ => exact hlaunch
  · obtain rfl := Option.some.inj (hthread.symm.trans hother)
    exact ⟨hconfiguration, hcheck, hat⟩

theorem Fed.taken_more (h : p.Fed codes) (more : List SdkReceive) : ∃ taken, taken <+: p.packets ++ more ∧
    p.ledger.blocks = taken.filterMap (carried codes p.configuration) := by
  obtain ⟨taken, hprefix, htaken⟩ := h.taken
  exact ⟨taken, hprefix.trans (List.prefix_append _ _), htaken⟩

theorem filterMap_snoc_none {before : List SdkReceive} {packet : SdkReceive}
    {c : RxSessionConfiguration} (h : carried codes c packet = none) :
    (before ++ [packet]).filterMap (carried codes c) = before.filterMap (carried codes c) := by
  simp [List.filterMap_append, h]

theorem carried_none {packet : SdkReceive} {c : RxSessionConfiguration}
    (h : c.wellFormed (.ok (SidekiqRxBackend.receive codes packet)) = none) :
    carried codes c packet = none := by
  rw [carried, h]

theorem Fed.processed (h : p.Fed codes) (hs : p.world.Ownership) {last : Option UInt64}
    {result : RxReceiveResult Int16}
    (hworker : p.world.session.receiveThread = some ⟨p.configuration, last, .process result⟩) :
    Fed codes ⟨{ p.world with
      session := p.world.session.processResult ⟨p.configuration, last, .process result⟩ result },
      p.ledger, p.configuration, p.packets⟩ := by
  obtain ⟨-, -, before, packet, hpackets, rfl, hblocks⟩ := h.worker _ hworker
  -- A packet that carries nothing is done with.
  have hdone : p.configuration.wellFormed (.ok (SidekiqRxBackend.receive codes packet)) = none →
      p.world.session.queue.running = true →
      p.ledger.blocks = p.packets.filterMap (carried codes p.configuration) := by
    intro hnone hrun
    rw [hpackets, filterMap_snoc_none (carried_none hnone)]
    exact hblocks hrun
  unfold RxStreamSession.processResult
  cases hstatus : (SidekiqRxBackend.receive codes packet).status with
  | noData | overrun | error =>
    refine h.turned hs hworker rfl h.taken ?_
    exact hdone (by simp [RxSessionConfiguration.wellFormed, hstatus])
  | success =>
    dsimp only
    by_cases hhandle : (SidekiqRxBackend.receive codes packet).handle = p.configuration.handle
    · rw [if_neg (not_not.mpr hhandle)]
      by_cases hsize : (SidekiqRxBackend.receive codes packet).samples.size =
          p.configuration.blockSamples * 2
      · rw [if_neg (not_not.mpr hsize)]
        refine h.turned hs hworker rfl h.taken ?_
        refine ⟨before, packet, _, hpackets, ?_, rfl, rfl, hblocks⟩
        simp [RxSessionConfiguration.wellFormed, hstatus, hhandle, hsize]
      · rw [if_pos hsize]
        refine h.turned hs hworker rfl h.taken ?_
        exact hdone (by simp [RxSessionConfiguration.wellFormed, hsize])
    · rw [if_pos hhandle]
      refine h.turned hs hworker rfl h.taken ?_
      exact hdone (by simp [RxSessionConfiguration.wellFormed, hhandle])

/-- The section in which the worker pushes the block of a packet. -/
def pushOp (c : RxSessionConfiguration) (result : RxReceiveResult Int16) : QueueOp Int16 :=
  .push (.vector result.samples) (.ticks (c.selectedTimestamp result) c.selectedClock) c.sampleRate

theorem push_running (arith : Arithmetic) (st : Observed Int16) (source : Source Int16) (stamp : Stamp)
    (sampleRate : TimestampRate) :
    (st.step arith (.push source stamp sampleRate)).queue.running = st.queue.running ∧
      (st.queue.running = false → st.step arith (.push source stamp sampleRate) = st) := by
  rcases st.step_push arith source stamp sampleRate with
    ⟨hs, -⟩ | ⟨v, b, -, -, -, hrun, -, ⟨-, hs⟩ | ⟨-, hs⟩⟩
  · exact ⟨by rw [hs], fun _ => hs⟩
  · exact ⟨by rw [hs], fun hstopped => absurd (hrun.symm.trans hstopped) (by decide)⟩
  · exact ⟨by rw [hs], fun hstopped => absurd (hrun.symm.trans hstopped) (by decide)⟩

/-- A running queue accepts the block of a packet that carries one. -/
theorem push_blocks {c : RxSessionConfiguration} (hc : c.check = none) {packet : SdkReceive}
    {result : RxReceiveResult Int16}
    (hwf : c.wellFormed (.ok (SidekiqRxBackend.receive codes packet)) = some result)
    {st : Observed Int16} (hst : st.queue.WellFormed) (hrun : st.queue.running = true) :
    (st.step arith (pushOp c result)).session.blocks =
      st.session.blocks ++ (carried codes c packet).toList := by
  obtain ⟨hsize, hrate, hclock⟩ := RxSessionConfiguration.check_cases hc
  obtain ⟨-, -, -, hwords⟩ := RxSessionConfiguration.wellFormed_some hwf
  have hok : st.queue.failed = false := by
    cases hfailed : st.queue.failed with
    | false => rfl
    | true => exact absurd ⟨hrun, hfailed⟩ hst.exclusive
  have hconvert := c.selectedClock.convert_eq arith hclock (c.selectedTimestamp result)
  simp only [pushOp, Observed.step, Observed.record, RxSampleQueue.perform, RxSampleQueue.pushOf,
    RxSampleQueue.pushTicks, Source.vector?, carried, hwf, RxSessionConfiguration.overflows]
  by_cases hfits : c.selectedClock.floorNs (c.selectedTimestamp result).toNat ≤ int64Max
  · rw [if_pos hfits] at hconvert
    simp only [hconvert, decide_eq_true_eq, if_neg (Nat.not_lt.mpr hfits)]
    have hcase := RxSampleQueue.pushWithPhase_cases st.queue result.samples
      (c.selectedClock.floorNs (c.selectedTimestamp result).toNat) c.sampleRate
      (UInt64.ofNat (c.selectedClock.scaledTicks (c.selectedTimestamp result).toNat %
        c.selectedClock.numerator.toNat)) c.selectedClock.numerator
    generalize st.queue.pushWithPhase _ _ _ _ _ = outcome at hcase ⊢
    cases hcase with
    | invalid e hinvalid =>
      simp only [RxSampleQueue.newBlock] at hinvalid
      rcases hinvalid with hzero | hodd | hinvalid
      · omega
      · omega
      · simp [hrate] at hinvalid
    | stopped hstopped => simp [hrun, hok] at hstopped
    | dropped | accepted => rfl
  · rw [if_neg hfits] at hconvert
    simp [hconvert, Except.map, Nat.lt_of_not_le hfits]

theorem Fed.pushed (h : p.Fed codes) (hs : p.world.Ownership)
    (hqueue : p.world.session.queue.WellFormed) {last : Option UInt64}
    {samples : SampleVector Int16} {timestamp : UInt64} {incoming : ReceiveEnd Int16}
    (hworker : p.world.session.receiveThread = some ⟨p.configuration, last, .push samples timestamp⟩)
    {s : RxStreamSession Int16} {op : QueueOp Int16}
    (hop : op = .push (.vector samples) (.ticks timestamp p.configuration.selectedClock)
      p.configuration.sampleRate)
    (hstep : p.world.session.workerStep arith ⟨p.configuration, last, .push samples timestamp⟩ incoming =
      some s) (hsqueue : s.queue = (p.observed.step arith op).queue) :
    Fed codes ⟨{ p.world with session := s }, (p.observed.step arith op).session, p.configuration,
      p.packets⟩ := by
  obtain ⟨-, hcheck, before, packet, result, hpackets, hwf, rfl, rfl, hblocks⟩ := h.worker _ hworker
  obtain ⟨hsame, hstopped⟩ := push_running arith p.observed (.vector result.samples)
    (.ticks (p.configuration.selectedTimestamp result) p.configuration.selectedClock)
    p.configuration.sampleRate
  have hledger : p.world.session.queue.running = true →
      (p.observed.step arith op).session.blocks =
        p.packets.filterMap (carried codes p.configuration) := by
    intro hrun
    rw [hop]
    refine (push_blocks hcheck hwf hqueue hrun).trans ?_
    rw [show p.observed.session.blocks = _ from hblocks hrun, hpackets, List.filterMap_append]
    cases hcarried : carried codes p.configuration packet <;> simp [hcarried]
  have htaken : ∃ taken, taken <+: p.packets ∧ (p.observed.step arith op).session.blocks =
      taken.filterMap (carried codes p.configuration) := by
    cases hrun : p.world.session.queue.running with
    | true => exact ⟨p.packets, List.prefix_rfl, hledger hrun⟩
    | false =>
      rw [hop, hstopped hrun]
      exact h.taken
  have hdone : s.queue.running = true → (p.observed.step arith op).session.blocks =
      p.packets.filterMap (carried codes p.configuration) := by
    intro hrun
    rw [hsqueue, hop, hsame] at hrun
    exact hledger hrun
  simp only [RxStreamSession.workerStep] at hstep
  split at hstep
  all_goals
    cases hstep
    refine h.turned hs hworker rfl htaken ?_
    exact hdone

theorem Fed.stepped (h : p.Fed codes) (hs : p.world.Ownership)
    (hqueue : p.world.session.queue.WellFormed) {worker : Worker Int16}
    (hworker : p.world.session.receiveThread = some worker) {incoming : Except Exception SdkReceive}
    {s : RxStreamSession Int16}
    (hstep : p.world.session.workerStep arith worker (incoming.map (SidekiqRxBackend.receive codes)) =
      some s) :
    Fed codes ⟨{ p.world with session := s }, (p.observe arith (.worker incoming)).session,
      p.configuration, p.packets ++ p.received (.worker incoming)⟩ := by
  have hsqueue := worker_queue hworker hstep
  obtain ⟨c, last, pc⟩ := worker
  obtain ⟨hconfiguration, hcheck, hat⟩ := h.worker _ hworker
  obtain rfl : c = p.configuration := hconfiguration
  -- Only a call of `receive` that returns adds a packet.
  have hreceived : (∀ packet, incoming = .ok packet → pc ≠ .receiving) →
      p.packets ++ p.received (.worker incoming) = p.packets := by
    intro hpc
    unfold received
    cases incoming with
    | error e => exact List.append_nil _
    | ok packet => cases pc <;> simp [hworker] at hpc ⊢
  cases pc with
  | push samples timestamp =>
    rw [hreceived (by simp)]
    unfold observe queueOp at hsqueue ⊢
    simp only [hworker] at hsqueue ⊢
    exact h.pushed hs hqueue hworker rfl hstep hsqueue
  | process result =>
    rw [hreceived (by simp)]
    unfold observe queueOp
    simp only [hworker]
    cases hstep
    exact h.processed hs hworker
  | receiving =>
    unfold observe queueOp
    simp only [hworker]
    cases incoming with
    | error e =>
      rw [hreceived (by simp)]
      cases hstep
      refine h.turned hs hworker rfl h.taken ?_
      exact hat
    | ok packet =>
      cases hstep
      have hpacket : p.received (.worker (.ok packet)) = [packet] := by simp [received, hworker]
      rw [hpacket]
      refine h.turned hs hworker rfl (h.taken_more _) ?_
      exact ⟨p.packets, packet, rfl, rfl, hat⟩
  | loop =>
    rw [hreceived (by simp)]
    unfold observe queueOp
    simp only [hworker]
    cases hstep
    refine h.turned hs hworker rfl h.taken ?_
    split
    · exact hat
    · trivial
  | received result =>
    rw [hreceived (by simp)]
    unfold observe queueOp
    simp only [hworker]
    cases hstep
    refine h.turned hs hworker rfl h.taken ?_
    split
    · exact hat
    · trivial
  | storeQueue =>
    rw [hreceived (by simp)]
    unfold observe queueOp
    simp only [hworker]
    cases hstep
    refine h.turned hs hworker rfl h.taken ?_
    trivial
  | storeError | storeFailed | storeStopped =>
    rw [hreceived (by simp)]
    unfold observe queueOp
    simp only [hworker]
    cases hstep
    refine h.turned hs hworker rfl h.taken ?_
    exact hat
  | finished => cases hstep

theorem Fed.next (h : p.Fed codes) (hs : p.world.Ownership) {capacity : ℕ}
    (hqueue : Consistent arith capacity p.observed) {a : PipelineAction τ}
    (hnext : p.next arith codes a = some q) : q.Fed codes := by
  obtain ⟨w, hw, rfl⟩ := Option.map_eq_some_iff.mp hnext
  cases a with
  | call call =>
    simp only [PipelineAction.onSession, SessionWorld.next] at hw
    split at hw
    · cases hw
      simp only [starts, observe, queueOp, received, List.append_nil]
      exact h.kept rfl id rfl (by cases call <;> trivial)
    · cases hw
  | lifecycle input =>
    simp only [received, List.append_nil]
    exact h.lifecycle hs hw
  | worker incoming =>
    simp only [PipelineAction.onSession, SessionWorld.next] at hw
    split at hw
    · cases hw
    · next worker hworker =>
      obtain ⟨s, hstep, rfl⟩ := Option.map_eq_some_iff.mp hw
      exact h.stepped hs hqueue.wellFormed hworker hstep
  | fallback index =>
    have hlaunch := h.launch
    simp only [PipelineAction.onSession, SessionWorld.next, SessionWorld.fallbackStep] at hw
    simp only [starts, observe, queueOp, received, List.append_nil]
    split at hw
    · cases hw
    · next hfallback =>
      simp only [hfallback]
      cases hw
      exact h.kept rfl id rfl hlaunch
    · next hfallback =>
      simp only [hfallback]
      cases hw
      exact h.kept rfl (fun hrun => by cases hrun) rfl hlaunch
    · next hfallback =>
      simp only [hfallback]
      obtain ⟨w', hjoined, rfl⟩ := Option.map_eq_some_iff.mp hw
      have hpc : w'.pc = p.world.pc := by
        unfold SessionWorld.joined at hjoined
        split at hjoined
        · cases hjoined; rfl
        · split at hjoined <;> cases hjoined
          rfl
      refine h.threadless (joined_thread hjoined : w'.session.receiveThread = none) (.inl rfl) ?_
      exact (show p.Launch w'.pc from hpc ▸ hlaunch).congr rfl rfl rfl
  | read output requested timeoutUs room =>
    cases hw
    simp only [starts, observe, queueOp, received, List.append_nil]
    obtain ⟨hrunning, -⟩ :=
      RxSampleQueue.read_flags arith p.world.session.queue output requested timeoutUs
    have hblocks := read_blocks arith p.observed output requested timeoutUs room
    exact h.kept rfl (fun hrun => hrunning ▸ hrun) hblocks (Launch.congr h.launch rfl rfl hblocks)

/-! ## The contract -/

/-- The IQ pairs of a return of the SDK that are meant for the reader: those of a successful one from the
configured handle, with the bytes of the header and of a whole block, whose timestamp in nanoseconds fits
into 64 bits. -/
def payload (codes : SdkReceiveCodes) (c : RxSessionConfiguration) (packet : SdkReceive) :
    List (Int16 × Int16) :=
  match packet.block with
  | none => []
  | some block =>
    let timestamp := if c.useRfTimestamp then block.rfTimestamp else block.sysTimestamp
    if packet.status = codes.success ∧ packet.handle = c.handle ∧
      packet.length.toNat = codes.headerBytes.toNat + 4 * c.blockSamples ∧
      c.selectedClock.floorNs timestamp.toNat ≤ int64Max then block.pairs c.blockSamples
    else []

theorem carried_payload (codes : SdkReceiveCodes) (c : RxSessionConfiguration) (packet : SdkReceive) :
    (carried codes c packet).toList.flatMap (fun pushed => pushed.samples.iqPairs) =
      payload codes c packet := by
  by_cases hwf : ∃ block, packet.WellFormed codes c.blockSamples block
  · obtain ⟨block, hwf⟩ := hwf
    obtain ⟨samples, hreceive, hsize, hpairs⟩ := SidekiqRxBackend.receive_success hwf
    simp only [carried, payload, hwf.block, RxSessionConfiguration.wellFormed, hreceive, hsize,
      hwf.status, hwf.length, true_and, and_true, RxSessionConfiguration.overflows,
      RxSessionConfiguration.selectedTimestamp]
    by_cases hhandle : packet.handle = c.handle
    · simp only [hhandle, if_true, true_and]
      by_cases hfits : c.selectedClock.floorNs
          (if c.useRfTimestamp then block.rfTimestamp else block.sysTimestamp).toNat ≤ int64Max
      · rw [if_pos hfits, if_neg (by simpa using hfits)]
        simp [hpairs]
      · rw [if_neg hfits, if_pos (by simpa using hfits)]
        rfl
    · simp [hhandle]
  · have hcarried : carried codes c packet = none := by
      refine carried_none ?_
      by_contra hne
      obtain ⟨result, hresult⟩ := Option.ne_none_iff_exists'.mp hne
      obtain ⟨hok, hstatus, -, hsize⟩ := RxSessionConfiguration.wellFormed_some hresult
      cases hok
      exact hwf (SidekiqRxBackend.receive_wellFormed hstatus hsize)
    rw [hcarried, payload]
    split
    · rfl
    · next block hblock =>
      rw [if_neg fun hall => hwf ⟨block, hall.1, hblock, hall.2.2.1⟩]
      rfl

/-- What holds between the SDK and the readers since the queue was last started. -/
structure Contract (codes : SdkReceiveCodes) (p : RxPipeline τ) : Prop where
  /-- Each pair that entered the queue has been delivered, or discarded with its block, or is queued. -/
  conserved : Conserved p.observed
  /-- What entered the queue is the payload of a beginning of what the SDK has returned. -/
  entered : ∃ taken, taken <+: p.packets ∧
    p.ledger.pushedPairs = taken.flatMap (payload codes p.configuration)
  /-- A worker between two packets has lost nothing while the queue runs. -/
  complete : ∀ worker, p.world.session.receiveThread = some worker →
    worker.pc = .loop ∨ worker.pc = .receiving → p.world.session.queue.running = true →
      p.ledger.pushedPairs = p.packets.flatMap (payload codes p.configuration)
  /-- The readers together get pairs of the payload in its order, each at most once. -/
  inOrder : (p.ledger.ledger.ofFate .delivered).flatten.Sublist
    (p.packets.flatMap (payload codes p.configuration))

theorem pushedPairs_payload {c : RxSessionConfiguration} {packets : List SdkReceive}
    {ledger : Session Int16} (h : ledger.blocks = packets.filterMap (carried codes c)) :
    ledger.pushedPairs = packets.flatMap (payload codes c) := by
  rw [Session.pushedPairs, h]
  clear h
  induction packets with
  | nil => rfl
  | cons packet packets ih =>
    rw [List.flatMap_cons, ← ih, ← carried_payload]
    cases hcarried : carried codes c packet <;> simp [hcarried]

theorem Fed.contract {capacity : ℕ} (h : p.Fed codes) (hqueue : Consistent arith capacity p.observed) :
    p.Contract codes where
  conserved := hqueue.conserved
  entered := by
    obtain ⟨taken, hprefix, htaken⟩ := h.taken
    exact ⟨taken, hprefix, pushedPairs_payload htaken⟩
  complete := by
    intro worker hworker hpc hrun
    obtain ⟨-, -, hat⟩ := h.worker worker hworker
    rcases hpc with hpc | hpc <;> rw [hpc] at hat <;> exact pushedPairs_payload (hat hrun)
  inOrder := by
    obtain ⟨taken, ⟨rest, hrest⟩, htaken⟩ := h.taken
    have hsub : (taken.flatMap (payload codes p.configuration)).Sublist
        (p.packets.flatMap (payload codes p.configuration)) := by
      rw [← hrest, List.flatMap_append]
      exact List.sublist_append_left _ _
    exact hqueue.conserved.inOrder.trans (pushedPairs_payload htaken ▸ hsub)

/-- In every run of a session, with any lifecycle calls, failures, packets and readers. -/
theorem rx_pipeline_conserves (arith : Arithmetic) (codes : SdkReceiveCodes) {capacity : ℕ} {timing : τ}
    {w : SessionWorld Int16 τ} (hcreate : SessionWorld.create capacity timing = .ok w)
    {actions : List (PipelineAction τ)} {p : RxPipeline τ}
    (hrun : run (next arith codes) (create w) actions = some p) : p.Contract codes := by
  have hconsistent : Consistent arith capacity (create w).observed := by
    unfold SessionWorld.create at hcreate
    cases hqueue : (RxSampleQueue.create capacity : Except Exception (RxSampleQueue Int16)) with
    | error e => rw [hqueue] at hcreate; cases hcreate
    | ok queue =>
      rw [hqueue] at hcreate
      cases hcreate
      exact Consistent.of_create arith hqueue
  obtain ⟨-, hqueue, hfed⟩ := run_invariant
    (I := fun p : RxPipeline τ => p.world.Ownership ∧ Consistent arith capacity p.observed ∧ p.Fed codes)
    (fun p a q ⟨hs, hqueue, hfed⟩ hnext => ⟨by
      obtain ⟨v, hv, rfl⟩ := Option.map_eq_some_iff.mp hnext
      cases p.starts a <;> exact hs.next _ hv, consistent_next hqueue hnext, hfed.next hs hqueue hnext⟩)
    ⟨.create hcreate, hconsistent, fed_create hcreate⟩ hrun
  exact hfed.contract hqueue

/-! ### A slow reader -/

/-- A new session with two blocks. -/
def twoBlockSession : SessionWorld Int16 Unit :=
  { session := ⟨⟨2, [], false, false, 0⟩, none, false, false, 0, 0, 0,
      ⟨0, 0, .ofFrequency 0, 0, true, false⟩, false⟩
    pc := .free
    fallbacks := []
    timing := ()
    prepared := none
    backend := []
    effects := []
    outcome := none
    terminated := false }

def sampleCodes : SdkReceiveCodes := ⟨0, 1, 2, 24, by decide, by decide⟩

/-- A packet of two pairs. -/
def samplePacket (handle : UInt32) (first : Int16) : SdkReceive :=
  ⟨0, handle, some ⟨0, 0, fun i => first + Int16.ofNat i⟩, 32⟩

/-- A queue of two blocks; one pair is read before it is full, and a packet of another handle and a
malformed one come in between. -/
def slowReader : List (PipelineAction Unit) :=
  let take (steps : ℕ) (packet : SdkReceive) : List (PipelineAction Unit) :=
    List.replicate steps (.worker (.ok packet))
  [.call (.activate ⟨7, 2, .ofFrequency 1000000, 40000000, true, false⟩), .lifecycle .proceed,
    .lifecycle (.backend (.ok 0)), .lifecycle .proceed, .lifecycle .proceed, .lifecycle .proceed] ++
  take 5 (samplePacket 7 10) ++ [.read (some [0, 0]) 1 0 (by simp)] ++ take 5 (samplePacket 7 20) ++
  take 4 (samplePacket 8 30) ++ take 5 (samplePacket 7 40) ++ take 8 { samplePacket 7 50 with length := 30 }

theorem rx_pipeline_conserves_slow_reader :
    ∃ p, run (next .int128 sampleCodes) (create twoBlockSession) slowReader = some p ∧
      p.Contract sampleCodes ∧
      p.ledger.ledger.pieces = [(.delivered, [(10, 11)]), (.discarded, [(12, 13)])] ∧
      p.ledger.pushedPairs = [(10, 11), (12, 13), (20, 21), (22, 23), (40, 41), (42, 43)] := by
  have hcreate : SessionWorld.create 2 () = .ok twoBlockSession := rfl
  obtain ⟨p, hrun, hchecks⟩ := Option.map_eq_some_iff.mp (show
    (run (next .int128 sampleCodes) (create twoBlockSession) slowReader).map (fun p =>
      decide (p.ledger.ledger.pieces = [(.delivered, [(10, 11)]), (.discarded, [(12, 13)])] ∧
        p.ledger.pushedPairs = [(10, 11), (12, 13), (20, 21), (22, 23), (40, 41), (42, 43)])) = some true
    by decide +kernel)
  exact ⟨p, hrun, rx_pipeline_conserves .int128 sampleCodes hcreate hrun, of_decide_eq_true hchecks⟩

end RxPipeline

end SoapySidekiq
