import SoapySidekiq.Rx.Device
import SoapySidekiq.Rx.QueueRun
import SoapySidekiq.Rx.SessionInvariant

/-! # Which activation a returned sample comes from

The queue outlives the tokens: only its start clears it. Everything queued, and everything that the
worker holds, was received through the setup that last started the queue. -/
set_option autoImplicit false

namespace SoapySidekiq
open Interleaved Transition RxSampleQueue
variable {α τ δ φ : Type}

/-! ## Where the samples of a session come from -/

def WorkerPc.pending : WorkerPc α → List α
  | .received result | .process result => result.samples.data
  | .push samples _ => samples.data
  | _ => []

/-- Every component that is queued or in the worker's hands is a `P`. -/
structure Provenance (P : α → Prop) (s : RxStreamSession α) : Prop where
  wellFormed : s.queue.WellFormed
  queued : ∀ b ∈ s.queue.blocks, ∀ c ∈ b.samples.data, P c
  pending : ∀ worker, s.receiveThread = some worker → ∀ c ∈ worker.pc.pending, P c

theorem readLoop_samples (requested : ℕ) (blocks : List (Block α)) (samples : ℕ) (output : List α) :
    ∀ b ∈ (readLoop requested blocks samples output).1, ∃ b' ∈ blocks, b.samples = b'.samples := by
  induction blocks generalizing samples output with
  | nil => intro b hb; cases hb
  | cons front rest ih =>
    intro b hb
    unfold RxSampleQueue.readLoop at hb
    split at hb
    · simp only at hb
      split at hb
      · obtain ⟨b', hb', hs⟩ := ih _ _ b hb
        exact ⟨b', List.mem_cons_of_mem _ hb', hs⟩
      · rcases List.mem_cons.mp hb with rfl | hb
        · exact ⟨front, List.mem_cons_self, rfl⟩
        · exact ⟨b, List.mem_cons_of_mem _ hb, rfl⟩
    · exact ⟨b, hb, rfl⟩

namespace Provenance
variable {P : α → Prop} {s t : RxStreamSession α}

/-- A step that leaves the queue alone and gives the worker nothing new. -/
theorem of_queue_eq (h : Provenance P s) (hq : t.queue = s.queue)
    (hp : ∀ worker, t.receiveThread = some worker → ∀ c ∈ worker.pc.pending, P c) :
    Provenance P t := by
  refine ⟨?_, ?_, hp⟩
  · rw [hq]; exact h.wellFormed
  · rw [hq]; exact h.queued

/-- An emptied queue without a worker holds nothing. -/
theorem of_empty {Q : α → Prop} (hcap : 0 < s.queue.capacityBlocks)
    (hthread : s.receiveThread = none) :
    Provenance Q ({ s with queue := s.queue.start } : RxStreamSession α) where
  wellFormed := { WellFormedBlocks.nil with
    capacity_pos := hcap
    bounded := Nat.zero_le _
    exclusive := by simp [RxSampleQueue.start] }
  queued := by simp [RxSampleQueue.start]
  pending := by simp [hthread]

theorem create {capacity : ℕ} {configuration : RxSessionConfiguration} :
    Provenance P ⟨⟨capacity + 1, [], false, false, 0⟩, none, false, false, 0, 0, 0, configuration,
      false⟩ where
  wellFormed := { WellFormedBlocks.nil with
    capacity_pos := Nat.succ_pos _
    bounded := Nat.zero_le _
    exclusive := by simp }
  queued := by simp
  pending := by simp

theorem pushTicks (arith : Arithmetic) {q : RxSampleQueue α} {samples : SampleVector α}
    (timestamp : UInt64) (frequency sampleRate : TimestampRate) (hwf : q.WellFormed)
    (hq : ∀ b ∈ q.blocks, ∀ c ∈ b.samples.data, P c) (hs : ∀ c ∈ samples.data, P c) :
    (RxSampleQueue.pushTicks arith q samples timestamp frequency sampleRate).2.WellFormed ∧
    ∀ b ∈ (RxSampleQueue.pushTicks arith q samples timestamp frequency sampleRate).2.blocks,
      ∀ c ∈ b.samples.data, P c := by
  have hcases := pushOf_vector arith q sampleRate samples (.ticks timestamp frequency)
  change (∃ e, RxSampleQueue.pushTicks arith q samples timestamp frequency sampleRate = _) ∨
    ∃ b, _ ∧ _ ∧ _ ∧
      PushCase q b (RxSampleQueue.pushTicks arith q samples timestamp frequency sampleRate) at hcases
  generalize RxSampleQueue.pushTicks arith q samples timestamp frequency sampleRate = r at hcases ⊢
  rcases hcases with ⟨e, rfl⟩ | ⟨b, hst, hoff, hphase, hcase⟩
  · exact ⟨hwf, hq⟩
  · refine ⟨hcase.wellFormed hwf hoff hphase, ?_⟩
    have hb : ∀ c ∈ b.samples.data, P c := by rw [hst.1]; exact hs
    cases hcase with
    | invalid => exact hq
    | stopped => exact hq
    | dropped =>
      intro b' hb'
      rcases List.mem_append.mp hb' with hb' | hb'
      · exact hq b' (List.mem_of_mem_tail hb')
      · rw [List.mem_singleton.mp hb']; exact hb
    | accepted =>
      intro b' hb'
      rcases List.mem_append.mp hb' with hb' | hb'
      · exact hq b' hb'
      · rw [List.mem_singleton.mp hb']; exact hb

theorem workerStep {arith : Arithmetic} {worker : Worker α}
    {incoming : Except Exception (RxReceiveResult α)} (h : Provenance P s)
    (hw : s.receiveThread = some worker)
    (hin : ∀ result, incoming = .ok result → ∀ c ∈ result.samples.data, P c)
    (hstep : s.workerStep arith worker incoming = some t) : Provenance P t := by
  have hpending := h.pending worker hw
  -- Where the worker's next counter holds nothing, only the queue has to be looked at.
  have hnothing : ∀ (s' : RxStreamSession α) (pc : WorkerPc α), s'.queue = s.queue →
      pc.pending = [] → Provenance P (s'.setThread (worker.goto pc)) := by
    intro s' pc hq hpc
    refine h.of_queue_eq hq fun worker' hw' c hc => ?_
    cases hw'
    rw [show (worker.goto pc).pc.pending = [] from hpc] at hc
    cases hc
  unfold RxStreamSession.workerStep at hstep
  cases hpc : worker.pc with
  | loop =>
    rw [hpc] at hstep
    cases hstep
    exact hnothing s _ rfl (by cases s.running <;> rfl)
  | receiving =>
    rw [hpc] at hstep
    cases incoming with
    | error e => cases hstep; exact hnothing s _ rfl rfl
    | ok result =>
      cases hstep
      refine h.of_queue_eq rfl fun worker' hw' => ?_
      cases hw'
      exact hin result rfl
  | received result =>
    rw [hpc] at hstep hpending
    cases hstep
    cases hr : s.running with
    | false => exact hnothing s .finished rfl rfl
    | true =>
      refine h.of_queue_eq rfl fun worker' hw' => ?_
      cases hw'
      exact hpending
  | process result =>
    rw [hpc] at hstep hpending
    cases hstep
    unfold RxStreamSession.processResult
    split
    · exact hnothing s _ rfl rfl
    · exact hnothing _ _ rfl rfl
    · exact hnothing s _ rfl rfl
    · split
      · exact hnothing s _ rfl rfl
      · split
        · exact hnothing s _ rfl rfl
        · refine h.of_queue_eq rfl fun worker' hw' => ?_
          cases hw'
          exact hpending
  | push samples timestamp =>
    rw [hpc] at hstep hpending
    obtain ⟨hwf, hq⟩ := pushTicks arith timestamp worker.frequency
      worker.configuration.sampleRate h.wellFormed h.queued hpending
    simp only at hstep
    split at hstep
    · rename_i e q heq
      rw [heq] at hwf hq
      cases hstep
      exact ⟨hwf, hq, fun worker' hw' c hc => by cases hw'; cases hc⟩
    · rename_i status q heq
      rw [heq] at hwf hq
      cases hstep
      exact ⟨hwf, hq, fun worker' hw' c hc => by cases hw'; cases hc⟩
  | storeError code => rw [hpc] at hstep; cases hstep; exact hnothing _ _ rfl rfl
  | storeFailed => rw [hpc] at hstep; cases hstep; exact hnothing _ _ rfl rfl
  | storeStopped => rw [hpc] at hstep; cases hstep; exact hnothing _ _ rfl rfl
  | storeQueue =>
    rw [hpc] at hstep
    cases hstep
    have hwf := h.wellFormed
    exact
      { wellFormed := { hwf with exclusive := by simp [RxSampleQueue.fail, RxStreamSession.setThread] }
        queued := h.queued
        pending := fun worker' hw' c hc => by cases hw'; cases hc }
  | finished => rw [hpc] at hstep; cases hstep

theorem read {arith : Arithmetic} {output : Option (List α)} {requested : ℕ} {timeoutUs : ℤ}
    (h : Provenance P s) (room : ∀ out, output = some out → requested * 2 ≤ out.length) :
    Provenance P { s with
      queue := (RxSampleQueue.read arith s.queue output requested timeoutUs).queue } := by
  have hc := read_cases arith s.queue output requested timeoutUs
  generalize RxSampleQueue.read arith s.queue output requested timeoutUs = r at hc ⊢
  cases hc with
  | failed e => exact h
  | nothing status hno => exact h
  | copied front rest out timeNs hblocks hout hreq htime =>
    have hl := readLoop_result requested s.queue.blocks 0 out h.wellFormed.toWellFormedBlocks
      (Nat.zero_le _) (room out hout)
    have hwf := h.wellFormed
    exact
      { wellFormed := { hl.wellFormed with
          capacity_pos := hwf.capacity_pos
          bounded := hl.shorter.trans hwf.bounded
          exclusive := hwf.exclusive }
        queued := by
          intro b hb c hc
          obtain ⟨b', hb', hsame⟩ := readLoop_samples requested s.queue.blocks 0 out b hb
          rw [hsame] at hc
          exact h.queued b' hb' c hc
        pending := h.pending }

theorem emptied (h : Provenance P s) (running failed : Bool)
    (hx : ¬ (running = true ∧ failed = true)) :
    Provenance P ({ s with queue := { s.queue with
      blocks := [], running := running, failed := failed, droppedBlocks := 0 } } :
      RxStreamSession α) where
  wellFormed := { WellFormedBlocks.nil with
    capacity_pos := h.wellFormed.capacity_pos
    bounded := Nat.zero_le _
    exclusive := hx }
  queued := by simp
  pending := h.pending

theorem stopped (h : Provenance P s) :
    Provenance P ({ s with queue := s.queue.stop } : RxStreamSession α) :=
  have hwf := h.wellFormed
  { wellFormed := { hwf with exclusive := by simp [RxSampleQueue.stop] }
    queued := h.queued
    pending := h.pending }

/-- No step of a lifecycle call but the start of the queue changes where the samples come from. -/
theorem lifecycleStep {w w' : SessionWorld α τ} {input : LifecycleInput τ}
    (h : Provenance P w.session) (hstep : w.lifecycleStep input = some w')
    (hpc : ∀ c, w.pc ≠ .startQueue c) : Provenance P w'.session := by
  have hsame : ∀ s' : RxStreamSession α, s'.queue = w.session.queue →
      s'.receiveThread = w.session.receiveThread → Provenance P s' := by
    intro s' hq ht
    exact h.of_queue_eq hq (by rw [ht]; exact h.pending)
  unfold SessionWorld.lifecycleStep at hstep
  split at hstep
  case h_1 => split at hstep <;> cases hstep <;> exact h
  case h_2 => split at hstep <;> cases hstep <;> exact h
  case h_3 => split at hstep <;> cases hstep <;> exact h
  case h_4 => cases hstep; exact h
  case h_5 =>
    split at hstep
    · cases hstep; exact h
    · split at hstep <;> cases hstep <;> exact h
  case h_6 c prepare result hw =>
    cases hstep
    unfold SessionWorld.started
    cases result with
    | error e => exact h
    | ok status =>
      simp only
      split
      · exact h
      · exact hsame _ rfl rfl
  case h_7 c hw => exact absurd hw (hpc c)
  case h_8 => cases hstep; exact hsame _ rfl rfl
  case h_9 =>
    cases hstep
    refine h.of_queue_eq rfl fun worker hw c hc => ?_
    cases hw
    cases hc
  case h_10 => cases hstep; exact h
  case h_11 => cases hstep; exact hsame _ rfl rfl
  case h_12 => cases hstep; exact h.emptied false false (by simp)
  case h_13 => cases hstep; exact hsame _ rfl rfl
  case h_14 => split at hstep <;> cases hstep <;> exact h
  case h_15 => cases hstep; exact hsame _ rfl rfl
  case h_16 =>
    simp only at hstep
    split at hstep <;> cases hstep <;> exact h.stopped
  case h_17 => cases hstep; exact hsame _ rfl rfl
  case h_18 result quiet hw =>
    obtain ⟨u, hu, rfl⟩ := Option.map_eq_some_iff.mp hstep
    obtain ⟨rfl, -⟩ := SessionWorld.joined_cases hu
    have hnone : Provenance P ({ w.session with receiveThread := none } : RxStreamSession α) :=
      h.of_queue_eq rfl (by simp)
    unfold SessionWorld.deactivated
    cases result with
    | ok status => exact hnone
    | error e => cases quiet <;> exact hnone
  case h_19 => cases hstep

/-- The start of the queue forgets everything that was received before. -/
theorem startQueue {Q : α → Prop} {w w' : SessionWorld α τ} {input : LifecycleInput τ}
    {c : RxSessionConfiguration} (h : Provenance P w.session) (ho : w.Ownership)
    (hstep : w.lifecycleStep input = some w') (hpc : w.pc = .startQueue c) :
    Provenance Q w'.session := by
  have hat : w.AtPc (.startQueue c) := hpc ▸ ho.atPc
  have hnone : w.session.receiveThread = none := by simpa [SessionWorld.joinable] using hat.2.1
  unfold SessionWorld.lifecycleStep at hstep
  rw [hpc] at hstep
  cases input with
  | proceed => cases hstep; exact of_empty h.wellFormed.capacity_pos hnone
  | _ => cases hstep

end Provenance

namespace RxDevice

/-! ## The invariant of the device -/

/-- Everything that the session holds was received through the setup that owns the queue. -/
structure Traced (d : RxDevice δ) : Prop where
  idle : d.call = .none → d.session.pc = .free
  ownership : d.session.Ownership
  provenance : Provenance (fun c => c.2 = d.owner) d.session.session

theorem Traced.create {card : UInt32} {rxHandles : List UInt32} {rxHeaderSize : ℕ} {iqSwap : Bool}
    {sysFreq : UInt64} {timing : RxTiming δ} {d : RxDevice δ}
    (h : RxDevice.create card rxHandles rxHeaderSize iqSwap sysFreq timing = .ok d) : d.Traced := by
  unfold RxDevice.create at h
  cases hw : (SessionWorld.create 64 timing : Except Exception (SessionWorld Received (RxTiming δ)))
    with
  | error e => rw [hw] at h; cases h
  | ok w =>
    rw [hw] at h
    cases h
    have hown := SessionWorld.Ownership.create hw
    cases hw
    exact ⟨fun _ => rfl, hown, .create⟩

/-- A call that does not enter the session. -/
theorem Traced.kept {d e : RxDevice δ} (h : d.Traced) (hcall : d.call = .none)
    (hsession : e.session = d.session) (howner : e.owner = d.owner) : e.Traced where
  idle := fun _ => hsession ▸ h.idle hcall
  ownership := hsession ▸ h.ownership
  provenance := by rw [hsession, howner]; exact h.provenance

theorem Traced.enter {d : RxDevice δ} (h : d.Traced) (hcall : d.call = .none) {call : RxCall}
    (hne : call ≠ .none) (inner : LifecycleCall (RxTiming δ)) : (d.enter call inner).Traced where
  idle := fun hc => absurd hc hne
  ownership := h.ownership.entered (h.idle hcall) inner
  provenance := h.provenance

theorem configureRx_kept (d : RxDevice δ) (format : StreamFormat) (channel : ℕ) (rxHandle : UInt32)
    (sdk : RxSetupResults) : (d.configureRx format channel rxHandle sdk).session = d.session ∧
      (d.configureRx format channel rxHandle sdk).owner = d.owner := by
  unfold configureRx
  split
  · exact ⟨rfl, rfl⟩
  simp only
  split
  · exact ⟨rfl, rfl⟩
  split
  · exact ⟨rfl, rfl⟩
  split
  · exact ⟨rfl, rfl⟩
  split
  · exact ⟨rfl, rfl⟩
  · split <;> exact ⟨rfl, rfl⟩

theorem setupStream_kept (d : RxDevice δ) (format : String) (channels : List ℕ) (args : List String)
    (sdk : RxSetupResults) : (d.setupStream format channels args sdk).session = d.session ∧
      (d.setupStream format channels args sdk).owner = d.owner := by
  unfold setupStream
  split
  · exact ⟨rfl, rfl⟩
  split
  · exact ⟨rfl, rfl⟩
  · split
    · exact ⟨rfl, rfl⟩
    · exact d.configureRx_kept _ _ _ sdk

theorem resume_kept (d : RxDevice δ) (outcome : Outcome) :
    (d.resume outcome).session = d.session ∧ (d.resume outcome).owner = d.owner := by
  unfold resume
  split
  · exact ⟨rfl, rfl⟩
  · split <;> exact ⟨rfl, rfl⟩
  · exact ⟨rfl, rfl⟩
  · split
    · exact ⟨rfl, rfl⟩
    · split <;> exact ⟨rfl, rfl⟩

theorem Traced.sessionStep {d e : RxDevice δ} (h : d.Traced) {input : LifecycleInput (RxTiming δ)}
    (hstep : d.sessionStep input = some e) : e.Traced := by
  obtain ⟨session, hs, rfl⟩ := Option.map_eq_some_iff.mp hstep
  refine ⟨fun hc => ?_, h.ownership.lifecycle hs, ?_⟩
  · -- A free session has no step, so a call is in progress.
    have hfree := h.idle hc
    unfold SessionWorld.lifecycleStep at hs
    rw [hfree] at hs
    cases hs
  · cases hpc : d.session.pc with
    | startQueue c => exact h.provenance.startQueue h.ownership hs hpc
    | _ => exact h.provenance.lifecycleStep hs (by simp [hpc])

theorem readStream_session (arith : Arithmetic) (toFloat : Int16 → φ) (d : RxDevice δ)
    (r : ReadRequest) : (d.readStream arith toFloat r).2 = d ∨
      (d.readStream arith toFloat r).2 = { d with session := { d.session with
        session := { d.session.session with
          queue := (RxSampleQueue.read arith d.session.session.queue (d.queueOutput r) r.numElems
            r.timeoutUs).queue } } } := by
  unfold readStream
  split
  · exact .inl rfl
  · right
    simp only
    split
    · rfl
    · split <;> rfl

theorem queueOutput_room (d : RxDevice δ) (r : ReadRequest) (out : List Received)
    (h : d.queueOutput r = some out) : r.numElems * 2 ≤ out.length := by
  unfold queueOutput at h
  split at h
  · cases h
  · split at h
    · exact r.room out h
    · cases h; simp

theorem Traced.next {arith : Arithmetic} {fromActualRate : δ → Except Exception TimestampRate}
    {toFloat : Int16 → φ} {d e : RxDevice δ} (h : d.Traced) (a : RxAction)
    (hstep : d.next arith fromActualRate toFloat a = some e) : e.Traced := by
  cases a with
  | setupStream format channels args sdk =>
    obtain ⟨hcall, he⟩ := Option.ite_none_right_eq_some.mp hstep
    cases he
    obtain ⟨hs, ho⟩ := d.setupStream_kept format channels args sdk
    exact h.kept hcall hs ho
  | activateStream stream flags timeNs numElems =>
    obtain ⟨hcall, he⟩ := Option.ite_none_right_eq_some.mp hstep
    cases he
    unfold RxDevice.activateStream
    split
    · exact h.kept hcall rfl rfl
    · split
      · exact h.kept hcall rfl rfl
      · exact h.enter hcall (by simp) _
  | deactivateStream stream flags timeNs =>
    obtain ⟨hcall, he⟩ := Option.ite_none_right_eq_some.mp hstep
    cases he
    unfold RxDevice.deactivateStream
    split
    · exact h.kept hcall rfl rfl
    · split
      · exact h.kept hcall rfl rfl
      · exact h.enter hcall (by simp) _
  | closeStream stream =>
    obtain ⟨hcall, he⟩ := Option.ite_none_right_eq_some.mp hstep
    cases he
    unfold RxDevice.closeStream
    split
    · exact h.kept hcall rfl rfl
    · split
      · exact h.kept hcall rfl rfl
      · exact h.enter hcall (by simp) _
  | readStream r =>
    cases hstep
    rcases d.readStream_session arith toFloat r with he | he
    · rw [he]; exact h
    · rw [he]
      exact ⟨h.idle, h.ownership.calmer (h.ownership.calmer_queue _ _ id) _,
        h.provenance.read (d.queueOutput_room r)⟩
  | proceed => exact h.sessionStep hstep
  | throw e => exact h.sessionStep hstep
  | backend result => exact h.sessionStep hstep
  | resume =>
    simp only [RxDevice.next] at hstep
    split at hstep
    · rename_i kind outcome hfree hout
      cases hstep
      obtain ⟨hs, ho⟩ := d.resume_kept outcome
      exact ⟨fun _ => hs ▸ hfree, hs ▸ h.ownership, by rw [hs, ho]; exact h.provenance⟩
    · cases hstep
  | worker incoming =>
    obtain ⟨session, hs, rfl⟩ := Option.map_eq_some_iff.mp hstep
    have howned := h.ownership.next _ hs
    simp only [SessionWorld.next] at hs
    split at hs
    · cases hs
    · rename_i worker hw
      obtain ⟨s, hstep', rfl⟩ := Option.map_eq_some_iff.mp hs
      refine ⟨h.idle, howned, h.provenance.workerStep hw (fun result hr => ?_) hstep'⟩
      cases incoming with
      | error e => cases hr
      | ok raw =>
        cases hr
        intro c hc
        obtain ⟨x, -, rfl⟩ := List.mem_map.mp hc
        rfl

/-! ## What a read returns -/

/-- The read passes its checks and finds a block whose time can be represented. -/
def Delivers (arith : Arithmetic) (d : RxDevice δ) (r : ReadRequest) : Prop :=
  d.refuseRead r = none ∧ r.numElems ≠ 0 ∧
  ∃ front rest timeNs, d.session.session.queue.blocks = front :: rest ∧
    blockTime arith front = .ok timeNs

theorem refuseRead_none {d : RxDevice δ} {r : ReadRequest} (h : d.refuseRead r = none)
    (hreq : r.numElems ≠ 0) : 0 ≤ r.timeoutUs ∧ ∃ out, d.queueOutput r = some out := by
  unfold refuseRead at h
  split at h
  · cases h
  split at h
  · cases h
  split at h
  · cases h
  · rename_i hargs
    obtain ⟨htime, hbuffer⟩ := not_or.mp hargs
    refine ⟨by omega, ?_⟩
    unfold queueOutput
    rw [if_neg hreq]
    split
    · cases hb : r.buffer with
      | none => exact absurd ⟨hreq, by rw [hb]; rfl⟩ hbuffer
      | some b => exact ⟨b, rfl⟩
    · exact ⟨_, rfl⟩

/-- The components that a read section copied are the unread ones at the front. -/
theorem copied_components {q : RxSampleQueue Received} (hwf : q.WellFormed) {requested : ℕ}
    {out : List Received} (hroom : requested * 2 ≤ out.length) {P : Received → Prop}
    (hq : ∀ b ∈ q.blocks, ∀ c ∈ b.samples.data, P c) :
    ∀ c ∈ (readLoop requested q.blocks 0 out).2.2.take
      ((readLoop requested q.blocks 0 out).2.1 * 2), P c := by
  have hl := readLoop_result requested q.blocks 0 out hwf.toWellFormedBlocks (Nat.zero_le _) hroom
  have hcopied := hl.copied
  rw [Nat.zero_mul, List.take_zero, pairs_nil, List.nil_append, Nat.sub_zero] at hcopied
  have hcount := hl.count
  have hlen := hl.length
  intro c hc
  have heven : ((readLoop requested q.blocks 0 out).2.2.take
      ((readLoop requested q.blocks 0 out).2.1 * 2)).length % 2 = 0 := by
    rw [List.length_take]
    omega
  obtain ⟨p, hp, hpc⟩ := mem_pairs_of_even heven hc
  rw [hcopied] at hp
  obtain ⟨b, hb, hpb⟩ := List.mem_flatMap.mp (List.mem_of_mem_take hp)
  obtain ⟨h1, h2⟩ := mem_of_mem_pairs (List.mem_of_mem_drop hpb)
  rcases hpc with rfl | rfl
  · exact hq b hb _ h1
  · exact hq b hb _ h2

/-- Every returned sample was received through the setup that owns the queue. -/
theorem Traced.output_owner {d : RxDevice δ} (h : d.Traced) (arith : Arithmetic)
    (toFloat : Int16 → φ) (r : ReadRequest) :
    ∀ c ∈ (d.readStream arith toFloat r).1.output, c.2 = d.owner := by
  have hcases := read_cases arith d.session.session.queue (d.queueOutput r) r.numElems r.timeoutUs
  unfold readStream
  split
  · intro c hc; cases hc
  simp only
  generalize RxSampleQueue.read arith d.session.session.queue (d.queueOutput r) r.numElems
    r.timeoutUs = o at hcases ⊢
  cases hcases with
  | failed e => intro c hc; cases hc
  | nothing status hno => cases status <;> simp [ReadStreamOutcome.failure]
  | copied front rest out timeNs hblocks hout hreq htime =>
    intro c hc
    obtain ⟨x, hx, rfl⟩ := List.mem_map.mp hc
    exact copied_components h.provenance.wellFormed (d.queueOutput_room r out hout)
      h.provenance.queued x hx

theorem Traced.output_nonempty {d : RxDevice δ} (h : d.Traced) (arith : Arithmetic)
    (toFloat : Int16 → φ) (r : ReadRequest) :
    (d.readStream arith toFloat r).1.output ≠ [] ↔ Delivers arith d r := by
  constructor
  · have hcases := read_cases arith d.session.session.queue (d.queueOutput r) r.numElems r.timeoutUs
    unfold readStream
    split
    · intro hne; exact absurd rfl hne
    rename_i hrefuse
    simp only
    generalize RxSampleQueue.read arith d.session.session.queue (d.queueOutput r) r.numElems
      r.timeoutUs = o at hcases ⊢
    cases hcases with
    | failed e => intro hne; exact absurd rfl hne
    | nothing status hno => cases status <;> simp [ReadStreamOutcome.failure]
    | copied front rest out timeNs hblocks hout hreq htime =>
      intro _
      exact ⟨hrefuse, hreq, front, rest, timeNs, hblocks, htime⟩
  · rintro ⟨hrefuse, hreq, front, rest, timeNs, hblocks, htime⟩
    obtain ⟨htimeout, out, hout⟩ := refuseRead_none hrefuse hreq
    have hwf := h.provenance.wellFormed
    have hl := readLoop_result r.numElems d.session.session.queue.blocks 0 out
      hwf.toWellFormedBlocks (Nat.zero_le _) (d.queueOutput_room r out hout)
    have hpos : 0 < (unreadPairs d.session.session.queue.blocks).length := by
      have hfront := (hwf.block front (by rw [hblocks]; exact List.mem_cons_self)).unread_pos
      rw [hblocks]
      change 0 < (front.unread ++ unreadPairs rest).length
      rw [List.length_append]
      omega
    unfold readStream
    rw [hrefuse, hout]
    simp only [read_front arith hblocks out hreq htimeout, htime, Option.getD_some, ne_eq,
      List.map_eq_nil_iff]
    intro hnil
    have hlen := congrArg List.length hnil
    have hroom := d.queueOutput_room r out hout
    have hcount := hl.count
    rw [List.length_take, hl.length, List.length_nil] at hlen
    omega

/-! ## Isolation of the tokens -/

/-- A read returns only samples received through the current token. -/
def ReturnsOwn (arith : Arithmetic) (toFloat : Int16 → φ) (d : RxDevice δ) (a : RxAction) : Prop :=
  ∀ r, a = .readStream r → ∀ c ∈ (d.readStream arith toFloat r).1.output, c.2 = d.setups

/-- A read finds unread samples only after the queue was started through the current token. -/
def StartedThroughToken (arith : Arithmetic) (d : RxDevice δ) (a : RxAction) : Prop :=
  ∀ r, a = .readStream r → Delivers arith d r → d.owner = d.setups

theorem Traced.own_iff {d : RxDevice δ} (h : d.Traced) (arith : Arithmetic) (toFloat : Int16 → φ)
    (a : RxAction) : ReturnsOwn arith toFloat d a ↔ StartedThroughToken arith d a := by
  constructor
  · intro hown r ha hdel
    obtain ⟨c, hc⟩ := List.exists_mem_of_ne_nil _ ((h.output_nonempty arith toFloat r).mpr hdel)
    rw [← h.output_owner arith toFloat r c hc]
    exact hown r ha c hc
  · intro hstart r ha c hc
    have hdel := (h.output_nonempty arith toFloat r).mp (List.ne_nil_of_mem hc)
    rw [h.output_owner arith toFloat r c hc]
    exact hstart r ha hdel

/-- A run returns only samples of the token that reads them exactly when its reads find unread
samples only after an activation through that token has started the queue. -/
theorem rx_token_isolation (arith : Arithmetic)
    (fromActualRate : δ → Except Exception TimestampRate) (toFloat : Int16 → φ)
    (card : UInt32) (rxHandles : List UInt32) (rxHeaderSize : ℕ) (iqSwap : Bool) (sysFreq : UInt64)
    (timing : RxTiming δ) (d : RxDevice δ)
    (hcreate : RxDevice.create card rxHandles rxHeaderSize iqSwap sysFreq timing = .ok d)
    (actions : List RxAction) :
    Along (RxDevice.next arith fromActualRate toFloat) (ReturnsOwn arith toFloat) d actions ↔
    Along (RxDevice.next arith fromActualRate toFloat) (StartedThroughToken arith) d actions :=
  along_congr (fun _ a _ hd hn => Traced.next hd a hn) (fun _ a hd => hd.own_iff arith toFloat a)
    (Traced.create hcreate) actions

/-! ### A stream that is closed and set up again -/

/-- A device with one RX channel at 1 kS/s. -/
def sampleDevice : RxDevice UInt64 :=
  { card := 0
    rxHandles := [7]
    rxHeaderSize := 24
    iqSwap := true
    session :=
      { session := ⟨⟨64, [], false, false, 0⟩, none, false, false, 0, 0, 0,
          ⟨0, 0, .ofFrequency 0, 0, true, false⟩, false⟩
        pc := .free
        fallbacks := []
        timing := ⟨0, 1000, 0, 1000, true⟩
        prepared := none
        backend := []
        effects := []
        outcome := none
        terminated := false }
    activeRxStream := none
    rxUseShort := false
    rxPayloadSizeInWords := 0
    sysFreq := 1000
    call := .none
    result := none
    setups := 0
    owner := 0 }

def sampleSetup (address : StreamToken) : RxAction :=
  .setupStream "CS16" [] [] ⟨32, 0, 1000, 0, 0, some address⟩

/-- Setup, activation, one received block, deactivation and close of the token 100; then the setup of
the token 200. -/
def sampleReopened : List RxAction :=
  let block : RxReceiveResult Int16 := ⟨.success, 7, ⟨[1, 2, 3, 4], by decide⟩, 0, 0, 0⟩
  let idle : Except Exception (RxReceiveResult Int16) := .error .foreign
  [sampleSetup 100, .activateStream 100 0 0 0, .proceed, .proceed, .proceed, .backend (.ok 0),
    .proceed, .proceed, .proceed, .resume, .worker idle, .worker (.ok block), .worker idle,
    .worker idle, .worker idle, .deactivateStream 100 0 0, .proceed, .proceed, .proceed,
    .backend (.ok 0), .worker idle, .proceed, .resume, .closeStream 100, .proceed, .resume,
    sampleSetup 200]

def sampleRead : ReadRequest := ⟨200, some (List.replicate 4 (0, 0)), 2, 0, by simp, false⟩

abbrev sampleNext : RxDevice UInt64 → RxAction → Option (RxDevice UInt64) :=
  RxDevice.next .int128 (fun rate => .ok (.ofFrequency rate)) fun c => c.toInt

theorem rx_token_isolation_reopened :
    Along sampleNext (ReturnsOwn .int128 fun c => c.toInt) sampleDevice
        (sampleReopened ++ [.readStream sampleRead]) ↔
      Along sampleNext (StartedThroughToken .int128) sampleDevice
        (sampleReopened ++ [.readStream sampleRead]) :=
  rx_token_isolation .int128 (fun rate => .ok (.ofFrequency rate)) (fun c => c.toInt) 0 [7] 24 true
    1000 ⟨0, 1000, 0, 1000, true⟩ sampleDevice rfl _

/-- The second token, never activated, returns the samples of the first. -/
theorem closed_stream_samples_returned :
    (∃ d, run sampleNext sampleDevice sampleReopened = some d ∧ d.setups = 2 ∧
      (d.readStream .int128 (fun c => c.toInt) sampleRead).1.status = 2 ∧
      (d.readStream .int128 (fun c => c.toInt) sampleRead).1.output.map Prod.snd = [1, 1, 1, 1]) ∧
    ¬ Along sampleNext (ReturnsOwn .int128 fun c => c.toInt) sampleDevice
      (sampleReopened ++ [.readStream sampleRead]) := by
  have hrun : (run sampleNext sampleDevice sampleReopened).map (fun d => (d.setups,
      (d.readStream .int128 (fun c => c.toInt) sampleRead).1.status,
      (d.readStream .int128 (fun c => c.toInt) sampleRead).1.output.map Prod.snd)) =
      some (2, 2, [1, 1, 1, 1]) := by decide +kernel
  obtain ⟨d, hd, hv⟩ := Option.map_eq_some_iff.mp hrun
  simp only [Prod.mk.injEq] at hv
  obtain ⟨hsetups, hstatus, htags⟩ := hv
  refine ⟨⟨d, hd, hsetups, hstatus, htags⟩, fun halong => ?_⟩
  have hown := along_append halong hd sampleRead rfl
  obtain ⟨c, hc, hc1⟩ := List.mem_map.mp (by rw [htags]; exact List.mem_cons_self : 1 ∈ _)
  rw [hown c hc, hsetups] at hc1
  cases hc1

end RxDevice

end SoapySidekiq
