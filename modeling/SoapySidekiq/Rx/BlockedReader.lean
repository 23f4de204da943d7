import Mathlib.Control.Monad.Basic
import SoapySidekiq.Foundations.Transition
import SoapySidekiq.Rx.Conservation

/-! # A reader blocked in the queue

One reader waits in `RxSampleQueue::read` while other threads push, stop, fail, start and reset the
queue. The wait is a predicate that the reader evaluates again whenever it has the mutex: after a
notification, spuriously, and once more when its deadline has passed. The components of a push carry
the time of the push, so that a sample can be told from an equal one pushed later. -/
set_option autoImplicit false

namespace SoapySidekiq
open Interleaved Transition
variable {α : Type}

/-! ## The system -/

/-- The arguments of a `read` that passes its checks and asks for something. -/
structure ReadCall (α : Type) where
  output : List α
  requested : ℕ
  timeoutUs : ℤ
  requested_pos : requested ≠ 0
  timeout_nonneg : 0 ≤ timeoutUs
  room : requested * 2 ≤ output.length

inductive HaltKind where
  | stop
  | fail
deriving DecidableEq

/-- A `stop()` or `fail()`, and when it ran. -/
structure Halt where
  kind : HaltKind
  time : ℕ
deriving DecidableEq

/-- A read that waits: the halts that ran since it blocked, and whether a `start()` followed one. -/
structure BlockedRead (α : Type) where
  call : ReadCall (ℕ × α)
  halts : List Halt
  restarted : Bool

structure ReaderWorld (α : Type) where
  clock : ℕ
  queue : RxSampleQueue (ℕ × α)
  reader : Option (BlockedRead α)

/-- The steps of the other threads, and of the reader: it calls `read`, takes the mutex again after a
wake-up, or takes it again after its deadline. -/
inductive ReaderAction (α : Type) where
  | start
  | stop
  | fail
  | reset
  | push (source : Source α) (stamp : Stamp) (sampleRate : TimestampRate)
  | enter (call : ReadCall (ℕ × α))
  | wake
  | expire

def SampleVector.map {β : Type} (f : α → β) (v : SampleVector α) : SampleVector β :=
  ⟨v.data.map f, by rw [List.length_map]; exact v.size_lt⟩

/-- The samples with the time of their push. -/
def Source.timed (clock : ℕ) : Source α → Source (ℕ × α)
  | .vector v => .vector (v.map fun c => (clock, c))
  | .pointer samples complexSamples =>
    .pointer (samples.map fun pointer i => (clock, pointer i)) complexSamples

namespace ReaderWorld

/-- What a read that holds the mutex again and ends there returns. -/
def outcome (arith : Arithmetic) (s : ReaderWorld α) (call : ReadCall (ℕ × α)) :
    RxSampleQueue.ReadOutcome (ℕ × α) :=
  RxSampleQueue.read arith s.queue (some call.output) call.requested call.timeoutUs

/-- The blocked read that an action ends. -/
def ended (s : ReaderWorld α) : ReaderAction α → Option (BlockedRead α)
  | .wake => if s.queue.ready then s.reader else none
  | .expire => s.reader
  | _ => none

def halted (s : ReaderWorld α) (kind : HaltKind) : Option (BlockedRead α) :=
  s.reader.map fun w => { w with halts := w.halts ++ [⟨kind, s.clock⟩] }

def next (arith : Arithmetic) (s : ReaderWorld α) : ReaderAction α → Option (ReaderWorld α)
  | .start => some ⟨s.clock + 1, s.queue.start,
      s.reader.map fun w => { w with restarted := w.restarted || !w.halts.isEmpty }⟩
  | .stop => some ⟨s.clock + 1, s.queue.stop, s.halted .stop⟩
  | .fail => some ⟨s.clock + 1, s.queue.fail, s.halted .fail⟩
  | .reset => some ⟨s.clock + 1, s.queue.reset, s.reader⟩
  | .push source stamp sampleRate =>
    let outcome := RxSampleQueue.pushOf arith s.queue sampleRate (source.timed s.clock) stamp
    some ⟨s.clock + 1, outcome.2, s.reader⟩
  | .enter call =>
    if s.reader.isSome then none
    else if s.queue.ready then some ⟨s.clock + 1, (s.outcome arith call).queue, none⟩
    else some ⟨s.clock + 1, s.queue, some ⟨call, [], false⟩⟩
  | .wake =>
    s.reader.map fun w =>
      if s.queue.ready then ⟨s.clock + 1, (s.outcome arith w.call).queue, none⟩
      else ⟨s.clock + 1, s.queue, some w⟩
  | .expire =>
    s.reader.map fun w => ⟨s.clock + 1, (s.outcome arith w.call).queue, none⟩

end ReaderWorld

/-! ## What a blocked read owes to the halts -/

/-- Both components of a pair were pushed before `time`. -/
def pushedBefore (time : ℕ) (p : (ℕ × α) × (ℕ × α)) : Prop := p.1.1 < time ∧ p.2.1 < time

/-- The read returns samples that were queued before the halts, or reports one of them. -/
def BlockedRead.Observes (w : BlockedRead α) (o : RxSampleQueue.ReadOutcome (ℕ × α)) : Prop :=
  ∃ r, o.result = .ok r ∧
    match r.status with
    | .samples => ∀ p ∈ pairs ((o.output.getD []).take (r.samples * 2)),
        ∀ h ∈ w.halts, pushedBefore h.time p
    | .stopped => ∃ h ∈ w.halts, h.kind = .stop
    | .error => ∃ h ∈ w.halts, h.kind = .fail
    | .timeout => False

namespace ReaderWorld

/-- A read that ends after a halt observes it. -/
def HaltObserved (arith : Arithmetic) (s : ReaderWorld α) (a : ReaderAction α) : Prop :=
  ∀ w, s.ended a = some w → w.halts ≠ [] → w.Observes (s.outcome arith w.call)

/-- The queue still shows the halt when the read ends: unread blocks of the halted session, the
failure, or a stop. -/
def HaltVisible (s : ReaderWorld α) (a : ReaderAction α) : Prop :=
  ∀ w, s.ended a = some w → w.halts ≠ [] →
    (s.queue.blocks ≠ [] → w.restarted = false) ∧
    (s.queue.blocks = [] → s.queue.failed = true ∨
      s.queue.running = false ∧ ∃ h ∈ w.halts, h.kind = .stop)

end ReaderWorld

/-! ## Pushed components and their times -/

theorem timed_vector {clock : ℕ} {source : Source α} {v : SampleVector (ℕ × α)}
    (h : (source.timed clock).vector? = some v) : ∀ c ∈ v.data, c.1 = clock := by
  cases source with
  | vector u =>
    cases h
    intro c hc
    obtain ⟨x, -, rfl⟩ := List.mem_map.mp hc
    rfl
  | pointer samples complexSamples =>
    simp only [Source.timed, Source.vector?, pointerVector] at h
    split at h
    · cases h
    · cases samples with
      | none => cases h
      | some pointer =>
        cases h
        intro c hc
        obtain ⟨i, -, rfl⟩ := List.mem_map.mp hc
        rfl

/-- A block right after its push is read from its start, so its time needs no carry. -/
theorem blockTime_fresh (arith : Arithmetic) {b : Block α} (hb : b.WellFormed)
    (hfresh : b.offset = 0) : RxSampleQueue.blockTime arith b = .ok b.timeNs := by
  have hzero : b.sampleRate.floorNs 0 = 0 := by simp [TimestampRate.floorNs, TimestampRate.scaledTicks]
  have hticks : (UInt64.ofNat 0).toNat = 0 := rfl
  have hconvert := b.sampleRate.convert_eq arith hb.rate_valid (UInt64.ofNat 0)
  rw [hticks, hzero, if_pos (Nat.zero_le _)] at hconvert
  rw [RxSampleQueue.blockTime, hfresh, hconvert]
  simp [TimestampRate.scaledTicks]

theorem mem_unread {q : RxSampleQueue α} {p : α × α} :
    p ∈ q.unread ↔ ∃ b ∈ q.blocks, p ∈ b.unread := List.mem_flatMap

/-- What a push at the current time leaves in the queue. -/
structure PushedNow (s : ReaderWorld α) (q : RxSampleQueue (ℕ × α)) : Prop where
  wellFormed : q.WellFormed
  running : q.running = s.queue.running
  failed : q.failed = s.queue.failed
  fresh : (∀ b ∈ s.queue.blocks, b.offset = 0) → ∀ b ∈ q.blocks, b.offset = 0
  unread : ∀ p ∈ q.unread, p ∈ s.queue.unread ∨
    s.queue.running = true ∧ p.1.1 = s.clock ∧ p.2.1 = s.clock

theorem push_now (arith : Arithmetic) (s : ReaderWorld α) (hs : s.queue.WellFormed)
    (source : Source α) (stamp : Stamp) (sampleRate : TimestampRate) :
    PushedNow s (RxSampleQueue.pushOf arith s.queue sampleRate (source.timed s.clock) stamp).2 := by
  have hkept : PushedNow s s.queue := ⟨hs, rfl, rfl, id, fun p hp => .inl hp⟩
  rcases RxSampleQueue.pushOf_cases arith s.queue sampleRate (source.timed s.clock) stamp with
    ⟨e, he⟩ | ⟨v, b, hv, hstamped, hoffset, hphase, hcase⟩
  · rw [he]
    exact hkept
  have hwf := hcase.wellFormed hs hoffset hphase
  have hnew : ∀ p ∈ b.unread, p.1.1 = s.clock ∧ p.2.1 = s.clock := by
    intro p hp
    obtain ⟨h1, h2⟩ := mem_of_mem_pairs (List.mem_of_mem_drop hp)
    rw [hstamped.1] at h1 h2
    exact ⟨timed_vector hv _ h1, timed_vector hv _ h2⟩
  generalize RxSampleQueue.pushOf arith s.queue sampleRate (source.timed s.clock) stamp = r at *
  cases hcase with
  | invalid => exact hkept
  | stopped => exact hkept
  | dropped hrun =>
    refine ⟨hwf, rfl, rfl, fun h c hc => ?_, fun p hp => ?_⟩
    · rcases List.mem_append.mp hc with hc | hc
      · exact h c (List.mem_of_mem_tail hc)
      · rw [List.mem_singleton.mp hc, hoffset]
    · obtain ⟨c, hc, hp⟩ := mem_unread.mp hp
      rcases List.mem_append.mp hc with hc | hc
      · exact .inl (mem_unread.mpr ⟨c, List.mem_of_mem_tail hc, hp⟩)
      · rw [List.mem_singleton.mp hc] at hp
        exact .inr ⟨hrun, hnew p hp⟩
  | accepted hrun =>
    refine ⟨hwf, rfl, rfl, fun h c hc => ?_, fun p hp => ?_⟩
    · rcases List.mem_append.mp hc with hc | hc
      · exact h c hc
      · rw [List.mem_singleton.mp hc, hoffset]
    · obtain ⟨c, hc, hp⟩ := mem_unread.mp hp
      rcases List.mem_append.mp hc with hc | hc
      · exact .inl (mem_unread.mpr ⟨c, hc, hp⟩)
      · rw [List.mem_singleton.mp hc] at hp
        exact .inr ⟨hrun, hnew p hp⟩

/-! ## The invariant -/

namespace ReaderWorld

/-- Of a blocked read: before a restart the queue is halted and holds only blocks from before the
halts; after it, only blocks from after one of them. -/
structure Blocked (s : ReaderWorld α) (w : BlockedRead α) : Prop where
  fresh : ∀ b ∈ s.queue.blocks, b.offset = 0
  failed : s.queue.failed = true → ∃ h ∈ w.halts, h.kind = .fail
  past : ∀ h ∈ w.halts, h.time < s.clock
  early : w.halts ≠ [] → w.restarted = false →
    s.queue.running = false ∧ ∀ p ∈ s.queue.unread, ∀ h ∈ w.halts, pushedBefore h.time p
  late : w.restarted = true → ∃ h ∈ w.halts, ∀ p ∈ s.queue.unread, h.time < p.1.1

structure Timed (s : ReaderWorld α) : Prop where
  wellFormed : s.queue.WellFormed
  past : ∀ p ∈ s.queue.unread, pushedBefore s.clock p
  blocked : ∀ w, s.reader = some w → s.Blocked w

theorem Timed.halted {s : ReaderWorld α} (hs : s.Timed) (kind : HaltKind)
    {q : RxSampleQueue (ℕ × α)} (hq : q.WellFormed) (hblocks : q.blocks = s.queue.blocks)
    (hrunning : q.running = false)
    (hfailed : q.failed = true → s.queue.failed = true ∨ kind = .fail) :
    Timed ⟨s.clock + 1, q, s.halted kind⟩ := by
  have hunread : q.unread = s.queue.unread := by simp [RxSampleQueue.unread, hblocks]
  refine ⟨hq, fun p hp => ?_, fun w hw => ?_⟩
  · have := hs.past p (hunread ▸ hp)
    exact ⟨Nat.lt_succ_of_lt this.1, Nat.lt_succ_of_lt this.2⟩
  obtain ⟨u, hu, rfl⟩ := Option.map_eq_some_iff.mp hw
  have hblocked := hs.blocked u hu
  have hmem : ∀ {h : Halt}, h ∈ u.halts ++ [⟨kind, s.clock⟩] ↔ h ∈ u.halts ∨ h = ⟨kind, s.clock⟩ := by
    simp
  constructor
  · exact fun b hb => hblocked.fresh b (hblocks ▸ hb)
  · intro h
    rcases hfailed h with h | rfl
    · obtain ⟨f, hf, hkind⟩ := hblocked.failed h
      exact ⟨f, hmem.mpr (.inl hf), hkind⟩
    · exact ⟨_, hmem.mpr (.inr rfl), rfl⟩
  · intro h hh
    rcases hmem.mp hh with hh | rfl
    · exact Nat.lt_succ_of_lt (hblocked.past h hh)
    · exact Nat.lt_succ_self _
  · intro _ hrestarted
    refine ⟨hrunning, fun p hp h hh => ?_⟩
    rw [hunread] at hp
    rcases hmem.mp hh with hh | rfl
    · exact (hblocked.early (List.ne_nil_of_mem hh) hrestarted).2 p hp h hh
    · exact hs.past p hp
  · intro hrestarted
    obtain ⟨h, hh, hlate⟩ := hblocked.late hrestarted
    exact ⟨h, hmem.mpr (.inl hh), fun p hp => hlate p (hunread ▸ hp)⟩

/-- A read leaves part of what it finds. -/
theorem read_unread (arith : Arithmetic) {q : RxSampleQueue α} (hq : q.WellFormed)
    (call : ReadCall α) :
    let q' := (RxSampleQueue.read arith q (some call.output) call.requested call.timeoutUs).queue
    q'.WellFormed ∧ ∀ p ∈ q'.unread, p ∈ q.unread := by
  have hcase := RxSampleQueue.read_cases arith q (some call.output) call.requested call.timeoutUs
  generalize RxSampleQueue.read arith q (some call.output) call.requested call.timeoutUs = o at *
  cases hcase with
  | failed => exact ⟨hq, fun p hp => hp⟩
  | nothing => exact ⟨hq, fun p hp => hp⟩
  | copied front rest out timeNs hblocks hout =>
    cases hout
    have hloop := RxSampleQueue.readLoop_result call.requested q.blocks 0 call.output
      hq.toWellFormedBlocks (Nat.zero_le _) call.room
    refine ⟨{ hloop.wellFormed with
      capacity_pos := hq.capacity_pos
      bounded := hloop.shorter.trans hq.bounded
      exclusive := hq.exclusive }, fun p hp => ?_⟩
    have hleft : p ∈ RxSampleQueue.unreadPairs
        (RxSampleQueue.readLoop call.requested q.blocks 0 call.output).1 := hp
    rw [hloop.left] at hleft
    exact List.mem_of_mem_drop hleft

theorem Timed.next {arith : Arithmetic} {s t : ReaderWorld α} (hs : s.Timed) (a : ReaderAction α)
    (hnext : s.next arith a = some t) : t.Timed := by
  have hlater : ∀ {p : (ℕ × α) × (ℕ × α)}, p ∈ s.queue.unread → pushedBefore (s.clock + 1) p :=
    fun hp => ⟨Nat.lt_succ_of_lt (hs.past _ hp).1, Nat.lt_succ_of_lt (hs.past _ hp).2⟩
  have hempty : ∀ {p : (ℕ × α) × (ℕ × α)}, p ∉ RxSampleQueue.unreadPairs ([] : List (Block (ℕ × α))) := by
    simp [RxSampleQueue.unreadPairs]
  cases a with
  | stop =>
    cases hnext
    exact hs.halted .stop hs.wellFormed.stop rfl rfl .inl
  | fail =>
    cases hnext
    exact hs.halted .fail hs.wellFormed.fail rfl rfl fun _ => .inr rfl
  | start =>
    cases hnext
    refine ⟨hs.wellFormed.start, fun p hp => absurd hp hempty, fun w hw => ?_⟩
    obtain ⟨u, hu, rfl⟩ := Option.map_eq_some_iff.mp hw
    have hblocked := hs.blocked u hu
    refine ⟨by simp [RxSampleQueue.start], by simp [RxSampleQueue.start],
      fun h hh => Nat.lt_succ_of_lt (hblocked.past h hh), ?_, ?_⟩
    · intro hne hrestarted
      cases hhalts : u.halts with
      | nil => exact absurd hhalts hne
      | cons h rest => simp [hhalts] at hrestarted
    · intro hrestarted
      cases hhalts : u.halts with
      | nil =>
        simp only [hhalts, List.isEmpty_nil, Bool.not_true, Bool.or_false] at hrestarted
        obtain ⟨h, hh, -⟩ := hblocked.late hrestarted
        simp [hhalts] at hh
      | cons h rest => exact ⟨h, by simp, fun p hp => absurd hp hempty⟩
  | reset =>
    cases hnext
    refine ⟨hs.wellFormed.reset, fun p hp => absurd hp hempty, fun w hw => ?_⟩
    have hblocked := hs.blocked w hw
    refine ⟨by simp [RxSampleQueue.reset], by simp [RxSampleQueue.reset],
      fun h hh => Nat.lt_succ_of_lt (hblocked.past h hh),
      fun _ _ => ⟨rfl, fun p hp => absurd hp hempty⟩, fun hrestarted => ?_⟩
    obtain ⟨h, hh, -⟩ := hblocked.late hrestarted
    exact ⟨h, hh, fun p hp => absurd hp hempty⟩
  | push source stamp sampleRate =>
    cases hnext
    have hpush := push_now arith s hs.wellFormed source stamp sampleRate
    refine ⟨hpush.wellFormed, fun p hp => ?_, fun w hw => ?_⟩
    · rcases hpush.unread p hp with h | ⟨-, h1, h2⟩
      · exact hlater h
      · exact ⟨h1 ▸ Nat.lt_succ_self _, h2 ▸ Nat.lt_succ_self _⟩
    have hblocked := hs.blocked w hw
    refine ⟨hpush.fresh hblocked.fresh, fun h => hblocked.failed (hpush.failed ▸ h),
      fun h hh => Nat.lt_succ_of_lt (hblocked.past h hh), fun hne hrestarted => ?_,
      fun hrestarted => ?_⟩
    · obtain ⟨hrunning, hearly⟩ := hblocked.early hne hrestarted
      refine ⟨hpush.running.trans hrunning, fun p hp h hh => ?_⟩
      rcases hpush.unread p hp with hold | ⟨hrun, -⟩
      · exact hearly p hold h hh
      · rw [hrunning] at hrun
        cases hrun
    · obtain ⟨h, hh, hlate⟩ := hblocked.late hrestarted
      refine ⟨h, hh, fun p hp => ?_⟩
      rcases hpush.unread p hp with hold | ⟨-, h1, -⟩
      · exact hlate p hold
      · exact h1 ▸ hblocked.past h hh
  | enter call =>
    simp only [ReaderWorld.next] at hnext
    split at hnext
    · cases hnext
    · split at hnext <;> cases hnext
      · obtain ⟨hwf, hunread⟩ := read_unread arith hs.wellFormed call
        exact ⟨hwf, fun p hp => hlater (hunread p hp), by simp⟩
      · rename_i hready
        refine ⟨hs.wellFormed, fun p hp => hlater hp, ?_⟩
        rintro w ⟨⟩
        simp only [RxSampleQueue.ready, Bool.or_eq_true, not_or] at hready
        obtain ⟨⟨hblocks, hfailed⟩, -⟩ := hready
        have hnil : s.queue.blocks = [] := by simpa using hblocks
        exact ⟨by simp [hnil], fun h => absurd h hfailed, by simp, by simp, by simp⟩
  | wake =>
    simp only [ReaderWorld.next, Option.map_eq_some_iff] at hnext
    obtain ⟨w, hw, hnext⟩ := hnext
    split at hnext <;> cases hnext
    · obtain ⟨hwf, hunread⟩ := read_unread arith hs.wellFormed w.call
      exact ⟨hwf, fun p hp => hlater (hunread p hp), by simp⟩
    · refine ⟨hs.wellFormed, fun p hp => hlater hp, ?_⟩
      rintro u ⟨⟩
      obtain ⟨hfresh, hfailed, hpast, hearly, hlate⟩ := hs.blocked w hw
      exact ⟨hfresh, hfailed, fun h hh => Nat.lt_succ_of_lt (hpast h hh), hearly, hlate⟩
  | expire =>
    simp only [ReaderWorld.next, Option.map_eq_some_iff] at hnext
    obtain ⟨w, hw, hnext⟩ := hnext
    cases hnext
    obtain ⟨hwf, hunread⟩ := read_unread arith hs.wellFormed w.call
    exact ⟨hwf, fun p hp => hlater (hunread p hp), by simp⟩

/-! ## The read that ends -/

/-- With blocks queued, the read returns a nonempty part of them. -/
theorem read_samples (arith : Arithmetic) {q : RxSampleQueue α} (hq : q.WellFormed)
    (hfresh : ∀ b ∈ q.blocks, b.offset = 0) (hne : q.blocks ≠ []) (call : ReadCall α) :
    let o := RxSampleQueue.read arith q (some call.output) call.requested call.timeoutUs
    ∃ r, o.result = .ok r ∧ r.status = .samples ∧
      (∀ p ∈ pairs ((o.output.getD []).take (r.samples * 2)), p ∈ q.unread) ∧
      ∃ p, p ∈ pairs ((o.output.getD []).take (r.samples * 2)) := by
  obtain ⟨front, rest, hblocks⟩ := List.exists_cons_of_ne_nil hne
  have hfront : front ∈ q.blocks := by rw [hblocks]; exact List.mem_cons_self
  have htime := blockTime_fresh arith (hq.block front hfront) (hfresh front hfront)
  have hloop := RxSampleQueue.readLoop_result call.requested q.blocks 0 call.output
    hq.toWellFormedBlocks (Nat.zero_le _) call.room
  have hcopied := hloop.copied
  rw [Nat.zero_mul, List.take_zero, pairs_nil, List.nil_append, Nat.sub_zero] at hcopied
  simp only [RxSampleQueue.read_front arith hblocks call.output call.requested_pos
    call.timeout_nonneg, htime]
  refine ⟨_, rfl, rfl, ?_, ?_⟩ <;> simp only [Option.getD_some] <;> rw [hcopied]
  · exact fun p hp => List.mem_of_mem_take hp
  · have hpos := (hq.block front hfront).unread_pos
    have hunread : RxSampleQueue.unreadPairs q.blocks = front.unread ++ RxSampleQueue.unreadPairs rest := by
      rw [hblocks]; rfl
    obtain ⟨p, hp⟩ := List.exists_mem_of_length_pos (l := (RxSampleQueue.unreadPairs q.blocks).take
      call.requested) (by
        have := call.requested_pos
        rw [List.length_take, hunread, List.length_append]
        omega)
    exact ⟨p, hp⟩

/-- With no block queued, the read reports the state of the queue. -/
theorem read_empty (arith : Arithmetic) {q : RxSampleQueue α} (hnil : q.blocks = [])
    (call : ReadCall α) :
    (RxSampleQueue.read arith q (some call.output) call.requested call.timeoutUs).result =
      .ok ⟨if q.failed then .error else if q.running then .timeout else .stopped, 0, 0, false⟩ := by
  have htime := call.timeout_nonneg
  unfold RxSampleQueue.read
  rw [if_neg (by simp), if_neg (by omega), if_neg call.requested_pos]
  cases hf : q.failed <;> cases hr : q.running <;>
    simp [RxSampleQueue.ready, RxSampleQueue.readReady, hnil, hf, hr]

theorem Blocked.observes_iff {s : ReaderWorld α} {w : BlockedRead α} (hs : s.Timed)
    (hw : s.Blocked w) (arith : Arithmetic) (hhalts : w.halts ≠ []) :
    w.Observes (s.outcome arith w.call) ↔
      (s.queue.blocks ≠ [] → w.restarted = false) ∧
      (s.queue.blocks = [] → s.queue.failed = true ∨
        s.queue.running = false ∧ ∃ h ∈ w.halts, h.kind = .stop) := by
  by_cases hnil : s.queue.blocks = []
  · have hread := read_empty arith hnil w.call
    rw [BlockedRead.Observes, ReaderWorld.outcome, hread]
    cases hf : s.queue.failed with
    | true => simp [hnil, hw.failed hf]
    | false => cases hr : s.queue.running <;> simp [hnil]
  · obtain ⟨r, hresult, hstatus, hsubset, p, hp⟩ := read_samples arith hs.wellFormed hw.fresh hnil w.call
    have hobserves : w.Observes (s.outcome arith w.call) ↔
        ∀ p ∈ pairs (((s.outcome arith w.call).output.getD []).take (r.samples * 2)),
          ∀ h ∈ w.halts, pushedBefore h.time p := by
      rw [BlockedRead.Observes, ReaderWorld.outcome, hresult]
      simp [hstatus]
    rw [hobserves]
    cases hrestarted : w.restarted with
    | false =>
      simp only [hnil, imp_true_iff, false_implies, and_true, iff_true]
      exact fun p hp h hh => (hw.early hhalts hrestarted).2 p (hsubset p hp) h hh
    | true =>
      obtain ⟨h, hh, hlate⟩ := hw.late hrestarted
      refine ⟨fun hall => ?_, fun hc => absurd (hc.1 hnil) (by simp)⟩
      exact absurd (hall p hp h hh).1 (Nat.lt_asymm (hlate p (hsubset p hp)))

theorem Timed.observed_iff {s : ReaderWorld α} (hs : s.Timed) (arith : Arithmetic)
    (a : ReaderAction α) : s.HaltObserved arith a ↔ s.HaltVisible a := by
  have hreader : ∀ w, s.ended a = some w → s.reader = some w := by
    intro w hw
    cases a with
    | wake =>
      simp only [ended] at hw
      split at hw
      · exact hw
      · cases hw
    | expire => exact hw
    | _ => cases hw
  refine forall_congr' fun w => forall_congr' fun hw => forall_congr' fun hhalts => ?_
  exact (hs.blocked w (hreader w hw)).observes_iff hs arith hhalts

theorem blocked_reader_observes_halt (arith : Arithmetic) (capacity : ℕ)
    (q : RxSampleQueue (ℕ × α)) (hcreate : RxSampleQueue.create capacity = .ok q)
    (actions : List (ReaderAction α)) :
    Along (next arith) (HaltObserved arith) ⟨0, q, none⟩ actions ↔
      Along (next arith) HaltVisible ⟨0, q, none⟩ actions := by
  obtain ⟨hwf, hnil⟩ := RxSampleQueue.WellFormed.of_create hcreate
  have hstart : Timed (⟨0, q, none⟩ : ReaderWorld α) :=
    ⟨hwf, by simp [RxSampleQueue.unread, RxSampleQueue.unreadPairs, hnil], by simp⟩
  exact along_congr (fun _ a _ hs hn => hs.next a hn) (fun _ a hs => hs.observed_iff arith a) hstart
    actions

/-! ### A stop and a start before the reader runs -/

abbrev sampleNext : ReaderWorld ℕ → ReaderAction ℕ → Option (ReaderWorld ℕ) := next .int128

def sampleQueue : RxSampleQueue (ℕ × ℕ) := ⟨4, [], false, false, 0⟩

def sampleCall : ReadCall (ℕ × ℕ) :=
  ⟨[(0, 0), (0, 0)], 1, 1000000, by decide, by decide, by decide⟩

/-- The reader blocks, the session is stopped and started again, and a block arrives. -/
def sampleRestart : List (ReaderAction ℕ) :=
  [.start, .enter sampleCall, .stop, .start,
    .push (.vector ⟨[7, 8], by decide⟩) (.nanoseconds 0) (.ofFrequency 1000)]

theorem blocked_reader_observes_halt_restarted :
    Along sampleNext (HaltObserved .int128) ⟨0, sampleQueue, none⟩ (sampleRestart ++ [.wake]) ↔
      Along sampleNext HaltVisible ⟨0, sampleQueue, none⟩ (sampleRestart ++ [.wake]) :=
  blocked_reader_observes_halt .int128 4 sampleQueue rfl _

/-- The reader that was blocked at the stop returns the sample pushed after the restart, or, when no
block has arrived, times out. -/
theorem restart_hides_stop :
    ¬Along sampleNext (HaltObserved .int128) ⟨0, sampleQueue, none⟩ (sampleRestart ++ [.wake]) ∧
      ¬Along sampleNext (HaltObserved .int128) ⟨0, sampleQueue, none⟩
        ([.start, .enter sampleCall, .stop, .start] ++ [.expire]) := by
  constructor
  · intro halong
    have hrun : (run sampleNext ⟨0, sampleQueue, none⟩ sampleRestart).map (fun s =>
        (s.ended .wake).any fun w => w.halts = [⟨.stop, 2⟩] ∧
          (s.outcome .int128 w.call).result = .ok ⟨.samples, 1, 0, true⟩ ∧
          (s.outcome .int128 w.call).output = some [(4, 7), (4, 8)]) = some true := by
      decide +kernel
    obtain ⟨s, hs, hv⟩ := Option.map_eq_some_iff.mp hrun
    obtain ⟨w, hw, hv⟩ := (Option.any_eq_true _ _).mp hv
    obtain ⟨hhalts, hresult, houtput⟩ := of_decide_eq_true hv
    obtain ⟨r, hr, hobserves⟩ := along_append halong hs w hw (by simp [hhalts])
    cases hresult.symm.trans hr
    simp [houtput, hhalts, pairs, pushedBefore] at hobserves
  · intro halong
    have hrun : (run sampleNext ⟨0, sampleQueue, none⟩
        [.start, .enter sampleCall, .stop, .start]).map (fun s =>
        (s.ended .expire).any fun w => w.halts = [⟨.stop, 2⟩] ∧
          (s.outcome .int128 w.call).result = .ok ⟨.timeout, 0, 0, false⟩) = some true := by
      decide +kernel
    obtain ⟨s, hs, hv⟩ := Option.map_eq_some_iff.mp hrun
    obtain ⟨w, hw, hv⟩ := (Option.any_eq_true _ _).mp hv
    obtain ⟨hhalts, hresult⟩ := of_decide_eq_true hv
    obtain ⟨r, hr, hobserves⟩ := along_append halong hs w hw (by simp [hhalts])
    cases hresult.symm.trans hr
    exact hobserves

end ReaderWorld

end SoapySidekiq
