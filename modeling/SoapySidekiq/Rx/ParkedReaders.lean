import Mathlib.Control.Monad.Basic
import SoapySidekiq.Foundations.ThreadPool
import SoapySidekiq.Foundations.Transition
import SoapySidekiq.Rx.QueueRun

/-! # Readers parked in the queue

Any number of threads read from one queue. A reader whose wait predicate is false parks on
`data_available_`, and is woken by a notification, by its deadline or spuriously; then it takes the
mutex and evaluates the predicate again. The notifications come after the mutex is released, so they
stand here as calls still to be made: `notify_one` by a push that has queued a block, `notify_all` by
`stop`, `fail` and `reset`. -/
set_option autoImplicit false

namespace SoapySidekiq
open Transition
variable {α : Type}

/-! ## The system -/

/-- Where a reader stands: before the mutex, in the wait, woken from it, or back from `read`. -/
inductive ReaderPc (α : Type) where
  | entering
  | parked
  | woken (timedOut : Bool)
  | returned (result : Except Exception RxReadResult) (output : Option (List α))

structure Reader (α : Type) where
  output : Option (List α)
  requested : ℕ
  timeoutUs : ℤ
  pc : ReaderPc α

structure ReadersWorld (α : Type) where
  queue : RxSampleQueue α
  readers : List (Reader α)
  /-- The `notify_one` and `notify_all` calls still to be made. -/
  notifyOne : ℕ
  notifyAll : ℕ

inductive ReadersAction (α : Type) where
  | start
  | stop
  | fail
  | reset
  | push (source : Source α) (stamp : Stamp) (sampleRate : TimestampRate)
  | call (output : Option (List α)) (requested : ℕ) (timeoutUs : ℤ)
  | enter (reader : ℕ)
  | wakeSpuriously (reader : ℕ)
  | expire (reader : ℕ)
  | resume (reader : ℕ)
  | notifyOne (reader : ℕ)
  | notifyNobody
  | notifyAll

namespace Reader

def isParked (r : Reader α) : Bool :=
  match r.pc with
  | .parked => true
  | _ => false

/-- A reader that a notification or its deadline wakes. -/
def wake (timedOut : Bool) (r : Reader α) : Reader α :=
  if r.isParked then { r with pc := .woken timedOut } else r

/-- `read` returns before the mutex: bad arguments, or nothing requested. -/
def returnsAtOnce (r : Reader α) : Bool :=
  (r.requested != 0 && r.output.isNone) || r.timeoutUs < 0 || r.requested == 0

end Reader

namespace ReadersWorld

def create (q : RxSampleQueue α) : ReadersWorld α := ⟨q, [], 0, 0⟩

def parked (w : ReadersWorld α) : ℕ := w.readers.countP Reader.isParked

def setReader (w : ReadersWorld α) (i : ℕ) (r : Reader α) : ReadersWorld α :=
  { w with readers := w.readers.set i r }

/-- The reader ends its `read` on the queue as it stands. -/
def finish (arith : Arithmetic) (w : ReadersWorld α) (i : ℕ) (r : Reader α) : ReadersWorld α :=
  let outcome := w.queue.read arith r.output r.requested r.timeoutUs
  { w.setReader i { r with pc := .returned outcome.result outcome.output } with
    queue := outcome.queue }

/-- Whether a push queues its block: it neither throws nor finds the queue stopped. -/
def queuesBlock (arith : Arithmetic) (w : ReadersWorld α) (source : Source α) (stamp : Stamp)
    (sampleRate : TimestampRate) : Bool :=
  match (RxSampleQueue.pushOf arith w.queue sampleRate source stamp).1 with
  | .ok .accepted => true
  | .ok .droppedOldest => true
  | .ok .stopped => false
  | .error _ => false

/-- The section of a push, which notifies one reader if it has queued a block. -/
def push (arith : Arithmetic) (w : ReadersWorld α) (source : Source α) (stamp : Stamp)
    (sampleRate : TimestampRate) : ReadersWorld α :=
  { w with
    queue := (RxSampleQueue.pushOf arith w.queue sampleRate source stamp).2
    notifyOne := if w.queuesBlock arith source stamp sampleRate then w.notifyOne + 1 else w.notifyOne }

def next (arith : Arithmetic) (w : ReadersWorld α) : ReadersAction α → Option (ReadersWorld α)
  | .start => some { w with queue := w.queue.start }
  | .stop => some { w with queue := w.queue.stop, notifyAll := w.notifyAll + 1 }
  | .fail => some { w with queue := w.queue.fail, notifyAll := w.notifyAll + 1 }
  | .reset => some { w with queue := w.queue.reset, notifyAll := w.notifyAll + 1 }
  | .push source stamp sampleRate => some (w.push arith source stamp sampleRate)
  | .call output requested timeoutUs =>
    some { w with readers := w.readers ++ [⟨output, requested, timeoutUs, .entering⟩] }
  | .enter i =>
    match w.readers[i]? with
    | some r =>
      match r.pc with
      | .entering =>
        if r.returnsAtOnce || w.queue.ready then some (w.finish arith i r)
        else some (w.setReader i { r with pc := .parked })
      | _ => none
    | none => none
  | .wakeSpuriously i =>
    match w.readers[i]? with
    | some r => if r.isParked then some (w.setReader i (r.wake false)) else none
    | none => none
  | .expire i =>
    match w.readers[i]? with
    | some r => if r.isParked then some (w.setReader i (r.wake true)) else none
    | none => none
  | .resume i =>
    match w.readers[i]? with
    | some r =>
      match r.pc with
      | .woken timedOut =>
        if w.queue.ready || timedOut then some (w.finish arith i r)
        else some (w.setReader i { r with pc := .parked })
      | _ => none
    | none => none
  | .notifyOne i =>
    match w.readers[i]? with
    | some r =>
      if 0 < w.notifyOne ∧ r.isParked = true then
        some { w.setReader i (r.wake false) with notifyOne := w.notifyOne - 1 }
      else none
    | none => none
  | .notifyNobody =>
    if 0 < w.notifyOne ∧ w.parked = 0 then some { w with notifyOne := w.notifyOne - 1 } else none
  | .notifyAll =>
    if 0 < w.notifyAll then
      some { w with readers := w.readers.map (Reader.wake false), notifyAll := w.notifyAll - 1 }
    else none

/-! ## Notifications and stranded readers -/

/-- A `notify_all` still to be made reaches every parked reader; a `notify_one` reaches one of them, so
there have to be as many as there are parked readers. -/
def NotificationPending (w : ReadersWorld α) : Prop :=
  0 < w.notifyAll ∨ w.parked ≤ w.notifyOne

instance (w : ReadersWorld α) : Decidable w.NotificationPending :=
  inferInstanceAs (Decidable (_ ∨ _))

/-- A reader that is parked with no notification pending has a false wait predicate. -/
def NobodyStranded (w : ReadersWorld α) : Prop :=
  (∃ r ∈ w.readers, r.isParked = true) → ¬ w.NotificationPending →
    w.queue.blocks = [] ∧ w.queue.running = true ∧ w.queue.failed = false

/-- A push that queues a block finds at most one parked reader without a notification. -/
def AtMostOneUnnotified (arith : Arithmetic) (w : ReadersWorld α) : ReadersAction α → Prop
  | .push source stamp sampleRate =>
    w.queuesBlock arith source stamp sampleRate = true →
      0 < w.notifyAll ∨ w.parked ≤ w.notifyOne + 1
  | _ => True

theorem ready_eq_false_iff {q : RxSampleQueue α} :
    q.ready = false ↔ q.blocks = [] ∧ q.running = true ∧ q.failed = false := by
  rw [RxSampleQueue.ready]
  cases q.failed <;> cases q.running <;> cases q.blocks <;> simp

theorem parked_pos_iff {w : ReadersWorld α} :
    0 < w.parked ↔ ∃ r ∈ w.readers, r.isParked = true := by
  rw [parked, List.countP_pos_iff]

theorem parked_of_not_pending {w : ReadersWorld α} (h : ¬ w.NotificationPending) : 0 < w.parked := by
  have := (not_or.mp h).2
  omega

/-- The property in terms of the counters and the predicate. -/
theorem nobodyStranded_iff {w : ReadersWorld α} :
    w.NobodyStranded ↔ w.NotificationPending ∨ w.queue.ready = false := by
  rw [NobodyStranded, ← ready_eq_false_iff]
  constructor
  · intro h
    by_cases hpending : w.NotificationPending
    · exact Or.inl hpending
    · exact Or.inr (h (parked_pos_iff.mp (parked_of_not_pending hpending)) hpending)
  · rintro (hpending | hready) - hnone
    · exact absurd hpending hnone
    · exact hready

end ReadersWorld
/-! ## The steps -/

theorem RxSampleQueue.read_queue_of_not_ready {q : RxSampleQueue α} (h : q.ready = false)
    (arith : Arithmetic) (output : Option (List α)) (requested : ℕ) (timeoutUs : ℤ) :
    (q.read arith output requested timeoutUs).queue = q := by
  rw [read]
  split
  · rfl
  split
  · rfl
  split
  · rfl
  · rw [h]
    rfl

namespace ReadersWorld

/-- A push that queues its block leaves the wait predicate true; any other push changes nothing. -/
theorem push_queue (arith : Arithmetic) (w : ReadersWorld α) (source : Source α) (stamp : Stamp)
    (sampleRate : TimestampRate) :
    (w.queuesBlock arith source stamp sampleRate = true →
      (w.push arith source stamp sampleRate).queue.ready = true) ∧
    (w.queuesBlock arith source stamp sampleRate = false →
      (w.push arith source stamp sampleRate).queue = w.queue) := by
  simp only [queuesBlock, push]
  rcases RxSampleQueue.pushOf_cases arith w.queue sampleRate source stamp with
    ⟨e, he⟩ | ⟨v, b, -, -, -, -, hcase⟩
  · rw [he]
    exact ⟨fun h => absurd h Bool.false_ne_true, fun _ => rfl⟩
  · generalize RxSampleQueue.pushOf arith w.queue sampleRate source stamp = r at hcase ⊢
    cases hcase with
    | invalid | stopped => exact ⟨fun h => absurd h Bool.false_ne_true, fun _ => rfl⟩
    | dropped | accepted =>
      exact ⟨fun _ => by simp [RxSampleQueue.ready], fun h => absurd h.symm Bool.false_ne_true⟩

theorem parked_setReader {w : ReadersWorld α} {i : ℕ} {r : Reader α} (h : w.readers[i]? = some r)
    (r' : Reader α) :
    (w.setReader i r').parked + r.isParked.toNat = w.parked + r'.isParked.toNat :=
  ThreadPool.countP_set h

theorem wake_isParked (timedOut : Bool) (r : Reader α) : (r.wake timedOut).isParked = false := by
  rw [Reader.wake]
  split
  · rfl
  · rename_i hr
    exact Bool.eq_false_iff.mpr hr

/-- Nobody is stranded by a step that leaves the queue alone, parks nobody and takes no call away. -/
theorem NobodyStranded.keep {w w' : ReadersWorld α} (h : w.NobodyStranded)
    (hqueue : w'.queue = w.queue) (hone : w'.notifyOne = w.notifyOne)
    (hall : w'.notifyAll = w.notifyAll) (hparked : w'.parked ≤ w.parked) : w'.NobodyStranded := by
  rw [nobodyStranded_iff, NotificationPending] at h ⊢
  rw [hqueue, hone, hall]
  exact h.imp_left fun hpending => hpending.imp_right fun hle => hparked.trans hle

/-- A reader that is not parked ends its call. -/
theorem NobodyStranded.finish {w : ReadersWorld α} (h : w.NobodyStranded) {arith : Arithmetic} {i : ℕ}
    {r : Reader α} (hi : w.readers[i]? = some r) (hr : r.isParked = false) :
    (w.finish arith i r).NobodyStranded := by
  have hparked := parked_setReader hi { r with
    pc := .returned (w.queue.read arith r.output r.requested r.timeoutUs).result
      (w.queue.read arith r.output r.requested r.timeoutUs).output }
  rw [hr, show Reader.isParked _ = false from rfl] at hparked
  rw [nobodyStranded_iff] at h ⊢
  refine h.imp (fun hpending => ?_) fun hready => ?_
  · refine hpending.imp_right fun hle => ?_
    simp only [Bool.toNat_false, Nat.add_zero] at hparked
    exact hparked.le.trans hle
  · rw [ReadersWorld.finish]
    dsimp only
    rwa [RxSampleQueue.read_queue_of_not_ready hready]

/-- A reader parks only while its predicate is false. -/
theorem nobodyStranded_park {w : ReadersWorld α} (h : w.queue.ready = false) (i : ℕ) (r : Reader α) :
    (w.setReader i r).NobodyStranded :=
  nobodyStranded_iff.mpr (Or.inr h)

/-- Waking a parked reader, with at most one call made for it. -/
theorem NobodyStranded.wake {w : ReadersWorld α} (h : w.NobodyStranded) {i : ℕ} {r : Reader α}
    (hi : w.readers[i]? = some r) (hr : r.isParked = true) (timedOut : Bool) {notifyOne : ℕ}
    (hone : w.notifyOne ≤ notifyOne + 1) :
    ({ w.setReader i (r.wake timedOut) with notifyOne := notifyOne } :
      ReadersWorld α).NobodyStranded := by
  have hparked := parked_setReader hi (r.wake timedOut)
  rw [hr, wake_isParked] at hparked
  rw [nobodyStranded_iff] at h ⊢
  refine h.imp_left fun hpending => hpending.imp_right fun hle => ?_
  have : (w.setReader i (r.wake timedOut)).parked + 1 = w.parked := hparked
  show (w.setReader i (r.wake timedOut)).parked ≤ notifyOne
  omega

/-- What the condition decides: for a push whether somebody is stranded, and no other step strands
anybody. -/
theorem next_stranded_iff {arith : Arithmetic} {w w' : ReadersWorld α} {a : ReadersAction α}
    (h : w.NobodyStranded) (hnext : w.next arith a = some w') :
    w.AtMostOneUnnotified arith a ↔ w'.NobodyStranded := by
  cases a with
  | start =>
    cases hnext
    exact iff_of_true trivial (nobodyStranded_iff.mpr (Or.inr rfl))
  | stop =>
    cases hnext
    exact iff_of_true trivial (nobodyStranded_iff.mpr (Or.inl (Or.inl (Nat.succ_pos _))))
  | fail =>
    cases hnext
    exact iff_of_true trivial (nobodyStranded_iff.mpr (Or.inl (Or.inl (Nat.succ_pos _))))
  | reset =>
    cases hnext
    exact iff_of_true trivial (nobodyStranded_iff.mpr (Or.inl (Or.inl (Nat.succ_pos _))))
  | push source stamp sampleRate =>
    cases hnext
    have hqueue := w.push_queue arith source stamp sampleRate
    cases hqueues : w.queuesBlock arith source stamp sampleRate with
    | true =>
      have hready := hqueue.1 hqueues
      have hone : (w.push arith source stamp sampleRate).notifyOne = w.notifyOne + 1 := by
        rw [push, hqueues]
        rfl
      rw [nobodyStranded_iff, hready, or_iff_left (by decide), NotificationPending, hone]
      exact ⟨fun hC => hC hqueues, fun hC _ => hC⟩
    | false =>
      refine iff_of_true (fun hC => ?_) (h.keep (hqueue.2 hqueues) ?_ rfl (Nat.le_refl _))
      · rw [hqueues] at hC
        cases hC
      · rw [push, hqueues]
        rfl
  | call output requested timeoutUs =>
    cases hnext
    refine iff_of_true trivial (h.keep rfl rfl rfl (Nat.le_of_eq ?_))
    rw [parked, List.countP_append]
    rfl
  | enter i =>
    refine iff_of_true trivial ?_
    rw [next] at hnext
    cases hi : w.readers[i]? with
    | none =>
      rw [hi] at hnext
      cases hnext
    | some r =>
      rw [hi] at hnext
      dsimp only at hnext
      cases hpc : r.pc with
      | entering =>
        rw [hpc] at hnext
        dsimp only at hnext
        split at hnext
        · cases hnext
          exact h.finish hi (by rw [Reader.isParked, hpc])
        · rename_i hwait
          cases hnext
          refine nobodyStranded_park ?_ i _
          rw [Bool.or_eq_true, not_or] at hwait
          exact Bool.eq_false_iff.mpr hwait.2
      | parked => rw [hpc] at hnext; cases hnext
      | woken timedOut => rw [hpc] at hnext; cases hnext
      | returned result output => rw [hpc] at hnext; cases hnext
  | wakeSpuriously i =>
    refine iff_of_true trivial ?_
    rw [next] at hnext
    split at hnext
    · rename_i r hi
      split at hnext
      · rename_i hr
        cases hnext
        exact h.wake hi hr false (Nat.le_succ _)
      · cases hnext
    · cases hnext
  | expire i =>
    refine iff_of_true trivial ?_
    rw [next] at hnext
    split at hnext
    · rename_i r hi
      split at hnext
      · rename_i hr
        cases hnext
        exact h.wake hi hr true (Nat.le_succ _)
      · cases hnext
    · cases hnext
  | resume i =>
    refine iff_of_true trivial ?_
    rw [next] at hnext
    cases hi : w.readers[i]? with
    | none =>
      rw [hi] at hnext
      cases hnext
    | some r =>
      rw [hi] at hnext
      dsimp only at hnext
      cases hpc : r.pc with
      | woken timedOut =>
        rw [hpc] at hnext
        dsimp only at hnext
        split at hnext
        · cases hnext
          exact h.finish hi (by rw [Reader.isParked, hpc])
        · rename_i hwait
          cases hnext
          refine nobodyStranded_park ?_ i _
          rw [Bool.or_eq_true, not_or] at hwait
          exact Bool.eq_false_iff.mpr hwait.1
      | parked => rw [hpc] at hnext; cases hnext
      | entering => rw [hpc] at hnext; cases hnext
      | returned result output => rw [hpc] at hnext; cases hnext
  | notifyOne i =>
    refine iff_of_true trivial ?_
    rw [next] at hnext
    split at hnext
    · rename_i r hi
      split at hnext
      · rename_i hcall
        cases hnext
        exact h.wake hi hcall.2 false (by omega)
      · cases hnext
    · cases hnext
  | notifyNobody =>
    refine iff_of_true trivial ?_
    rw [next] at hnext
    split at hnext
    · rename_i hcall
      cases hnext
      refine nobodyStranded_iff.mpr (Or.inl (Or.inr ?_))
      exact le_of_eq_of_le hcall.2 (Nat.zero_le _)
    · cases hnext
  | notifyAll =>
    refine iff_of_true trivial ?_
    rw [next] at hnext
    split at hnext
    · cases hnext
      refine nobodyStranded_iff.mpr (Or.inl (Or.inr ?_))
      refine le_of_eq_of_le (List.countP_eq_zero.mpr ?_) (Nat.zero_le _)
      intro r hr
      obtain ⟨r', -, rfl⟩ := List.mem_map.mp hr
      simp [wake_isParked]
    · cases hnext

/-! ## Runs -/

theorem create_nobodyStranded (q : RxSampleQueue α) : (create q).NobodyStranded := by
  rintro ⟨r, hr, -⟩
  cases hr

/-- In every run, nobody is ever stranded exactly when every push that queues a block finds at most
one parked reader without a notification. -/
theorem nobody_stranded_iff (arith : Arithmetic) (q : RxSampleQueue α)
    (as : List (ReadersAction α)) :
    Along (next arith) (AtMostOneUnnotified arith) (create q) as ↔
      ∀ bs w, bs <+: as → run (next arith) (create q) bs = some w → w.NobodyStranded := by
  refine along_iff_always (fun w a w' h hnext => next_stranded_iff h hnext) ?_
    (create_nobodyStranded q) as
  intro w a hnext
  cases a with
  | push source stamp sampleRate => cases hnext
  | _ => trivial

theorem twoPairs_lt : ([1, 2, 3, 4] : List Int16).length < 2 ^ 64 := by decide

/-- Two readers park, a push of two pairs wakes one of them, and that one reads the first pair. -/
def strandingRun : List (ReadersAction Int16) :=
  [.start, .call (some [0, 0]) 1 1000, .call (some [0, 0]) 1 1000, .enter 0, .enter 1,
    .push (.vector ⟨[1, 2, 3, 4], twoPairs_lt⟩) (.nanoseconds 0) ⟨1, 1, UInt64.zero_lt_one⟩, .notifyOne 0,
    .resume 0]

/-- The second reader stays parked beside the other pair, and no call is still to be made. -/
theorem reader_parked_beside_data :
    ∃ q w, RxSampleQueue.create 4 = .ok q ∧ run (next .portable) (create q) strandingRun = some w ∧
      ¬ w.NobodyStranded ∧ w.notifyOne = 0 ∧ w.notifyAll = 0 ∧ w.parked = 1 ∧
      w.queue.blocks.length = 1 := by
  have hrun : ((run (next .portable) (create ⟨4, [], false, false, 0⟩) strandingRun).map fun w =>
      decide (w.notifyOne = 0 ∧ w.notifyAll = 0 ∧ w.parked = 1 ∧ w.queue.blocks.length = 1)) =
        some true := by decide +kernel
  obtain ⟨w, hw, hfacts⟩ := Option.map_eq_some_iff.mp hrun
  obtain ⟨hone, hall, hparked, hblocks⟩ := of_decide_eq_true hfacts
  refine ⟨_, w, rfl, hw, fun h => ?_, hone, hall, hparked, hblocks⟩
  have hpending : ¬ w.NotificationPending := by
    rw [NotificationPending, hone, hall, hparked]
    decide
  have hempty := (h (parked_pos_iff.mp (by omega)) hpending).1
  rw [hempty] at hblocks
  cases hblocks

end ReadersWorld

end SoapySidekiq
