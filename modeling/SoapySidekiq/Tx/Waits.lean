import SoapySidekiq.Foundations.WaitGraph
import SoapySidekiq.Tx.Calls

/-! # Who waits for whom

The three mutexes and the join of the PPS worker. Only a status call takes a mutex while it holds
another one, and nobody who holds one waits for anything but a mutex, so nobody waits in a circle. -/
set_option autoImplicit false

namespace SoapySidekiq

/-! ## Mutexes that a thread goes for -/

/-- The mutexes that the next step of a write call takes. -/
def Writer.wants (w : Writer) (m : Mutex) : Bool :=
  match w.pc with
  | .admission | .releasing _ | .leaving _ => m == .completion
  | .locking site _ => m == site.mutex
  | _ => false

def Poller.wants (p : Poller) (m : Mutex) : Bool :=
  match p.pc with
  | .statusLocking => m == .status
  | .checkLocking => m == .tx || m == .completion
  | .admission | .waitLocking _ | .leaving _ => m == .completion
  | _ => false

def PpsWorker.wants (worker : PpsWorker) (m : Mutex) : Bool :=
  match worker with
  | .publishing _ => m == .tx || m == .status
  | _ => false

def TxLifecyclePc.wants (pc : TxLifecyclePc) (m : Mutex) : Bool :=
  match pc with
  | .stopFlag _ | .opening => m == .tx || m == .completion
  | .draining _ => m == .completion
  | .resetStart _ => m == .tx
  | .resetUnderruns => m == .status
  | _ => false

def Writer.isParked (w : Writer) : Bool :=
  match w.pc with
  | .parked _ => true
  | _ => false

def Poller.isParked (p : Poller) : Bool :=
  match p.pc with
  | .waitParked => true
  | _ => false

/-- A write call that is neither parked nor in the SDK can move when it gets its mutexes. -/
theorem writerStep_run_isSome {free : Mutex → Bool} {d : TxDevice} {id : ℕ} {w : Writer}
    (hadmitted : w.admitted = true) (htransmit : w.inTransmit = false) (hparked : w.isParked = false)
    (hfree : ∀ m, w.wants m = true → free m = true) : (d.writerStep free id w .run).isSome = true := by
  obtain ⟨request, pc, txHandle, currBlock, inbuffPtr, observed, slot, context⟩ := w
  cases pc with
  | enter | admission | notifying | returned => simp [Writer.admitted] at hadmitted
  | transmitting | accepted => simp [Writer.inTransmit] at htransmit
  | parked => simp [Writer.isParked] at hparked
  | validate => simp only [TxDevice.writerStep]; split <;> rfl
  | locking site => simp [TxDevice.writerStep, hfree site.mutex (by simp [Writer.wants])]
  | releasing | leaving =>
    simp [TxDevice.writerStep, hfree .completion (by simp [Writer.wants])]
  | _ => rfl

theorem pollerStep_run_isSome {free : Mutex → Bool} {d : TxDevice} {p : Poller}
    (hadmitted : p.admitted = true) (hread : p.inRead = false) (hparked : p.isParked = false)
    (hfree : ∀ m, p.wants m = true → free m = true) : (d.pollerStep free p .run).isSome = true := by
  obtain ⟨request, pc, txHandle, chanMask⟩ := p
  cases pc with
  | enter | admission | notifying | returned => simp [Poller.admitted] at hadmitted
  | reading => simp [Poller.inRead] at hread
  | waitParked => simp [Poller.isParked] at hparked
  | statusLocking => simp [TxDevice.pollerStep, hfree .status (by simp [Poller.wants])]
  | checkLocking =>
    simp [TxDevice.pollerStep, hfree .tx (by simp [Poller.wants]),
      hfree .completion (by simp [Poller.wants])]
  | waitLocking | leaving =>
    simp [TxDevice.pollerStep, hfree .completion (by simp [Poller.wants])]
  | waitInside => simp only [TxDevice.pollerStep]; split <;> (try split) <;> rfl
  | _ => rfl

/-! ## The graph -/

/-- The threads of the system: the calls, the PPS worker, a completion callback for the context at
some place, and the lifecycle. -/
inductive TxThread where
  | writer (id : ℕ)
  | poller (id : ℕ)
  | pps
  | callback (index : ℕ)
  | lifecycle

namespace TxSystem

/-- The next step of the thread takes the mutex. -/
def Wants (s : TxSystem) : TxThread → Mutex → Prop
  | .writer id, m => ∃ w, s.writers[id]? = some w ∧ w.wants m = true
  | .poller id, m => ∃ p, s.pollers[id]? = some p ∧ p.wants m = true
  | .pps, m => ∃ worker, s.device.txStreamingThread = some worker ∧ worker.wants m = true
  | .callback index, m => ∃ context, s.device.inFlight[index]? = some context ∧
      context.completion = s.device.txCompletion ∧ m = .completion
  | .lifecycle, m => s.lifecycle.wants m = true

/-- The thread holds the mutex between its steps. -/
def Holds (s : TxSystem) : TxThread → Mutex → Prop
  | .writer id, m => ∃ w, s.writers[id]? = some w ∧ w.holds m = true
  | .poller id, m => ∃ p, s.pollers[id]? = some p ∧ p.holds m = true
  | _, _ => False

/-- One thread cannot go on before another one does. -/
inductive WaitsFor (s : TxSystem) : TxThread → TxThread → Prop where
  | lock {x y : TxThread} (m : Mutex) (hwants : s.Wants x m) (hholds : s.Holds y m) : WaitsFor s x y
  | join (caller : StopCaller) (worker : PpsWorker) (hpc : s.lifecycle = .joining caller)
      (hworker : s.device.txStreamingThread = some worker)
      (hunfinished : ∀ status, worker ≠ .finished status) : WaitsFor s .lifecycle .pps

theorem free_or_held (s : TxSystem) (m : Mutex) : s.free m = true ∨ ∃ y, s.Holds y m := by
  by_cases hheld : ∃ y, s.Holds y m
  · exact .inr hheld
  · refine .inl ?_
    simp only [free, Bool.and_eq_true, List.all_eq_true, Bool.not_eq_true']
    constructor
    · intro w hw
      obtain ⟨id, hid⟩ := List.getElem?_of_mem hw
      by_contra hholds
      exact hheld ⟨.writer id, w, hid, by simpa using hholds⟩
    · intro p hp
      obtain ⟨id, hid⟩ := List.getElem?_of_mem hp
      by_contra hholds
      exact hheld ⟨.poller id, p, hid, by simpa using hholds⟩

/-- Who waits for nobody gets the mutexes that it goes for. -/
theorem free_of_unblocked {s : TxSystem} {x : TxThread} (h : ∀ y, ¬ s.WaitsFor x y) {m : Mutex}
    (hwants : s.Wants x m) : s.free m = true := by
  rcases s.free_or_held m with hfree | ⟨y, hholds⟩
  · exact hfree
  · exact absurd (.lock m hwants hholds) (h y)

/-! ### Ranks -/

end TxSystem

/-- How far a thread is from moving: a call that holds a mutex goes for none, but for a status call on
the way into the section under all three. -/
def Writer.rank (w : Writer) : ℕ :=
  match w.pc with
  | .inside _ _ | .sleeping _ => 0
  | _ => 2

def Poller.rank (p : Poller) : ℕ :=
  match p.pc with
  | .checkInside | .reading | .waitInside _ | .waitSleeping => 0
  | .checkLocking => 1
  | _ => 2

theorem Writer.wants_rank {w : Writer} {m : Mutex} (h : w.wants m = true) : w.rank = 2 := by
  cases hpc : w.pc <;> simp [wants, hpc] at h <;> simp [rank, hpc]

theorem Writer.holds_rank {w : Writer} {m : Mutex} (h : w.holds m = true) : w.rank = 0 := by
  cases hpc : w.pc <;> simp [holds, hpc] at h <;> simp [rank, hpc]

theorem Poller.wants_rank {p : Poller} {m : Mutex} (h : p.wants m = true) :
    p.rank = 2 ∨ p.rank = 1 ∧ m ≠ .status := by
  cases hpc : p.pc <;> simp [wants, hpc] at h <;> simp [rank, hpc, h]
  rcases h with rfl | rfl <;> simp

theorem Poller.holds_rank {p : Poller} {m : Mutex} (h : p.holds m = true) :
    p.rank = 0 ∨ p.rank = 1 ∧ m = .status := by
  cases hpc : p.pc <;> simp [holds, hpc] at h <;> simp [rank, hpc, h]

theorem Writer.holds_admitted {w : Writer} {m : Mutex} (h : w.holds m = true) : w.admitted = true := by
  cases hpc : w.pc <;> simp [holds, hpc] at h <;> simp [admitted, hpc]

theorem Poller.holds_admitted {p : Poller} {m : Mutex} (h : p.holds m = true) : p.admitted = true := by
  cases hpc : p.pc <;> simp [holds, hpc] at h <;> simp [admitted, hpc]

namespace TxSystem

def rank (s : TxSystem) : TxThread → ℕ
  | .writer id => (s.writers[id]?.map Writer.rank).getD 0
  | .poller id => (s.pollers[id]?.map Poller.rank).getD 0
  | .pps | .callback _ => 2
  | .lifecycle => 3

/-- A holder is an admitted call, and of a low rank. -/
theorem Holds.rank {s : TxSystem} {y : TxThread} {m : Mutex} (h : s.Holds y m) :
    s.rank y = 0 ∨ s.rank y = 1 ∧ m = .status := by
  cases y with
  | writer id =>
    obtain ⟨w, hw, hholds⟩ := h
    exact .inl (by simp [TxSystem.rank, hw, Writer.holds_rank hholds])
  | poller id =>
    obtain ⟨p, hp, hholds⟩ := h
    simpa [TxSystem.rank, hp] using Poller.holds_rank hholds
  | pps | callback | lifecycle => exact h.elim

theorem Wants.rank {s : TxSystem} {x : TxThread} {m : Mutex} (h : s.Wants x m) :
    2 ≤ s.rank x ∨ s.rank x = 1 ∧ m ≠ .status := by
  cases x with
  | writer id =>
    obtain ⟨w, hw, hwants⟩ := h
    exact .inl (by simp [TxSystem.rank, hw, Writer.wants_rank hwants])
  | poller id =>
    obtain ⟨p, hp, hwants⟩ := h
    rcases Poller.wants_rank hwants with hrank | hrank
    · exact .inl (by simp [TxSystem.rank, hp, hrank])
    · exact .inr (by simpa [TxSystem.rank, hp] using hrank)
  | pps | callback | lifecycle => exact .inl (by simp [TxSystem.rank])

theorem WaitsFor.rank_lt {s : TxSystem} {x y : TxThread} (h : s.WaitsFor x y) :
    s.rank y < s.rank x := by
  cases h with
  | lock m hwants hholds =>
    rcases hwants.rank with hx | ⟨hx, hm⟩ <;> rcases hholds.rank with hy | ⟨hy, hm'⟩
    · omega
    · omega
    · omega
    · exact absurd hm' hm
  | join => simp [TxSystem.rank]

/-! ### Admitted calls -/

/-- The thread is an admitted call. -/
def IsAdmitted (s : TxSystem) : TxThread → Prop
  | .writer id => ∃ w, s.writers[id]? = some w ∧ w.admitted = true
  | .poller id => ∃ p, s.pollers[id]? = some p ∧ p.admitted = true
  | _ => False

/-- The thread is parked on a condition. -/
def IsParked (s : TxSystem) : TxThread → Prop
  | .writer id => ∃ w, s.writers[id]? = some w ∧ w.isParked = true
  | .poller id => ∃ p, s.pollers[id]? = some p ∧ p.isParked = true
  | _ => False

/-- The call is in the SDK, or its next step is enabled whatever the clock, the completions and the
PPS do. -/
def CanMove (s : TxSystem) : TxThread → Prop
  | .writer id => (∃ w, s.writers[id]? = some w ∧ w.inTransmit = true) ∨
      (s.next (.writer id .run)).isSome = true
  | .poller id => (∃ p, s.pollers[id]? = some p ∧ p.inRead = true) ∨
      (s.next (.poller id .run)).isSome = true
  | _ => False

theorem WaitsFor.admitted {s : TxSystem} {x y : TxThread} (hx : s.IsAdmitted x) (h : s.WaitsFor x y) :
    s.IsAdmitted y := by
  cases h with
  | lock m hwants hholds =>
    cases y with
    | writer id =>
      obtain ⟨w, hw, hholds⟩ := hholds
      exact ⟨w, hw, Writer.holds_admitted hholds⟩
    | poller id =>
      obtain ⟨p, hp, hholds⟩ := hholds
      exact ⟨p, hp, Poller.holds_admitted hholds⟩
    | pps | callback | lifecycle => exact hholds.elim
  | join => exact hx.elim

/-- An admitted call that is not parked and waits for nobody can move. -/
theorem canMove_of_unblocked {s : TxSystem} {x : TxThread} (hx : s.IsAdmitted x)
    (hparked : ¬ s.IsParked x) (hfree : ∀ y, ¬ s.WaitsFor x y) : s.CanMove x := by
  cases x with
  | writer id =>
    obtain ⟨w, hw, hadmitted⟩ := hx
    cases htransmit : w.inTransmit with
    | true => exact .inl ⟨w, hw, htransmit⟩
    | false =>
      refine .inr ?_
      simp only [next, hw, Option.isSome_map]
      exact writerStep_run_isSome hadmitted htransmit
        (Bool.eq_false_iff.mpr fun h => hparked ⟨w, hw, h⟩)
        fun m hwants => free_of_unblocked hfree ⟨w, hw, hwants⟩
  | poller id =>
    obtain ⟨p, hp, hadmitted⟩ := hx
    cases hread : p.inRead with
    | true => exact .inl ⟨p, hp, hread⟩
    | false =>
      refine .inr ?_
      simp only [next, hp, Option.isSome_map]
      exact pollerStep_run_isSome hadmitted hread
        (Bool.eq_false_iff.mpr fun h => hparked ⟨p, hp, h⟩)
        fun m hwants => free_of_unblocked hfree ⟨p, hp, hwants⟩
  | pps | callback | lifecycle => exact hx.elim

/-- While nobody is parked, whoever is admitted waits in the end for a call that can move. -/
theorem exists_canMove {s : TxSystem} (hparked : ∀ x, ¬ s.IsParked x) {x : TxThread}
    (hx : s.IsAdmitted x) : ∃ y, s.IsAdmitted y ∧ s.CanMove y := by
  obtain ⟨y, hy, -, hfree⟩ := WaitGraph.exists_unblocked (P := s.IsAdmitted)
    (fun _ _ h => WaitsFor.rank_lt h) (fun _ _ hx h => WaitsFor.admitted hx h) hx
  exact ⟨y, hy, canMove_of_unblocked hy (hparked y) hfree⟩

end TxSystem

end SoapySidekiq
