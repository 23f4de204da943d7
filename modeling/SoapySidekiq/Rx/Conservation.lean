import SoapySidekiq.Rx.QueueRun

/-! # Conservation of received samples

In every reachable state of the sample queue the IQ pairs of the session's accepted pushes, in push
order, are the delivered pieces, the discarded remainders and the queued pairs. -/
set_option autoImplicit false

namespace SoapySidekiq
open Interleaved LossyFifo RxSampleQueue
variable {α : Type}

/-! ## The queued blocks are the latest accepted ones -/

def Aligned (arith : Arithmetic) (pushed : List (Pushed α)) (blocks : List (Block α)) : Prop :=
  ∃ gone queued, pushed = gone ++ queued ∧ List.Forall₂ (Stamped arith) queued blocks

theorem Aligned.nil {arith : Arithmetic} {pushed : List (Pushed α)} : Aligned arith pushed [] :=
  ⟨pushed, [], (List.append_nil _).symm, .nil⟩

theorem Aligned.tail {arith : Arithmetic} {pushed : List (Pushed α)} {blocks : List (Block α)}
    (h : Aligned arith pushed blocks) : Aligned arith pushed blocks.tail := by
  obtain ⟨gone, queued, hp, hq⟩ := h
  cases hq with
  | nil => exact .nil
  | cons hb hrest => exact ⟨gone ++ [_], _, by rw [hp, List.append_assoc]; rfl, hrest⟩

theorem Aligned.append {arith : Arithmetic} {pushed : List (Pushed α)} {blocks : List (Block α)}
    (h : Aligned arith pushed blocks) {p : Pushed α} {b : Block α} (hb : Stamped arith p b) :
    Aligned arith (pushed ++ [p]) (blocks ++ [b]) := by
  obtain ⟨gone, queued, hp, hq⟩ := h
  exact ⟨gone, queued ++ [p], by rw [hp, List.append_assoc], List.rel_append hq (.cons hb .nil)⟩

theorem Aligned.readLoop {arith : Arithmetic} {pushed : List (Pushed α)} (requested : ℕ)
    (blocks : List (Block α)) (samples : ℕ) (output : List α) (h : Aligned arith pushed blocks) :
    Aligned arith pushed (readLoop requested blocks samples output).1 := by
  induction blocks generalizing samples output with
  | nil => exact h
  | cons b rest ih =>
    unfold RxSampleQueue.readLoop
    split
    · simp only
      split
      · exact ih _ _ h.tail
      · obtain ⟨gone, queued, hp, hq⟩ := h
        cases hq with
        | cons hb hrest => exact ⟨gone, _, hp, .cons hb hrest⟩
    · exact h

/-! ## What one section does to the queue and its ledger -/

namespace Observed

theorem step_push (arith : Arithmetic) (st : Observed α) (source : Source α) (stamp : Stamp)
    (sampleRate : TimestampRate) :
    (st.step arith (.push source stamp sampleRate) = st ∧
      ∀ status, (perform arith st.queue (.push source stamp sampleRate)).result =
        .ok (.pushed status) → status = .stopped) ∨
    ∃ v b, Stamped arith ⟨v, stamp, sampleRate⟩ b ∧ b.offset = 0 ∧ b.WellFormed ∧
      st.queue.running = true ∧ st.queue.failed = false ∧
      ((st.queue.blocks.length = st.queue.capacityBlocks ∧
        st.step arith (.push source stamp sampleRate) =
          ⟨{ st.queue with
              blocks := st.queue.blocks.tail ++ [b]
              droppedBlocks := st.queue.droppedBlocks + 1 },
            (st.session.remove .discarded (unreadPairs (st.queue.blocks.take 1))).accept
              ⟨v, stamp, sampleRate⟩⟩) ∨
      (st.queue.blocks.length ≠ st.queue.capacityBlocks ∧
        st.step arith (.push source stamp sampleRate) =
          ⟨{ st.queue with blocks := st.queue.blocks ++ [b] },
            st.session.accept ⟨v, stamp, sampleRate⟩⟩)) := by
  simp only [step, record, perform]
  rcases pushOf_cases arith st.queue sampleRate source stamp with ⟨e, h⟩ | ⟨v, b, hv, hst, hoff, hph, h⟩
  · left
    simp [h, Except.map]
  · generalize pushOf arith st.queue sampleRate source stamp = r at h ⊢
    cases h with
    | invalid e _ => left; simp [hv, Except.map]
    | stopped _ => left; simp [hv, Except.map]
    | dropped hrun hok hsize heven hrate hfull =>
      refine .inr ⟨v, b, hst, hoff, ⟨heven, by rw [hoff]; omega, hrate, hph⟩, hrun, hok, .inl ⟨hfull, ?_⟩⟩
      simp [hv, Except.map]
    | accepted hrun hok hsize heven hrate hroom =>
      refine .inr ⟨v, b, hst, hoff, ⟨heven, by rw [hoff]; omega, hrate, hph⟩, hrun, hok, .inr ⟨hroom, ?_⟩⟩
      simp [hv, Except.map]

theorem step_read (arith : Arithmetic) (st : Observed α) (hwf : st.queue.WellFormed)
    (output : Option (List α)) (requested : ℕ) (timeoutUs : ℤ)
    (room : ∀ out, output = some out → requested * 2 ≤ out.length) :
    st.step arith (.read output requested timeoutUs room) = st ∨
    st.step arith (.read output requested timeoutUs room) =
      ⟨st.queue, st.session.remove .delivered []⟩ ∨
    ∃ blocks, st.step arith (.read output requested timeoutUs room) =
        ⟨{ st.queue with blocks := blocks },
          st.session.remove .delivered (st.queue.unread.take requested)⟩ ∧
      WellFormedBlocks blocks ∧ blocks.length ≤ st.queue.blocks.length ∧
      unreadPairs blocks = st.queue.unread.drop requested ∧
      (∀ pushed, Aligned arith pushed st.queue.blocks → Aligned arith pushed blocks) := by
  simp only [step, record, perform]
  have h := read_cases arith st.queue output requested timeoutUs
  generalize RxSampleQueue.read arith st.queue output requested timeoutUs = r at h ⊢
  cases h with
  | failed e => left; rfl
  | nothing status h =>
    cases status <;> cases output <;> first | exact .inl rfl | exact .inr (.inl rfl)
  | copied front rest out timeNs hblocks hout hreq htime =>
    right; right
    have hl := readLoop_result requested st.queue.blocks 0 out hwf.toWellFormedBlocks
      (Nat.zero_le _) (room out hout)
    have hcopied := hl.copied
    rw [Nat.zero_mul, List.take_zero, pairs_nil, List.nil_append, Nat.sub_zero] at hcopied
    refine ⟨_, ?_, hl.wellFormed, hl.shorter, hl.left,
      fun pushed ha => ha.readLoop requested _ 0 out⟩
    simp only [Except.map, hcopied]
    rfl

end Observed

/-! ## The invariant of a run -/

/-- The queue is well formed, holds the latest accepted blocks, and its ledger is balanced. -/
structure Consistent (arith : Arithmetic) (capacity : ℕ) (st : Observed α) : Prop where
  wellFormed : st.queue.WellFormed
  capacity : st.queue.capacityBlocks = capacity
  aligned : Aligned arith st.session.blocks st.queue.blocks
  pushed : st.session.ledger.pushed = st.session.pushedPairs
  balanced : st.session.ledger.Balanced st.queue.unread
  dropped : (st.session.ledger.ofFate .discarded).length = st.queue.droppedBlocks
  remainder : ∀ items ∈ st.session.ledger.ofFate .discarded, items ≠ []

theorem Consistent.initial (arith : Arithmetic) {capacity : ℕ} (h : 0 < capacity) :
    Consistent arith capacity (⟨⟨capacity, [], false, false, 0⟩, .empty⟩ : Observed α) where
  wellFormed := { WellFormedBlocks.nil with
    capacity_pos := h
    bounded := Nat.zero_le _
    exclusive := by simp }
  capacity := rfl
  aligned := .nil
  pushed := rfl
  balanced := Ledger.balanced_empty
  dropped := rfl
  remainder := by simp [Session.empty, Ledger.empty, Ledger.ofFate]

theorem Consistent.of_create (arith : Arithmetic) {capacity : ℕ} {q : RxSampleQueue α}
    (h : RxSampleQueue.create capacity = .ok q) :
    Consistent arith capacity (⟨q, .empty⟩ : Observed α) := by
  unfold RxSampleQueue.create at h
  split at h
  · cases h
  · cases h
    exact .initial arith (by omega)

/-- An empty queue with an empty ledger, as `start` and `reset` leave it. -/
theorem Consistent.fresh {arith : Arithmetic} {capacity : ℕ} {st : Observed α}
    (h : Consistent arith capacity st) (running : Bool) :
    Consistent arith capacity
      (⟨{ st.queue with blocks := [], running := running, failed := false, droppedBlocks := 0 },
        .empty⟩ : Observed α) where
  wellFormed := { WellFormedBlocks.nil with
    capacity_pos := h.wellFormed.capacity_pos
    bounded := Nat.zero_le _
    exclusive := by simp }
  capacity := h.capacity
  aligned := .nil
  pushed := rfl
  balanced := Ledger.balanced_empty
  dropped := rfl
  remainder := by simp [Session.empty, Ledger.empty, Ledger.ofFate]

/-- Clearing `running` changes nothing but the flags. -/
theorem Consistent.halted {arith : Arithmetic} {capacity : ℕ} {st : Observed α}
    (h : Consistent arith capacity st) (failed : Bool) :
    Consistent arith capacity
      ⟨{ st.queue with running := false, failed := failed }, st.session⟩ :=
  { h with
    wellFormed := { h.wellFormed with exclusive := by simp } }

theorem Consistent.delivered {arith : Arithmetic} {capacity : ℕ} {st : Observed α}
    (h : Consistent arith capacity st) {blocks : List (Block α)} (requested : ℕ)
    (hwf : WellFormedBlocks blocks) (hlen : blocks.length ≤ st.queue.blocks.length)
    (hleft : unreadPairs blocks = st.queue.unread.drop requested)
    (hal : Aligned arith st.session.blocks blocks) :
    Consistent arith capacity ⟨{ st.queue with blocks := blocks },
      st.session.remove .delivered (st.queue.unread.take requested)⟩ where
  wellFormed := { hwf with
    capacity_pos := h.wellFormed.capacity_pos
    bounded := hlen.trans h.wellFormed.bounded
    exclusive := h.wellFormed.exclusive }
  capacity := h.capacity
  aligned := hal
  pushed := h.pushed
  balanced := by
    have hb := h.balanced.take .delivered requested
    rw [← hleft] at hb
    exact hb
  dropped := by
    rw [← h.dropped]
    exact congrArg _ (Ledger.ofFate_remove_other _ (by decide) _)
  remainder := by
    intro items hi
    rw [Session.remove, Ledger.ofFate_remove_other _ (by decide)] at hi
    exact h.remainder items hi

theorem unread_append (blocks : List (Block α)) (b : Block α) :
    unreadPairs (blocks ++ [b]) = unreadPairs blocks ++ b.unread := by
  simp [unreadPairs]

theorem unread_fresh {arith : Arithmetic} {p : Pushed α} {b : Block α} (h : Stamped arith p b)
    (hoff : b.offset = 0) : b.unread = p.samples.iqPairs := by
  rw [Block.unread, hoff, List.drop_zero, h.1]

theorem Consistent.accepted {arith : Arithmetic} {capacity : ℕ} {st : Observed α}
    (h : Consistent arith capacity st) {p : Pushed α} {b : Block α} (hst : Stamped arith p b)
    (hoff : b.offset = 0) (hb : b.WellFormed) (hroom : st.queue.blocks.length < capacity) :
    Consistent arith capacity
      ⟨{ st.queue with blocks := st.queue.blocks ++ [b] }, st.session.accept p⟩ where
  wellFormed := { h.wellFormed.toWellFormedBlocks.append_fresh hb hoff with
    capacity_pos := h.wellFormed.capacity_pos
    bounded := by
      have hc := h.capacity
      simp only [List.length_append, List.length_singleton]
      omega
    exclusive := h.wellFormed.exclusive }
  capacity := h.capacity
  aligned := h.aligned.append hst
  pushed := by
    simp only [Session.accept, Ledger.push, Session.pushedPairs, h.pushed, List.flatMap_append,
      List.flatMap_singleton]
  balanced := by
    have hbal := h.balanced.push p.samples.iqPairs
    rw [← unread_fresh hst hoff] at hbal
    unfold RxSampleQueue.unread
    rw [unread_append, unread_fresh hst hoff] at *
    exact hbal
  dropped := h.dropped
  remainder := h.remainder

/-- Dropping the front block of a full queue, before the new block is accepted. -/
theorem Consistent.discarded {arith : Arithmetic} {capacity : ℕ} {st : Observed α}
    (h : Consistent arith capacity st) (hne : st.queue.blocks ≠ []) :
    Consistent arith capacity
      ⟨{ st.queue with
          blocks := st.queue.blocks.tail
          droppedBlocks := st.queue.droppedBlocks + 1 },
        st.session.remove .discarded (unreadPairs (st.queue.blocks.take 1))⟩ := by
  obtain ⟨front, rest, hblocks⟩ := List.exists_cons_of_ne_nil hne
  have hfront : unreadPairs (st.queue.blocks.take 1) = front.unread := by
    simp [hblocks, unreadPairs]
  have hwf := h.wellFormed
  rw [hfront]
  exact
    { wellFormed := { hwf.toWellFormedBlocks.tail with
        capacity_pos := hwf.capacity_pos
        bounded := (by simp : st.queue.blocks.tail.length ≤ _).trans hwf.bounded
        exclusive := hwf.exclusive }
      capacity := h.capacity
      aligned := h.aligned.tail
      pushed := h.pushed
      balanced := by
        have hbal := h.balanced
        unfold RxSampleQueue.unread at hbal ⊢
        rw [hblocks] at hbal ⊢
        exact hbal.remove .discarded
      dropped := by
        change ((st.session.ledger.remove .discarded front.unread).ofFate .discarded).length = _
        rw [Ledger.ofFate_remove_self, List.length_append, h.dropped]
        rfl
      remainder := by
        intro items hi
        rw [Session.remove, Ledger.ofFate_remove_self] at hi
        rcases List.mem_append.mp hi with hi | hi
        · exact h.remainder items hi
        · rw [List.mem_singleton.mp hi]
          have hpos := (hwf.block front (by rw [hblocks]; exact List.mem_cons_self)).unread_pos
          exact List.ne_nil_of_length_pos hpos }

theorem Consistent.step {arith : Arithmetic} {capacity : ℕ} {st : Observed α}
    (h : Consistent arith capacity st) (op : QueueOp α) :
    Consistent arith capacity (st.step arith op) := by
  cases op with
  | start => exact h.fresh true
  | reset => exact h.fresh false
  | stop => exact h.halted st.queue.failed
  | fail => exact h.halted true
  | push source stamp sampleRate =>
    rcases st.step_push arith source stamp sampleRate with ⟨hs, -⟩ | ⟨v, b, hst, hoff, hb, -, -, hs⟩
    · rw [hs]; exact h
    · have hcap := h.capacity
      have hle := h.wellFormed.bounded
      have hpos := h.wellFormed.capacity_pos
      rcases hs with ⟨hfull, hs⟩ | ⟨hroom, hs⟩
      · rw [hs]
        have hne : st.queue.blocks ≠ [] := List.ne_nil_of_length_pos (by omega)
        exact (h.discarded hne).accepted hst hoff hb (by simp; omega)
      · rw [hs]
        exact h.accepted hst hoff hb (by omega)
  | read output requested timeoutUs room =>
    rcases st.step_read arith h.wellFormed output requested timeoutUs room with
      hs | hs | ⟨blocks, hs, hwf, hlen, hleft, hal⟩
    · rw [hs]; exact h
    · rw [hs]
      exact h.delivered 0 h.wellFormed.toWellFormedBlocks le_rfl (List.drop_zero).symm h.aligned
    · rw [hs]
      exact h.delivered requested hwf hlen hleft (hal _ h.aligned)

theorem Consistent.run {arith : Arithmetic} {capacity : ℕ} {st : Observed α}
    (h : Consistent arith capacity st) (ops : List (QueueOp α)) :
    Consistent arith capacity (st.run arith ops) := by
  induction ops generalizing st with
  | nil => exact h
  | cons op ops ih => exact ih (h.step op)

/-! ## The contract -/

def QueueOp.isPush : QueueOp α → Bool
  | .push _ _ _ => true
  | _ => false

/-- The buffer that an operation was called with. -/
def QueueOp.buffer : QueueOp α → Option (List α)
  | .read output _ _ _ => output
  | _ => none

/-- What the ledger of a reachable state says about the session's pushed pairs. -/
structure Conserved (st : Observed α) : Prop where
  /-- Delivered and discarded pieces as they left, then the queued pairs, are the pushed pairs. -/
  split : st.session.ledger.settled ++ st.queue.unread = st.session.pushedPairs
  inOrder : (st.session.ledger.ofFate .delivered).flatten.Sublist st.session.pushedPairs
  dropped : (st.session.ledger.ofFate .discarded).length = st.queue.droppedBlocks
  remainder : ∀ items ∈ st.session.ledger.ofFate .discarded, items ≠ []

/-- What one more section does to a reachable state. -/
structure SectionContract (arith : Arithmetic) (st : Observed α) (op : QueueOp α) : Prop where
  /-- A `start` or `reset` begins a session with nothing pushed, delivered or queued. -/
  fresh : op = .start ∨ op = .reset →
    (st.step arith op).session = .empty ∧ (st.step arith op).queue.unread = []
  /-- Only a push into a full queue discards, and it discards the unread rest of the front block. -/
  discard : ∀ items, (st.step arith op).session.ledger.pieces =
      st.session.ledger.pieces ++ [(Fate.discarded, items)] →
    op.isPush = true ∧ st.queue.blocks.length = st.queue.capacityBlocks ∧
      (∃ front rest, st.queue.blocks = front :: rest ∧ items = front.unread) ∧
      (st.step arith op).queue.droppedBlocks = st.queue.droppedBlocks + 1
  /-- A read of a nonempty queue that returns delivers the next pairs in push order, as many as
  asked for or all that are queued. -/
  read : ∀ out requested timeoutUs room r, op = .read (some out) requested timeoutUs room →
    requested ≠ 0 → st.queue.blocks ≠ [] → (perform arith st.queue op).result = .ok (.read r) →
    r.status = .samples ∧ r.samples = min requested st.queue.unread.length ∧
    ∃ out', (perform arith st.queue op).output = some out' ∧
      pairs (out'.take (r.samples * 2)) = st.queue.unread.take requested ∧
      ∃ after, st.session.pushedPairs =
        st.session.ledger.settled ++ pairs (out'.take (r.samples * 2)) ++ after
  closed : op.isPush = true → st.queue.running = false ∨ st.queue.failed = true →
    st.step arith op = st
  throws : ∀ e, (perform arith st.queue op).result = .error e →
    st.step arith op = st ∧ (perform arith st.queue op).output = op.buffer

theorem Consistent.conserved {arith : Arithmetic} {capacity : ℕ} {st : Observed α}
    (h : Consistent arith capacity st) : Conserved st where
  split := by rw [← h.pushed]; exact h.balanced
  inOrder := by rw [← h.pushed]; exact h.balanced.delivered_sublist
  dropped := h.dropped
  remainder := h.remainder

theorem not_self_append {β : Type} {l : List β} {x : β} : l ≠ l ++ [x] := by
  intro h
  have := congrArg List.length h
  simp at this

theorem Consistent.discard {arith : Arithmetic} {capacity : ℕ} {st : Observed α}
    (h : Consistent arith capacity st) (op : QueueOp α) (items : List (α × α))
    (hp : (st.step arith op).session.ledger.pieces =
      st.session.ledger.pieces ++ [(Fate.discarded, items)]) :
    op.isPush = true ∧ st.queue.blocks.length = st.queue.capacityBlocks ∧
      (∃ front rest, st.queue.blocks = front :: rest ∧ items = front.unread) ∧
      (st.step arith op).queue.droppedBlocks = st.queue.droppedBlocks + 1 := by
  cases op with
  | start => exact absurd hp (by simp [Observed.step, Observed.record, Session.empty, Ledger.empty])
  | reset => exact absurd hp (by simp [Observed.step, Observed.record, Session.empty, Ledger.empty])
  | stop => exact absurd hp not_self_append
  | fail => exact absurd hp not_self_append
  | push source stamp sampleRate =>
    rcases st.step_push arith source stamp sampleRate with ⟨hs, -⟩ | ⟨v, b, -, -, -, -, -, hs⟩
    · rw [hs] at hp; exact absurd hp not_self_append
    · rcases hs with ⟨hfull, hs⟩ | ⟨-, hs⟩
      · have hpos := h.wellFormed.capacity_pos
        obtain ⟨front, rest, hblocks⟩ := List.exists_cons_of_ne_nil
          (List.ne_nil_of_length_pos (by omega) : st.queue.blocks ≠ [])
        refine ⟨rfl, hfull, ⟨front, rest, hblocks, ?_⟩, by rw [hs]⟩
        rw [hs] at hp
        have hitems := List.append_cancel_left hp
        simp only [hblocks, List.take_succ_cons, List.take_zero, unreadPairs, List.flatMap_cons,
          List.flatMap_nil, List.append_nil, List.cons.injEq, Prod.mk.injEq, true_and,
          and_true] at hitems
        exact hitems.symm
      · rw [hs] at hp; exact absurd hp not_self_append
  | read output requested timeoutUs room =>
    rcases st.step_read arith h.wellFormed output requested timeoutUs room with
      hs | hs | ⟨blocks, hs, -⟩
    · rw [hs] at hp; exact absurd hp not_self_append
    · rw [hs] at hp
      exact absurd (List.append_cancel_left hp) (by simp)
    · rw [hs] at hp
      exact absurd (List.append_cancel_left hp) (by simp)

theorem Consistent.delivers {arith : Arithmetic} {capacity : ℕ} {st : Observed α}
    (h : Consistent arith capacity st) {out : List α} {requested : ℕ} {timeoutUs : ℤ}
    {room : ∀ o, some out = some o → requested * 2 ≤ o.length} {r : RxReadResult}
    (hreq : requested ≠ 0) (hne : st.queue.blocks ≠ [])
    (hr : (perform arith st.queue (.read (some out) requested timeoutUs room)).result =
      .ok (.read r)) :
    r.status = .samples ∧ r.samples = min requested st.queue.unread.length ∧
    ∃ out', (perform arith st.queue (.read (some out) requested timeoutUs room)).output = some out' ∧
      pairs (out'.take (r.samples * 2)) = st.queue.unread.take requested ∧
      ∃ after, st.session.pushedPairs =
        st.session.ledger.settled ++ pairs (out'.take (r.samples * 2)) ++ after := by
  simp only [perform] at hr ⊢
  have hc := read_cases arith st.queue (some out) requested timeoutUs
  generalize RxSampleQueue.read arith st.queue (some out) requested timeoutUs = o at hc hr ⊢
  cases hc with
  | failed e => simp [Except.map] at hr
  | nothing status hno => exact absurd hno (by simp [hreq, hne])
  | copied front rest out' timeNs hblocks hout _ htime =>
    cases hout
    cases hr
    have hl := readLoop_result requested st.queue.blocks 0 out h.wellFormed.toWellFormedBlocks
      (Nat.zero_le _) (room out rfl)
    have hcount := hl.count
    have hcopied := hl.copied
    rw [Nat.zero_add] at hcount
    rw [Nat.zero_mul, List.take_zero, pairs_nil, List.nil_append, Nat.sub_zero] at hcopied
    refine ⟨rfl, hcount, _, rfl, hcopied, st.queue.unread.drop requested, ?_⟩
    have hsplit : unreadPairs st.queue.blocks = st.queue.unread := rfl
    simp only
    rw [hcopied, ← h.conserved.split, List.append_assoc, hsplit, List.take_append_drop]

theorem Consistent.throws {arith : Arithmetic} {capacity : ℕ} {st : Observed α}
    (h : Consistent arith capacity st) (op : QueueOp α) (e : Exception)
    (he : (perform arith st.queue op).result = .error e) :
    st.step arith op = st ∧ (perform arith st.queue op).output = op.buffer := by
  cases op with
  | start => cases he
  | reset => cases he
  | stop => cases he
  | fail => cases he
  | push source stamp sampleRate =>
    refine ⟨?_, rfl⟩
    simp only [perform, Observed.step, Observed.record] at he ⊢
    rcases pushOf_cases arith st.queue sampleRate source stamp with
      ⟨e', hp⟩ | ⟨v, b, hv, -, -, -, hp⟩
    · simp [hp, Except.map]
    · generalize pushOf arith st.queue sampleRate source stamp = r at hp he ⊢
      cases hp with
      | invalid e' _ => simp [hv, Except.map]
      | stopped _ => cases he
      | dropped _ _ _ _ _ _ => cases he
      | accepted _ _ _ _ _ _ => cases he
  | read output requested timeoutUs room =>
    simp only [perform, Observed.step, Observed.record, QueueOp.buffer] at he ⊢
    have hc := read_cases arith st.queue output requested timeoutUs
    generalize RxSampleQueue.read arith st.queue output requested timeoutUs = o at hc he ⊢
    cases hc with
    | failed e' => exact ⟨rfl, rfl⟩
    | nothing status _ => cases he
    | copied _ _ _ _ _ _ _ _ => cases he

end SoapySidekiq
