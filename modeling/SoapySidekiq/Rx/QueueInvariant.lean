import SoapySidekiq.Foundations.Interleaved
import SoapySidekiq.Rx.SampleQueue
import Mathlib.Tactic.Linarith

/-! # The invariant of the sample queue

Which queues the operations can build, and what the copy loop of `read` does to one of them: it
takes the requested number of IQ pairs, or all of them, from the front. -/
set_option autoImplicit false

namespace SoapySidekiq
open Interleaved
variable {α : Type}

/-! ## Unread pairs -/

/-- The IQ pairs of a vector. -/
def SampleVector.iqPairs (v : SampleVector α) : List (α × α) := pairs v.data

/-- The IQ pairs of a block that no read has consumed. -/
def Block.unread (b : Block α) : List (α × α) := b.samples.iqPairs.drop b.offset

namespace RxSampleQueue

def unreadPairs (blocks : List (Block α)) : List (α × α) := blocks.flatMap Block.unread

/-- All the IQ pairs that the queue still holds. -/
def unread (q : RxSampleQueue α) : List (α × α) := unreadPairs q.blocks

end RxSampleQueue

/-! ## Well-formed queues -/

structure Block.WellFormed (b : Block α) : Prop where
  even : b.samples.size % 2 = 0
  offset_lt : b.offset < b.samples.size / 2
  rate_valid : b.sampleRate.valid = true
  phase : b.timeRemainder < b.timeDenominator

theorem Block.WellFormed.unread_length {b : Block α} (_h : b.WellFormed) :
    b.unread.length = b.samples.size / 2 - b.offset := by
  simp [Block.unread, SampleVector.iqPairs, SampleVector.size, pairs_length]

theorem Block.WellFormed.unread_pos {b : Block α} (h : b.WellFormed) : 0 < b.unread.length := by
  rw [h.unread_length]
  have := h.offset_lt
  omega

namespace RxSampleQueue

/-- Every block is well formed and only the front one can be partly consumed. -/
structure WellFormedBlocks (blocks : List (Block α)) : Prop where
  block : ∀ b ∈ blocks, b.WellFormed
  tail_fresh : ∀ b ∈ blocks.tail, b.offset = 0

structure WellFormed (q : RxSampleQueue α) : Prop extends WellFormedBlocks q.blocks where
  capacity_pos : 0 < q.capacityBlocks
  bounded : q.blocks.length ≤ q.capacityBlocks
  exclusive : ¬ (q.running = true ∧ q.failed = true)

theorem WellFormed.stop {q : RxSampleQueue α} (h : q.WellFormed) : q.stop.WellFormed :=
  { h with exclusive := by simp [RxSampleQueue.stop] }

theorem WellFormed.fail {q : RxSampleQueue α} (h : q.WellFormed) : q.fail.WellFormed :=
  { h with exclusive := by simp [RxSampleQueue.fail] }

theorem WellFormedBlocks.nil : WellFormedBlocks ([] : List (Block α)) :=
  ⟨by simp, by simp⟩

theorem WellFormed.start {q : RxSampleQueue α} (h : q.WellFormed) : q.start.WellFormed :=
  { WellFormedBlocks.nil with
    capacity_pos := h.capacity_pos
    bounded := Nat.zero_le _
    exclusive := by simp [RxSampleQueue.start] }

theorem WellFormed.reset {q : RxSampleQueue α} (h : q.WellFormed) : q.reset.WellFormed :=
  { WellFormedBlocks.nil with
    capacity_pos := h.capacity_pos
    bounded := Nat.zero_le _
    exclusive := by simp [RxSampleQueue.reset] }

theorem WellFormed.of_create {capacity : ℕ} {q : RxSampleQueue α} (h : create capacity = .ok q) :
    q.WellFormed ∧ q.blocks = [] := by
  unfold create at h
  split at h
  · cases h
  · cases h
    exact ⟨{ WellFormedBlocks.nil with
      capacity_pos := Nat.pos_of_ne_zero ‹_›
      bounded := Nat.zero_le _
      exclusive := by simp }, rfl⟩

theorem WellFormedBlocks.tail {blocks : List (Block α)} (h : WellFormedBlocks blocks) :
    WellFormedBlocks blocks.tail :=
  ⟨fun b hb => h.block b (List.mem_of_mem_tail hb),
    fun b hb => h.tail_fresh b (List.mem_of_mem_tail hb)⟩

theorem WellFormedBlocks.of_cons {b : Block α} {rest : List (Block α)}
    (h : WellFormedBlocks (b :: rest)) : b.WellFormed ∧ WellFormedBlocks rest :=
  ⟨h.block b List.mem_cons_self, h.tail⟩

theorem WellFormedBlocks.append_fresh {blocks : List (Block α)} (h : WellFormedBlocks blocks)
    {b : Block α} (hb : b.WellFormed) (hfresh : b.offset = 0) : WellFormedBlocks (blocks ++ [b]) := by
  constructor
  · intro c hc
    rcases List.mem_append.mp hc with hc | hc
    · exact h.block c hc
    · rw [List.mem_singleton.mp hc]; exact hb
  · intro c hc
    cases blocks with
    | nil => simp at hc
    | cons first rest =>
      rcases List.mem_append.mp hc with hc | hc
      · exact h.tail_fresh c hc
      · rw [List.mem_singleton.mp hc]; exact hfresh

/-! ## The copy loop -/

theorem memcpy_length (output source : List α) (position : ℕ)
    (h : position + source.length ≤ output.length) :
    (memcpy output position source).length = output.length := by
  simp [memcpy]
  omega

theorem memcpy_take (output source : List α) (position : ℕ)
    (h : position + source.length ≤ output.length) :
    (memcpy output position source).take (position + source.length) =
      output.take position ++ source := by
  unfold memcpy
  have hlen : (output.take position ++ source).length = position + source.length := by
    simp
    omega
  rw [← hlen]
  exact List.take_left

/-- One pass of the loop copies `toCopy` pairs behind the `samples` pairs already copied. -/
theorem memcpy_pairs (output : List α) {b : Block α} (samples : ℕ) {toCopy : ℕ}
    (heven : b.samples.size % 2 = 0) (hle : b.offset + toCopy ≤ b.samples.size / 2)
    (hroom : (samples + toCopy) * 2 ≤ output.length) :
    ((b.samples.data.drop (b.offset * 2)).take (toCopy * 2)).length = toCopy * 2 ∧
    pairs ((memcpy output (samples * 2) ((b.samples.data.drop (b.offset * 2)).take (toCopy * 2))).take
      ((samples + toCopy) * 2)) = pairs (output.take (samples * 2)) ++ b.unread.take toCopy := by
  have hsize : b.samples.data.length = b.samples.size := rfl
  have hlen : ((b.samples.data.drop (b.offset * 2)).take (toCopy * 2)).length = toCopy * 2 := by
    simp only [List.length_take, List.length_drop, hsize]
    omega
  refine ⟨hlen, ?_⟩
  have htake := memcpy_take output ((b.samples.data.drop (b.offset * 2)).take (toCopy * 2))
    (samples * 2) (by rw [hlen]; omega)
  rw [hlen, ← Nat.add_mul] at htake
  rw [htake, pairs_append, pairs_take, pairs_take, pairs_drop]
  · rfl
  · simp only [List.length_take]
    omega

/-- What the loop leaves behind, from any point of it on. -/
structure LoopResult (requested : ℕ) (blocks : List (Block α)) (samples : ℕ) (output : List α)
    (r : List (Block α) × ℕ × List α) : Prop where
  wellFormed : WellFormedBlocks r.1
  shorter : r.1.length ≤ blocks.length
  count : r.2.1 = min requested (samples + (unreadPairs blocks).length)
  left : unreadPairs r.1 = (unreadPairs blocks).drop (requested - samples)
  length : r.2.2.length = output.length
  copied : pairs (r.2.2.take (r.2.1 * 2)) =
    pairs (output.take (samples * 2)) ++ (unreadPairs blocks).take (requested - samples)

theorem readLoop_result (requested : ℕ) (blocks : List (Block α)) (samples : ℕ) (output : List α)
    (hwf : WellFormedBlocks blocks) (hs : samples ≤ requested)
    (hroom : requested * 2 ≤ output.length) :
    LoopResult requested blocks samples output (readLoop requested blocks samples output) := by
  induction blocks generalizing samples output with
  | nil =>
    simp only [readLoop]
    exact ⟨hwf, le_rfl, by simp [unreadPairs, hs], by simp [unreadPairs], rfl,
      by simp [unreadPairs]⟩
  | cons b rest ih =>
    obtain ⟨hb, hrest⟩ := hwf.of_cons
    have hoff := hb.offset_lt
    have hlen := hb.unread_length
    have hunread : unreadPairs (b :: rest) = b.unread ++ unreadPairs rest := rfl
    unfold readLoop
    by_cases hmore : samples < requested
    · simp only [if_pos hmore]
      by_cases hall : b.samples.size / 2 - b.offset ≤ requested - samples
      · -- The block is exhausted and popped; the loop goes on with the rest.
        have hmin : min (b.samples.size / 2 - b.offset) (requested - samples) =
            b.samples.size / 2 - b.offset := Nat.min_eq_left hall
        rw [hmin, if_pos (by omega)]
        obtain ⟨hsrc, hpairs⟩ := memcpy_pairs output samples hb.even
          (by omega : b.offset + (b.samples.size / 2 - b.offset) ≤ b.samples.size / 2) (by omega)
        have hkeep := memcpy_length output ((b.samples.data.drop (b.offset * 2)).take
          ((b.samples.size / 2 - b.offset) * 2)) (samples * 2) (by rw [hsrc]; omega)
        have h := ih (samples + (b.samples.size / 2 - b.offset)) _ hrest (by omega)
          (by rw [hkeep]; exact hroom)
        have hsplit : requested - samples = b.unread.length +
            (requested - (samples + (b.samples.size / 2 - b.offset))) := by omega
        exact
          { wellFormed := h.wellFormed
            shorter := h.shorter.trans (by simp)
            count := by rw [h.count, hunread, List.length_append, hlen, Nat.add_assoc]
            left := by
              rw [h.left, hunread, hsplit, List.drop_length_add_append]
            length := by rw [h.length, hkeep]
            copied := by
              rw [h.copied, hpairs, hunread, hsplit, List.take_length_add_append,
                List.take_of_length_le hlen.le, List.append_assoc] }
      · -- The request ends inside the block, which stays at the front.
        have hmin : min (b.samples.size / 2 - b.offset) (requested - samples) =
            requested - samples := Nat.min_eq_right (by omega)
        rw [hmin, if_neg (by omega)]
        obtain ⟨hsrc, hpairs⟩ := memcpy_pairs output samples hb.even
          (by omega : b.offset + (requested - samples) ≤ b.samples.size / 2) (by omega)
        have hkeep := memcpy_length output
          ((b.samples.data.drop (b.offset * 2)).take ((requested - samples) * 2)) (samples * 2)
          (by rw [hsrc]; omega)
        have hb' : Block.WellFormed { b with offset := b.offset + (requested - samples) } :=
          ⟨hb.even, by simp only; omega, hb.rate_valid, hb.phase⟩
        have hdrop : Block.unread { b with offset := b.offset + (requested - samples) } =
            b.unread.drop (requested - samples) := by
          simp [Block.unread, List.drop_drop]
        exact
          { wellFormed := ⟨by
              intro c hc
              rcases List.mem_cons.mp hc with rfl | hc
              · exact hb'
              · exact hrest.block c hc, hwf.tail_fresh⟩
            shorter := by simp
            count := by
              simp only [hunread, List.length_append, hlen]
              omega
            left := by
              change Block.unread _ ++ unreadPairs rest = _
              rw [hdrop, hunread, List.drop_append_of_le_length (by omega)]
            length := hkeep
            copied := by
              rw [hpairs, hunread, List.take_append_of_le_length (by omega)] }
    · simp only [if_neg hmore]
      have hz : requested - samples = 0 := by omega
      exact ⟨hwf, le_rfl, by simp only; omega, by rw [hz, List.drop_zero], rfl,
        by rw [hz, List.take_zero, List.append_nil]⟩

/-! ## The push section -/

/-- The block that `pushWithPhase` builds. -/
def newBlock (samples : SampleVector α) (timeNs : ℤ) (sampleRate : TimestampRate)
    (remainder denominator : UInt64) : Block α :=
  ⟨samples, 0, timeNs, sampleRate, remainder, denominator⟩

/-- Everything that a push can do. -/
inductive PushCase (q : RxSampleQueue α) (block : Block α) : PushOutcome α → Prop where
  | invalid (e : Exception) (h : block.samples.size = 0 ∨ block.samples.size % 2 ≠ 0 ∨
      block.sampleRate.valid = false) : PushCase q block (.error e, q)
  | stopped (h : q.running = false ∨ q.failed = true) : PushCase q block (.ok .stopped, q)
  | dropped (hrun : q.running = true) (hok : q.failed = false)
      (hsize : block.samples.size ≠ 0) (heven : block.samples.size % 2 = 0)
      (hrate : block.sampleRate.valid = true) (hfull : q.blocks.length = q.capacityBlocks) :
      PushCase q block (.ok .droppedOldest,
        { q with blocks := q.blocks.tail ++ [block], droppedBlocks := q.droppedBlocks + 1 })
  | accepted (hrun : q.running = true) (hok : q.failed = false)
      (hsize : block.samples.size ≠ 0) (heven : block.samples.size % 2 = 0)
      (hrate : block.sampleRate.valid = true) (hroom : q.blocks.length ≠ q.capacityBlocks) :
      PushCase q block (.ok .accepted, { q with blocks := q.blocks ++ [block] })

theorem pushWithPhase_cases (q : RxSampleQueue α) (samples : SampleVector α) (timeNs : ℤ)
    (sampleRate : TimestampRate) (remainder denominator : UInt64) :
    PushCase q (newBlock samples timeNs sampleRate remainder denominator)
      (q.pushWithPhase samples timeNs sampleRate remainder denominator) := by
  unfold pushWithPhase
  by_cases hs : samples.size = 0 ∨ samples.size % 2 ≠ 0
  · rw [if_pos hs]
    exact .invalid _ (hs.imp_right .inl)
  rw [if_neg hs]
  obtain ⟨hsize, heven⟩ := not_or.mp hs
  cases hv : sampleRate.valid with
  | false => exact .invalid _ (.inr (.inr hv))
  | true =>
    simp only [Bool.not_true, Bool.false_eq_true, if_false]
    by_cases hstop : q.running = false ∨ q.failed = true
    · rw [if_pos (by rcases hstop with h | h <;> simp [h])]
      exact .stopped hstop
    · obtain ⟨hrun, hok⟩ := not_or.mp hstop
      have hrun : q.running = true := by simpa using hrun
      have hok : q.failed = false := by simpa using hok
      rw [if_neg (by simp [hrun, hok])]
      by_cases hfull : q.blocks.length = q.capacityBlocks
      · rw [if_pos hfull]
        exact .dropped hrun hok hsize (not_not.mp heven) hv hfull
      · rw [if_neg hfull]
        exact .accepted hrun hok hsize (not_not.mp heven) hv hfull

theorem PushCase.wellFormed {q : RxSampleQueue α} {block : Block α} {r : PushOutcome α}
    (h : PushCase q block r) (hq : q.WellFormed) (hfresh : block.offset = 0)
    (hphase : block.timeRemainder < block.timeDenominator) : r.2.WellFormed := by
  cases h with
  | invalid => exact hq
  | stopped => exact hq
  | dropped hrun hok hsize heven hrate hfull =>
    have hb : block.WellFormed := ⟨heven, by rw [hfresh]; omega, hrate, hphase⟩
    have hpos := hq.capacity_pos
    exact { hq.toWellFormedBlocks.tail.append_fresh hb hfresh with
      capacity_pos := hq.capacity_pos
      bounded := by simp; omega
      exclusive := hq.exclusive }
  | accepted hrun hok hsize heven hrate hroom =>
    have hb : block.WellFormed := ⟨heven, by rw [hfresh]; omega, hrate, hphase⟩
    have hle := hq.bounded
    exact { hq.toWellFormedBlocks.append_fresh hb hfresh with
      capacity_pos := hq.capacity_pos
      bounded := by simp; omega
      exclusive := hq.exclusive }

end RxSampleQueue

end SoapySidekiq
