import SoapySidekiq.Rx.Conservation

/-! # The copies of a read

The iterations of the copy loop as a list: what each of them reads and writes. They stay inside the
blocks and inside the request, and write one range after the other. -/
set_option autoImplicit false

namespace SoapySidekiq
variable {α : Type}

/-! ## The iterations -/

/-- One iteration: the block at the front, and the components that it reads from and writes to. -/
structure Copy (α : Type) where
  block : Block α
  source : ℕ
  target : ℕ
  count : ℕ

namespace Copy

def apply (output : List α) (c : Copy α) : List α :=
  RxSampleQueue.memcpy output c.target ((c.block.samples.data.drop c.source).take c.count)

/-- The iteration reads inside its block, writes inside the request and copies a pair. -/
structure InBounds (requested : ℕ) (c : Copy α) : Prop where
  source : c.source + c.count ≤ c.block.samples.size
  target : c.target + c.count ≤ 2 * requested
  progress : 2 ≤ c.count

/-- Each iteration writes where the one before it has stopped. -/
def Adjacent : ℕ → List (Copy α) → Prop
  | _, [] => True
  | position, c :: rest => c.target = position ∧ Adjacent (position + c.count) rest

end Copy

namespace RxSampleQueue

/-- The iterations of `readLoop`, with `samples` complex samples already copied. -/
def copies (requested : ℕ) : List (Block α) → ℕ → List (Copy α)
  | [], _ => []
  | block :: rest, samples =>
    if samples < requested then
      let toCopy := min (block.samples.size / 2 - block.offset) (requested - samples)
      ⟨block, block.offset * 2, samples * 2, toCopy * 2⟩ ::
        if block.offset + toCopy = block.samples.size / 2 then
          copies requested rest (samples + toCopy) else []
    else []

/-- These are the copies that the loop makes, and it counts them. -/
theorem readLoop_copies (requested : ℕ) (blocks : List (Block α)) (samples : ℕ) (output : List α) :
    (readLoop requested blocks samples output).2.2 =
        (copies requested blocks samples).foldl Copy.apply output ∧
      (readLoop requested blocks samples output).2.1 * 2 =
        samples * 2 + ((copies requested blocks samples).map Copy.count).sum := by
  induction blocks generalizing samples output with
  | nil => exact ⟨rfl, rfl⟩
  | cons block rest ih =>
    unfold readLoop copies
    by_cases hmore : samples < requested
    · simp only [if_pos hmore]
      generalize min (block.samples.size / 2 - block.offset) (requested - samples) = toCopy
      by_cases hall : block.offset + toCopy = block.samples.size / 2
      · simp only [if_pos hall]
        obtain ⟨houtput, hcount⟩ := ih (samples + toCopy) (memcpy output (samples * 2)
          ((block.samples.data.drop (block.offset * 2)).take (toCopy * 2)))
        refine ⟨houtput, ?_⟩
        rw [hcount, List.map_cons, List.sum_cons]
        dsimp only
        omega
      · simp only [if_neg hall]
        refine ⟨rfl, ?_⟩
        simp
        omega
    · simp only [if_neg hmore]
      exact ⟨rfl, by simp⟩

theorem copies_inBounds (requested : ℕ) {blocks : List (Block α)} (hwf : WellFormedBlocks blocks)
    (samples : ℕ) :
    (∀ c ∈ copies requested blocks samples, c.InBounds requested ∧
      ∃ b ∈ blocks, c.block = b) ∧ Copy.Adjacent (samples * 2) (copies requested blocks samples) := by
  induction blocks generalizing samples with
  | nil => exact ⟨by simp [copies], trivial⟩
  | cons block rest ih =>
    obtain ⟨hb, hrest⟩ := hwf.of_cons
    have hoffset := hb.offset_lt
    have heven := hb.even
    unfold copies
    by_cases hmore : samples < requested
    · simp only [if_pos hmore]
      have hpos : 0 < min (block.samples.size / 2 - block.offset) (requested - samples) := by omega
      have hblock : min (block.samples.size / 2 - block.offset) (requested - samples) ≤
          block.samples.size / 2 - block.offset := Nat.min_le_left _ _
      have hroom : min (block.samples.size / 2 - block.offset) (requested - samples) ≤
          requested - samples := Nat.min_le_right _ _
      generalize min (block.samples.size / 2 - block.offset) (requested - samples) = toCopy at *
      have hfirst : Copy.InBounds requested
          ⟨block, block.offset * 2, samples * 2, toCopy * 2⟩ :=
        ⟨by dsimp only; omega, by dsimp only; omega, by dsimp only; omega⟩
      by_cases hall : block.offset + toCopy = block.samples.size / 2
      · rw [if_pos hall]
        obtain ⟨hlater, hadjacent⟩ := ih hrest (samples + toCopy)
        refine ⟨fun c hc => ?_, rfl, ?_⟩
        · rcases List.mem_cons.mp hc with rfl | hc
          · exact ⟨hfirst, block, List.mem_cons_self, rfl⟩
          · obtain ⟨hbounds, b, hmem, heq⟩ := hlater c hc
            exact ⟨hbounds, b, List.mem_cons_of_mem _ hmem, heq⟩
        · rwa [← Nat.add_mul]
      · rw [if_neg hall]
        refine ⟨fun c hc => ?_, rfl, trivial⟩
        rw [List.mem_singleton.mp hc]
        exact ⟨hfirst, block, List.mem_cons_self, rfl⟩
    · rw [if_neg hmore]
      exact ⟨by simp, trivial⟩

/-! ## The theorem -/

/-- What every state of a queue keeps. -/
structure Representation (capacity : ℕ) (q : RxSampleQueue α) : Prop where
  bounded : q.blocks.length ≤ capacity
  nonempty : ∀ b ∈ q.blocks, 0 < b.samples.size
  even : ∀ b ∈ q.blocks, b.samples.size % 2 = 0
  offset : ∀ b ∈ q.blocks, b.offset < b.samples.size / 2
  rate : ∀ b ∈ q.blocks, b.sampleRate.valid = true
  phase : ∀ b ∈ q.blocks, b.timeRemainder < b.timeDenominator
  exclusive : ¬ (q.running = true ∧ q.failed = true)

theorem read_samples_le (arith : Arithmetic) {q : RxSampleQueue α} (hwf : WellFormedBlocks q.blocks)
    {output : List α} {requested : ℕ} (hroom : requested * 2 ≤ output.length) {timeoutUs : ℤ}
    {r : RxReadResult}
    (h : (RxSampleQueue.read arith q (some output) requested timeoutUs).result = .ok r) :
    r.samples ≤ requested := by
  have hloop := (readLoop_result requested q.blocks 0 output hwf (Nat.zero_le _) hroom).count
  unfold RxSampleQueue.read at h
  split at h
  · cases h
  · split at h
    · cases h
    · split at h
      · cases h; exact Nat.zero_le _
      · split at h
        · cases h; exact Nat.zero_le _
        · unfold readReady at h
          split at h
          · cases h; exact Nat.zero_le _
          · split at h
            · cases h
            · cases h
              exact hloop ▸ Nat.min_le_left _ _

/-- In every state of a queue, and in every iteration of the loop of a read from it. -/
theorem rx_queue_copies_in_bounds (arith : Arithmetic) (capacity : ℕ) (q : RxSampleQueue α)
    (hq : RxSampleQueue.create capacity = .ok q) (ops : List (QueueOp α)) :
    let current := ((⟨q, .empty⟩ : Observed α).run arith ops).queue
    current.Representation capacity ∧
    ∀ output requested, requested * 2 ≤ output.length →
      (∀ c ∈ copies requested current.blocks 0, c.InBounds requested ∧
        ∃ b ∈ current.blocks, c.block = b) ∧
      Copy.Adjacent 0 (copies requested current.blocks 0) ∧
      (readLoop requested current.blocks 0 output).2.2 =
        (copies requested current.blocks 0).foldl Copy.apply output ∧
      ∀ timeoutUs r, (RxSampleQueue.read arith current (some output) requested timeoutUs).result = .ok r →
        r.samples ≤ requested := by
  have hconsistent := (Consistent.of_create arith hq).run ops
  have hwf := hconsistent.wellFormed
  refine ⟨?_, fun output requested hroom => ?_⟩
  · exact
      { bounded := hconsistent.capacity ▸ hwf.bounded
        nonempty := fun b hb => by have := (hwf.block b hb).offset_lt; omega
        even := fun b hb => (hwf.block b hb).even
        offset := fun b hb => (hwf.block b hb).offset_lt
        rate := fun b hb => (hwf.block b hb).rate_valid
        phase := fun b hb => (hwf.block b hb).phase
        exclusive := hwf.exclusive }
  · obtain ⟨hbounds, hadjacent⟩ :=
      copies_inBounds requested hwf.toWellFormedBlocks 0
    rw [Nat.zero_mul] at hadjacent
    exact ⟨hbounds, hadjacent, (readLoop_copies requested _ 0 output).1, fun timeoutUs r hr =>
      read_samples_le arith hwf.toWellFormedBlocks hroom hr⟩

/-- A read of three pairs from a queue whose front block is partly read and whose oldest block was
dropped. -/
theorem rx_queue_copies_in_bounds_evicted :
    let v : SampleVector ℤ := ⟨[1, 2, 3, 4], by decide⟩
    let rate := TimestampRate.ofFrequency 7
    let push : QueueOp ℤ := .push (.vector v) (.nanoseconds 5) rate
    let current := ((⟨⟨2, [], false, false, 0⟩, .empty⟩ : Observed ℤ).run .int128
      [.start, push, push, push, .read (some [0, 0]) 1 0 (by simp)]).queue
    current.Representation 2 ∧
      (copies 3 current.blocks 0).map (fun c => (c.source, c.target, c.count)) =
        [(2, 0, 2), (0, 2, 4)] := by
  intro v rate push current
  exact ⟨(rx_queue_copies_in_bounds .int128 2 ⟨2, [], false, false, 0⟩ rfl _).1, by decide +kernel⟩

end RxSampleQueue

end SoapySidekiq
