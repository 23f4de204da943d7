import SoapySidekiq.Foundations.FloorSum
import SoapySidekiq.Rx.Conservation

/-! # Exact RX timestamps

The time of a partly read block is the floor of the exact rational sum of its counter time and of
the time of the samples already read, however earlier reads cut the queue. -/
set_option autoImplicit false

namespace SoapySidekiq
open Interleaved RxSampleQueue
variable {α : Type}

/-! ## The time of one block -/

/-- The exact time, in nanoseconds, of sample `k` of a block stamped `ticks`. -/
def exactNs (ticks : ℕ) (frequency : TimestampRate) (k : ℕ) (sampleRate : TimestampRate) : ℚ :=
  (ticks : ℚ) * 10 ^ 9 / frequency.rate + (k : ℚ) * 10 ^ 9 / sampleRate.rate

/-- The carry of the two fractional phases, as the sum of the truncated times misses it. -/
def carries (ticks : ℕ) (frequency : TimestampRate) (k : ℕ) (sampleRate : TimestampRate) : Prop :=
  frequency.numerator.toNat * sampleRate.numerator.toNat ≤
    frequency.scaledTicks ticks % frequency.numerator.toNat * sampleRate.numerator.toNat +
      sampleRate.scaledTicks k % sampleRate.numerator.toNat * frequency.numerator.toNat

instance (ticks : ℕ) (frequency : TimestampRate) (k : ℕ) (sampleRate : TimestampRate) :
    Decidable (carries ticks frequency k sampleRate) :=
  inferInstanceAs (Decidable (_ ≤ _))

theorem floor_exactNs (ticks : ℕ) {frequency sampleRate : TimestampRate} (k : ℕ)
    (hf : frequency.valid = true) (hr : sampleRate.valid = true) :
    ⌊exactNs ticks frequency k sampleRate⌋₊ = frequency.floorNs ticks + sampleRate.floorNs k +
      if carries ticks frequency k sampleRate then 1 else 0 := by
  have hb := TimestampRate.numerator_pos hf
  have hd := TimestampRate.numerator_pos hr
  unfold exactNs
  rw [TimestampRate.exactNs_eq, TimestampRate.exactNs_eq, FloorSum.floor_add_div _ _ _ _ hb hd,
    FloorSum.add_div_floor _ _ _ _ hb hd]
  rfl

/-- The rounded-up threshold of `blockTime`, without wrap-around. -/
theorem minimumPhase_toNat (arith : Arithmetic) {value multiplier divisor : UInt64}
    (hv : value.toNat < divisor.toNat) :
    ((multiplyDivide arith value multiplier divisor).quotient +
      if (multiplyDivide arith value multiplier divisor).remainder ≠ 0 then 1 else 0).toNat =
      FloorSum.ceilDiv (value.toNat * multiplier.toNat) divisor.toNat := by
  obtain ⟨hq, hr⟩ := multiplyDivide_divides arith value multiplier divisor hv
  have hd : 0 < divisor.toNat := by omega
  have hm := multiplier.toNat_lt
  have hceil : FloorSum.ceilDiv (value.toNat * multiplier.toNat) divisor.toNat ≤ multiplier.toNat :=
    (FloorSum.ceilDiv_le_iff _ _ _ hd).mpr
      (by rw [Nat.mul_comm]; exact Nat.mul_le_mul_left _ hv.le)
  generalize multiplyDivide arith value multiplier divisor = t at hq hr ⊢
  unfold FloorSum.ceilDiv at hceil ⊢
  rw [← hq, ← hr] at hceil ⊢
  by_cases hz : t.remainder = 0
  · simp [hz]
  · have hz' : t.remainder.toNat ≠ 0 := fun h => hz (UInt64.toNat_inj.mp h)
    simp only [ne_eq, hz, hz', not_false_eq_true, if_true] at hceil ⊢
    exact Word64.toNat_add (by change t.quotient.toNat + 1 < 2 ^ 64; omega)

/-- The carry test of `blockTime` decides the carry. -/
theorem carry_test (arith : Arithmetic) (ticks : ℕ) {frequency sampleRate : TimestampRate} (k : ℕ)
    (hf : frequency.valid = true) (hr : sampleRate.valid = true) {x y : UInt64}
    (hx : x.toNat = frequency.scaledTicks ticks % frequency.numerator.toNat)
    (hy : y.toNat = sampleRate.scaledTicks k % sampleRate.numerator.toNat) (hy0 : y ≠ 0) :
    x ≥ (multiplyDivide arith (sampleRate.numerator - y) frequency.numerator
        sampleRate.numerator).quotient +
      (if (multiplyDivide arith (sampleRate.numerator - y) frequency.numerator
        sampleRate.numerator).remainder ≠ 0 then 1 else 0) ↔
    carries ticks frequency k sampleRate := by
  have hd := TimestampRate.numerator_pos hr
  have hlt : y.toNat < sampleRate.numerator.toNat := by rw [hy]; exact Nat.mod_lt _ hd
  have hpos : 0 < y.toNat :=
    Nat.pos_of_ne_zero fun h => hy0 (UInt64.toNat_inj.mp h)
  have hsub : (sampleRate.numerator - y).toNat = sampleRate.numerator.toNat - y.toNat :=
    Word64.toNat_sub hlt.le
  rw [ge_iff_le, UInt64.le_iff_toNat_le, minimumPhase_toNat arith (by rw [hsub]; omega), hsub,
    FloorSum.carry_iff_threshold _ _ _ _ hd hlt.le, hx, hy]
  rfl

/-- A phase that is zero carries nothing. -/
theorem not_carries {ticks : ℕ} {frequency sampleRate : TimestampRate} {k : ℕ}
    (hf : frequency.valid = true) (hr : sampleRate.valid = true)
    (h : frequency.scaledTicks ticks % frequency.numerator.toNat = 0 ∨
      sampleRate.scaledTicks k % sampleRate.numerator.toNat = 0) :
    ¬ carries ticks frequency k sampleRate := by
  have hb := TimestampRate.numerator_pos hf
  have hd := TimestampRate.numerator_pos hr
  unfold carries
  rcases h with h | h
  · rw [h]
    exact FloorSum.no_carry_left _ _ _ hb (Nat.mod_lt _ hd)
  · rw [h]
    exact FloorSum.no_carry_right _ _ _ hd (Nat.mod_lt _ hb)

/-- What a stamp in ticks leaves in the block. -/
theorem stamped_ticks {arith : Arithmetic} {v : SampleVector α} {timestamp : UInt64}
    {frequency sampleRate : TimestampRate} {b : Block α}
    (h : Stamped arith ⟨v, .ticks timestamp frequency, sampleRate⟩ b) :
    frequency.valid = true ∧ frequency.floorNs timestamp.toNat ≤ int64Max ∧
      b.timeNs = frequency.floorNs timestamp.toNat ∧
      b.timeRemainder.toNat =
        frequency.scaledTicks timestamp.toNat % frequency.numerator.toNat ∧
      b.timeDenominator = frequency.numerator := by
  have hc : frequency.convert arith timestamp =
      .ok ⟨b.timeNs, b.timeRemainder, b.timeDenominator⟩ := h.2.2
  have hv : frequency.valid = true := by
    by_contra hv
    unfold TimestampRate.convert at hc
    rw [if_pos (by simpa using hv)] at hc
    cases hc
  rw [frequency.convert_eq arith hv] at hc
  split at hc
  · rename_i hfit
    simp only [Except.ok.injEq, TimestampPhase.mk.injEq] at hc
    have hlt := Nat.mod_lt (frequency.scaledTicks timestamp.toNat) (TimestampRate.numerator_pos hv)
    refine ⟨hv, hfit, hc.1.symm, ?_, hc.2.2.symm⟩
    rw [← hc.2.1]
    exact Word64.toNat_ofNat (hlt.trans frequency.numerator.toNat_lt)
  · cases hc

/-- A block's time is the floor of its exact time, or an overflow when that does not fit. -/
theorem blockTime_exact {arith : Arithmetic} {v : SampleVector α} {timestamp : UInt64}
    {frequency sampleRate : TimestampRate} {b : Block α}
    (h : Stamped arith ⟨v, .ticks timestamp frequency, sampleRate⟩ b) (hb : b.WellFormed) :
    (⌊exactNs timestamp.toNat frequency b.offset sampleRate⌋₊ ≤ int64Max →
      blockTime arith b = .ok ⌊exactNs timestamp.toNat frequency b.offset sampleRate⌋₊) ∧
    (int64Max < ⌊exactNs timestamp.toNat frequency b.offset sampleRate⌋₊ →
      ∃ what, blockTime arith b = .error (.overflowError what)) := by
  obtain ⟨hf, hfit, htime, hrem, hden⟩ := stamped_ticks h
  have hrate : b.sampleRate = sampleRate := h.2.1
  have hr : sampleRate.valid = true := hrate ▸ hb.rate_valid
  have hoffset : (UInt64.ofNat b.offset).toNat = b.offset := by
    have h1 := hb.offset_lt
    have h2 : b.samples.size < 2 ^ 64 := b.samples.size_lt
    exact Word64.toNat_ofNat (by omega)
  have hy : (UInt64.ofNat (sampleRate.scaledTicks b.offset % sampleRate.numerator.toNat)).toNat =
      sampleRate.scaledTicks b.offset % sampleRate.numerator.toNat :=
    Word64.toNat_ofNat ((Nat.mod_lt _ (TimestampRate.numerator_pos hr)).trans
      sampleRate.numerator.toNat_lt)
  rw [floor_exactNs _ _ hf hr]
  unfold blockTime
  rw [hrate, sampleRate.convert_eq arith hr, hoffset, hden]
  by_cases hoff : sampleRate.floorNs b.offset ≤ int64Max
  · simp only [if_pos hoff, htime]
    by_cases hsum : frequency.floorNs timestamp.toNat + sampleRate.floorNs b.offset ≤ int64Max
    · have hguard : ¬ ((sampleRate.floorNs b.offset : ℤ) > 0 ∧
          (frequency.floorNs timestamp.toNat : ℤ) > int64Max - sampleRate.floorNs b.offset) := by
        omega
      rw [if_neg hguard]
      generalize UInt64.ofNat (sampleRate.scaledTicks b.offset %
        sampleRate.numerator.toNat) = y at hy
      by_cases hzero : b.timeRemainder ≠ 0 ∧ y ≠ 0
      · rw [if_pos hzero]
        simp only [carry_test arith timestamp.toNat b.offset hf hr hrem hy hzero.2]
        by_cases hcarry : carries timestamp.toNat frequency b.offset sampleRate
        · simp only [if_pos hcarry]
          split
          · exact ⟨fun hle => by omega, fun _ => ⟨_, rfl⟩⟩
          · exact ⟨fun _ => by push_cast; rfl, fun hlt => by omega⟩
        · simp only [if_neg hcarry]
          exact ⟨fun _ => by push_cast; simp, fun hlt => by omega⟩
      · have hcarry : ¬ carries timestamp.toNat frequency b.offset sampleRate := by
          apply not_carries hf hr
          rw [← hrem, ← hy]
          rcases not_and_or.mp hzero with hz | hz
          · left; rw [not_not.mp hz]; rfl
          · right; rw [not_not.mp hz]; rfl
        rw [if_neg hzero, if_neg hcarry]
        exact ⟨fun _ => by push_cast; simp, fun hlt => by omega⟩
    · have hguard : (sampleRate.floorNs b.offset : ℤ) > 0 ∧
          (frequency.floorNs timestamp.toNat : ℤ) > int64Max - sampleRate.floorNs b.offset := by
        omega
      rw [if_pos hguard]
      exact ⟨fun hle => by omega, fun _ => ⟨_, rfl⟩⟩
  · simp only [if_neg hoff]
    exact ⟨fun hle => by omega, fun _ => ⟨_, rfl⟩⟩

/-- Equal rates: the exact time is the time of the sample's own counter value. -/
theorem exactNs_rf {ticks k : ℕ} {frequency sampleRate : TimestampRate}
    (h : frequency.rate = sampleRate.rate) :
    ⌊exactNs ticks frequency k sampleRate⌋₊ = frequency.floorNs (ticks + k) := by
  rw [TimestampRate.floorNs_eq_floor]
  unfold exactNs
  rw [← h, ← add_div, ← add_mul]
  push_cast
  rfl

/-! ## Which sample a read returns first -/

/-- The next sample to leave the queue is number `k` of the accepted push `p`. -/
def Session.Next (s : Session α) (p : Pushed α) (k : ℕ) : Prop :=
  ∃ before after, s.blocks = before ++ p :: after ∧ k < p.samples.iqPairs.length ∧
    s.ledger.settled.length = (before.map fun p => p.samples.iqPairs.length).sum + k

theorem pushedPairs_length (s : Session α) :
    s.pushedPairs.length = (s.blocks.map fun p => p.samples.iqPairs.length).sum := by
  simp [Session.pushedPairs, List.length_flatMap]

theorem unread_fresh_length {arith : Arithmetic} {queued : List (Pushed α)}
    {blocks : List (Block α)} (h : List.Forall₂ (Stamped arith) queued blocks)
    (hfresh : ∀ b ∈ blocks, b.offset = 0) :
    (unreadPairs blocks).length = (queued.map fun p => p.samples.iqPairs.length).sum := by
  induction h with
  | nil => rfl
  | cons hb _ ih =>
    rename_i p b queued blocks _
    have hrest := ih fun c hc => hfresh c (List.mem_cons_of_mem _ hc)
    have hhead := unread_fresh hb (hfresh b List.mem_cons_self)
    have hcons : unreadPairs (b :: blocks) = b.unread ++ unreadPairs blocks := rfl
    rw [hcons, List.length_append, hhead, hrest, List.map_cons, List.sum_cons]

/-- The front block of a reachable queue is the next one to deliver, at its offset. -/
theorem Consistent.front_next {arith : Arithmetic} {capacity : ℕ} {st : Observed α}
    (h : Consistent arith capacity st) {front : Block α} {rest : List (Block α)}
    (hblocks : st.queue.blocks = front :: rest) :
    ∃ p, Stamped arith p front ∧ st.session.Next p front.offset := by
  obtain ⟨gone, queued, hpushed, hq⟩ := h.aligned
  rw [hblocks] at hq
  obtain ⟨p, after, hp, hafter, rfl⟩ := List.forall₂_cons_right_iff.mp hq
  have hwf := h.wellFormed.toWellFormedBlocks
  rw [hblocks] at hwf
  have hfront : front.offset < p.samples.iqPairs.length := by
    have hlt := hwf.of_cons.1.offset_lt
    rw [hp.1] at hlt
    simpa [SampleVector.iqPairs, SampleVector.size, pairs_length] using hlt
  refine ⟨p, hp, gone, after, hpushed, hfront, ?_⟩
  have hlen := h.balanced.length
  have hunread : st.queue.unread.length = front.unread.length + (unreadPairs rest).length := by
    unfold RxSampleQueue.unread
    rw [hblocks]
    exact List.length_append
  have hfrontLen : front.unread.length = p.samples.iqPairs.length - front.offset := by
    rw [Block.unread, List.length_drop, hp.1]
  rw [h.pushed, pushedPairs_length, hpushed, List.map_append, List.sum_append, List.map_cons,
    List.sum_cons, hunread, hfrontLen, unread_fresh_length hafter hwf.tail_fresh] at hlen
  omega

/-- A sample that is next to leave is at the front of the queue. -/
theorem Consistent.next_front {arith : Arithmetic} {capacity : ℕ} {st : Observed α}
    (h : Consistent arith capacity st) {p : Pushed α} {k : ℕ} (hn : st.session.Next p k) :
    ∃ front rest, st.queue.blocks = front :: rest ∧ Stamped arith p front ∧ front.offset = k := by
  obtain ⟨before, after, hpushed, hk, hsettled⟩ := hn
  cases hblocks : st.queue.blocks with
  | nil =>
    have hlen := h.balanced.length
    have hempty : st.queue.unread = [] := by
      unfold RxSampleQueue.unread
      rw [hblocks]
      rfl
    rw [h.pushed, pushedPairs_length, hpushed, List.map_append, List.sum_append, List.map_cons,
      List.sum_cons, hempty, List.length_nil] at hlen
    omega
  | cons front rest =>
    obtain ⟨p', hp', before', after', hpushed', hk', hsettled'⟩ := h.front_next hblocks
    obtain ⟨-, hpp, hkk⟩ := LossyFifo.position_unique (fun p : Pushed α => p.samples.iqPairs.length)
      (hpushed.symm.trans hpushed') (hsettled.symm.trans hsettled') hk hk'
    exact ⟨front, rest, rfl, hpp ▸ hp', hkk.symm⟩

/-! ## The contract -/

/-- What a read reports that returns sample `k` of a block of samples `v` stamped `ticks` first. -/
structure ExactRead (arith : Arithmetic) (v : SampleVector α) (ticks : UInt64)
    (frequency sampleRate : TimestampRate) (k : ℕ) (r : ReadOutcome α) : Prop where
  time : ∀ result, r.result = .ok result → result.status = .samples ∧ result.hasTime = true ∧
    result.timeNs = ⌊exactNs ticks.toNat frequency k sampleRate⌋₊ ∧
    ∃ out, r.output = some out ∧ (pairs (out.take (result.samples * 2))).head? = v.iqPairs[k]?
  overflow : (∃ what, r.result = .error (.overflowError what)) ↔
    int64Max < ⌊exactNs ticks.toNat frequency k sampleRate⌋₊
  throws : ∀ e, r.result = .error e → ∃ what, e = .overflowError what
  /-- In RF mode, converting the sample's own counter value gives the same. -/
  direct : frequency.rate = sampleRate.rate → ∀ own : UInt64, own.toNat = ticks.toNat + k →
    (∀ phase, frequency.convert arith own = .ok phase →
      ∃ result, r.result = .ok result ∧ result.timeNs = phase.nanoseconds) ∧
    (∀ e, frequency.convert arith own = .error e → ∃ e', r.result = .error e')

theorem ExactRead.of_time {arith : Arithmetic} {v : SampleVector α} {ticks : UInt64}
    {frequency sampleRate : TimestampRate} {k : ℕ} {r : ReadOutcome α}
    (hf : frequency.valid = true)
    (hfit : ⌊exactNs ticks.toNat frequency k sampleRate⌋₊ ≤ int64Max →
      ∃ n out, r.result = .ok ⟨.samples, n, ⌊exactNs ticks.toNat frequency k sampleRate⌋₊, true⟩ ∧
        r.output = some out ∧ (pairs (out.take (n * 2))).head? = v.iqPairs[k]?)
    (hlarge : int64Max < ⌊exactNs ticks.toNat frequency k sampleRate⌋₊ →
      ∃ what, r.result = .error (.overflowError what)) :
    ExactRead arith v ticks frequency sampleRate k r := by
  rcases Nat.lt_or_ge int64Max ⌊exactNs ticks.toNat frequency k sampleRate⌋₊ with hlt | hle
  · obtain ⟨what, hr⟩ := hlarge hlt
    refine ⟨fun result h => ?_, ⟨fun _ => hlt, fun _ => ⟨what, hr⟩⟩, fun e h => ?_, ?_⟩
    · rw [hr] at h; cases h
    · rw [hr] at h; cases h; exact ⟨what, rfl⟩
    · intro hrate own hown
      rw [exactNs_rf hrate] at hlt
      rw [frequency.convert_eq arith hf, hown, if_neg (by omega)]
      exact ⟨fun phase h => (by cases h), fun e _ => ⟨_, hr⟩⟩
  · obtain ⟨n, out, hr, hout, hhead⟩ := hfit hle
    refine ⟨fun result h => ?_, ⟨?_, fun hlt => by omega⟩, fun e h => ?_, ?_⟩
    · rw [hr] at h; cases h; exact ⟨rfl, rfl, rfl, out, hout, hhead⟩
    · rintro ⟨what, h⟩; rw [hr] at h; cases h
    · rw [hr] at h; cases h
    · intro hrate own hown
      have hdirect := hle
      rw [exactNs_rf hrate] at hdirect
      rw [frequency.convert_eq arith hf, hown, if_pos hdirect]
      refine ⟨fun phase h => ?_, fun e h => by cases h⟩
      cases h
      exact ⟨_, hr, by rw [exactNs_rf hrate]⟩

theorem Consistent.exactRead {arith : Arithmetic} {capacity : ℕ} {st : Observed α}
    (h : Consistent arith capacity st) {v : SampleVector α} {ticks : UInt64}
    {frequency sampleRate : TimestampRate} {k : ℕ}
    (hn : st.session.Next ⟨v, .ticks ticks frequency, sampleRate⟩ k) (out : List α)
    {requested : ℕ} (hroom : requested * 2 ≤ out.length) (hreq : requested ≠ 0) {timeoutUs : ℤ}
    (htimeout : 0 ≤ timeoutUs) :
    ExactRead arith v ticks frequency sampleRate k
      (RxSampleQueue.read arith st.queue (some out) requested timeoutUs) := by
  obtain ⟨front, rest, hblocks, hst, hoff⟩ := h.next_front hn
  have hwf : front.WellFormed := h.wellFormed.block front (by rw [hblocks]; exact List.mem_cons_self)
  obtain ⟨hfit, hlarge⟩ := blockTime_exact hst hwf
  rw [hoff] at hfit hlarge
  rw [read_front arith hblocks out hreq htimeout]
  refine .of_time (stamped_ticks hst).1 (fun hle => ?_) (fun hlt => ?_)
  · rw [hfit hle]
    have hl := readLoop_result requested st.queue.blocks 0 out h.wellFormed.toWellFormedBlocks
      (Nat.zero_le _) hroom
    have hcopied := hl.copied
    rw [Nat.zero_mul, List.take_zero, pairs_nil, List.nil_append, Nat.sub_zero] at hcopied
    refine ⟨_, _, rfl, rfl, ?_⟩
    have hfront : unreadPairs st.queue.blocks = front.unread ++ unreadPairs rest := by
      rw [hblocks]; rfl
    have hpos := hwf.unread_pos
    rw [hcopied, List.head?_take, if_neg hreq, hfront, List.head?_append_of_ne_nil _
      (List.ne_nil_of_length_pos hpos), Block.unread, List.head?_drop, hoff, hst.1]
  · obtain ⟨what, ht⟩ := hlarge hlt
    rw [ht]
    exact ⟨what, rfl⟩

/-- A push with a valid frequency overflows exactly when its own time does not fit. -/
theorem pushTicks_overflow (arith : Arithmetic) (q : RxSampleQueue α) {source : Source α}
    {v : SampleVector α} (hv : source.vector? = some v) (ticks : UInt64)
    {frequency : TimestampRate} (hf : frequency.valid = true) (sampleRate : TimestampRate) :
    (∃ what, (pushOf arith q sampleRate source (.ticks ticks frequency)).1 =
      .error (.overflowError what)) ↔ int64Max < ⌊(ticks.toNat : ℚ) * 10 ^ 9 / frequency.rate⌋₊ := by
  have hvector : pushOf arith q sampleRate source (.ticks ticks frequency) =
      pushTicks arith q v ticks frequency sampleRate := by
    cases source with
    | vector w => cases hv; rfl
    | pointer samples complexSamples =>
      exact fromPointer_some hv fun v => pushTicks arith q v ticks frequency sampleRate
  rw [hvector, ← TimestampRate.floorNs_eq_floor]
  unfold pushTicks
  rw [frequency.convert_eq arith hf]
  rcases Nat.lt_or_ge int64Max (frequency.floorNs ticks.toNat) with hlt | hle
  · rw [if_neg (by omega)]
    exact ⟨fun _ => hlt, fun _ => ⟨_, rfl⟩⟩
  · rw [if_pos hle]
    refine ⟨?_, fun hlt => by omega⟩
    rintro ⟨what, h⟩
    simp only [pushWithPhase] at h
    split at h
    · cases h
    · split at h
      · cases h
      · split at h
        · cases h
        · split at h <;> cases h

/-- The time of every read is exact, however the reads before it cut the queue. -/
theorem rx_timestamp_exact (arith : Arithmetic) (capacity : ℕ) (q : RxSampleQueue α)
    (hq : RxSampleQueue.create capacity = .ok q) (ops : List (QueueOp α)) :
    (∀ v ticks frequency sampleRate k,
      ((⟨q, .empty⟩ : Observed α).run arith ops).session.Next
        ⟨v, .ticks ticks frequency, sampleRate⟩ k →
      ∀ out requested timeoutUs, requested * 2 ≤ out.length → requested ≠ 0 → 0 ≤ timeoutUs →
        ExactRead arith v ticks frequency sampleRate k
          (RxSampleQueue.read arith ((⟨q, .empty⟩ : Observed α).run arith ops).queue (some out)
            requested timeoutUs)) ∧
    (∀ source v ticks frequency sampleRate, Source.vector? source = some v →
      frequency.valid = true →
      ((∃ what, (pushOf arith ((⟨q, .empty⟩ : Observed α).run arith ops).queue sampleRate source
        (.ticks ticks frequency)).1 = .error (.overflowError what)) ↔
      int64Max < ⌊(ticks.toNat : ℚ) * 10 ^ 9 / frequency.rate⌋₊)) := by
  have h := (Consistent.of_create arith hq).run ops
  constructor
  · intro v ticks frequency sampleRate k hn out requested timeoutUs hroom hreq htimeout
    exact h.exactRead hn out hroom hreq htimeout
  · intro source v ticks frequency sampleRate hv hf
    exact pushTicks_overflow arith _ hv ticks hf sampleRate

/-- Thirds and sevenths: the second sample of a block, whose phases carry. -/
theorem rx_timestamp_exact_thirds :
    let v : SampleVector ℤ := ⟨[1, 1, 2, 2, 3, 3], by simp⟩
    let third := TimestampRate.ofFrequency 3
    let seventh := TimestampRate.ofFrequency 7
    let ops : List (QueueOp ℤ) :=
      [.start, .push (.vector v) (.ticks 5 third) seventh, .read (some [0, 0]) 1 0 (by simp)]
    let q := ((⟨⟨4, [], false, false, 0⟩, .empty⟩ : Observed ℤ).run .int128 ops).queue
    ExactRead .int128 v 5 third seventh 1 (RxSampleQueue.read .int128 q (some [0, 0]) 1 0) ∧
    ((∃ what, (pushOf .int128 q seventh (.vector v) (.ticks 5 third)).1 =
      .error (.overflowError what)) ↔ int64Max < ⌊((5 : UInt64).toNat : ℚ) * 10 ^ 9 / third.rate⌋₊) := by
  intro v third seventh ops q
  have h := rx_timestamp_exact .int128 4 ⟨4, [], false, false, 0⟩ rfl ops
  have hnext : ((⟨⟨4, [], false, false, 0⟩, .empty⟩ : Observed ℤ).run .int128 ops).session.Next
      ⟨v, .ticks 5 third, seventh⟩ 1 :=
    ⟨[], [], by decide +kernel, by decide, by decide +kernel⟩
  exact ⟨h.1 v 5 third seventh 1 hnext [0, 0] 1 0 (by simp) (by decide) le_rfl,
    h.2 _ v 5 third seventh rfl (by decide)⟩

end SoapySidekiq
