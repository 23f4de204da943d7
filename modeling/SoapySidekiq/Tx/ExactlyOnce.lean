import SoapySidekiq.Tx.Packets

/-! # Exactly once, in order

An admitted write sends a prefix of its blocks, and its result says how many. A caller that goes on
from each positive result and sends the same suffix again after a negative one therefore gets the blocks
of its input onto the wire in their order, each once. -/
set_option autoImplicit false

namespace SoapySidekiq

/-! ## Runs -/

namespace TxSystem

/-- Every call has sent the first blocks of its buffer, in some format. -/
structure Sendings (config : TxConfiguration) (s : TxSystem) : Prop extends s.Writing config where
  calls : ∀ (id : ℕ) (w : Writer), s.writers[id]? = some w → ∃ short, w.Sending s.device short id

theorem sendings_step {config : TxConfiguration} {s t : TxSystem} {a : TxAction}
    (h : s.Sendings config) (ha : s.serialized a = true) (hstep : TxStep s a t) : t.Sendings config := by
  refine ⟨writing_step h.toWriting ha hstep, fun id w' hw' => ?_⟩
  rcases hstep.call_before hw' with ⟨w, hw⟩ | ⟨rfl, request, hbegun, rfl⟩
  · obtain ⟨x, hx, hcall⟩ := call_step h.admission h.serial hstep hw
    obtain rfl : x = w' := Option.some.inj (hx.symm.trans hw')
    obtain ⟨short, hsending⟩ := h.calls id w hw
    by_cases hadmitting : w.admitted = false ∧ x.admitted = true
    · have hpc := hcall.admitting hadmitting.1 hadmitting.2
      exact ⟨s.device.txUseShort, hcall.sending h.admission h.slots hstep hw
        (hsending.reformat hpc s.device.txUseShort) fun _ => rfl⟩
    · refine ⟨short, hcall.sending h.admission h.slots hstep hw hsending fun hadmitted => ?_⟩
      exact hsending.format (by simpa [hadmitted] using hadmitting)
  · have hnone : packetsOf s.writers.length t.device.trace = [] := by
      obtain ⟨events, htrace, hevents⟩ := hstep.events h.admission
      rw [htrace, packetsOf_append, ← List.nil_append s.device.trace, packetsOf_append]
      · rfl
      · exact fun e he hid => Nat.lt_irrefl _ (h.made e he _ hid)
      · exact fun e he hid => Nat.lt_irrefl _ (hevents e he _ hid).1
    refine ⟨true, sound_create _ request, ?_, ?_, ?_, ?_⟩
    · simp [Writer.create, Writer.admitted]
    · rw [hnone]
      rfl
    · simp [Writer.create, Writer.admitted]
    · simp [Writer.create]

theorem sendings_run {config : TxConfiguration} {s : TxSystem} {actions : List TxAction}
    (hserial : Transition.Along next (fun u a => u.serialized a = true) (create config) actions)
    (hrun : Transition.run next (create config) actions = some s) : s.Sendings config :=
  Transition.along_invariant (fun _ _ _ h ha hnext => sendings_step h ha (step_of_next hnext))
    ⟨writing_create config, by simp [create]⟩ hserial hrun

/-- The call was admitted while the stream had the format `short`. -/
structure Serving (config : TxConfiguration) (request : WriteRequest) (short : Bool) (id : ℕ)
    (s : TxSystem) : Prop extends s.Writing config where
  call : ∃ w, s.writers[id]? = some w ∧ w.Sending s.device short id ∧ w.Served config ∧
    w.request = request

theorem serving_step {config : TxConfiguration} {request : WriteRequest} {short : Bool} {id : ℕ}
    {s t : TxSystem} {a : TxAction} (h : s.Serving config request short id)
    (ha : s.serialized a = true) (hstep : TxStep s a t) : t.Serving config request short id := by
  obtain ⟨w, hw, hsending, hserved, hrequest⟩ := h.call
  obtain ⟨w', hw', hcall⟩ := call_step h.admission h.serial hstep hw
  refine ⟨writing_step h.toWriting ha hstep, w', hw', ?_, ?_, hcall.request.trans hrequest⟩
  · refine hcall.sending h.admission h.slots hstep hw hsending fun hadmitted' => ?_
    by_cases hadmitted : w.admitted = true
    · exact hsending.format hadmitted
    · have hpc := hcall.admitting (Bool.eq_false_iff.mpr hadmitted) hadmitted'
      rcases hserved with hadmitted | ⟨status, hover, -⟩
      · simp [Writer.admitted, hpc] at hadmitted
      · simp [hpc] at hover
  · rw [← h.configured] at hserved ⊢
    exact hcall.served hsending.sound hserved

end TxSystem

/-! ## One call -/

namespace TxSystem

/-- An admitted call, at any later time: the blocks that the SDK has accepted are its first ones in their
order, and its result is what they amount to, or a negative status when there are none. -/
theorem call_packets {config : TxConfiguration} {before after : List TxAction} {s₀ s : TxSystem}
    {id : ℕ} {w₀ w : Writer}
    (hserial : Transition.Along next (fun u a => u.serialized a = true) (create config)
      (before ++ after))
    (hbefore : Transition.run next (create config) before = some s₀)
    (hafter : Transition.run next s₀ after = some s) (hw₀ : s₀.writers[id]? = some w₀)
    (hadmitted : w₀.admitted = true) (hw : s.writers[id]? = some w) :
    ∃ k, packetsOf id s.device.trace =
        (List.range k).map (w.request.block config s₀.device.txUseShort) ∧
      k ≤ w.request.numElems / config.currentTxBlockSize ∧
      ∀ status : ℤ, w.pc = .returned status →
        if 0 < k ∨ w.request.numElems = 0 then status = (k * config.currentTxBlockSize : ℕ)
        else status = soapyStreamError ∨ status = soapyTimeout := by
  have hsendings := sendings_run (Transition.along_prefix hserial) hbefore
  obtain ⟨short, hsending⟩ := hsendings.calls id w₀ hw₀
  obtain rfl : s₀.device.txUseShort = short := hsending.format hadmitted
  have hserving : s₀.Serving config w₀.request s₀.device.txUseShort id :=
    ⟨hsendings.toWriting, w₀, hw₀, hsending, .inl hadmitted, rfl⟩
  have hend : s.Serving config w₀.request s₀.device.txUseShort id :=
    Transition.along_invariant (I := fun u => u.Serving config w₀.request s₀.device.txUseShort id)
      (fun _ _ _ h ha hnext => serving_step h ha (step_of_next hnext)) hserving
      (Transition.along_suffix hserial hbefore) hafter
  obtain ⟨x, hx, hsent, hserved, -⟩ := hend.call
  obtain rfl : x = w := Option.some.inj (hx.symm.trans hw)
  have hpackets := hsent.packets
  rw [hend.configured] at hpackets
  refine ⟨x.progress, hpackets, ?_, ?_⟩
  · exact hend.configured ▸ hsent.sound.progress_le
  · intro status hpc
    have hprogress : x.progress = x.currBlock := by simp [Writer.progress, hpc]
    rcases hserved with hnot | ⟨status', hstatus, hresult⟩
    · simp [Writer.admitted, hpc] at hnot
    · obtain rfl : status = status' := by simpa [hpc] using hstatus
      rw [hprogress]
      exact hresult

end TxSystem

/-! ## A caller -/

/-- A caller with its input of `total` complex samples in the format `short`, and the numbers of the
write calls that it makes. -/
structure TxCaller where
  input : Memory
  total : ℕ
  short : Bool
  makes : ℕ → Bool

/-- The samples that a call that has returned reports as accepted. -/
def Writer.result (w : Writer) : ℕ :=
  match w.pc with
  | .returned status => status.toNat
  | _ => 0

namespace TxCaller

/-- The packets that the SDK has accepted from the caller's calls, in their order. -/
def packets (c : TxCaller) (trace : List SdkEvent) : List Bytes :=
  ((acceptedPackets trace).filter fun p => c.makes p.1).map Prod.snd

/-- The samples that the caller knows to be accepted: the positive results of its calls. -/
def position (c : TxCaller) (s : TxSystem) : ℕ :=
  ThreadPool.sumFrom c.makes Writer.result 0 s.writers

/-- A call of the caller is for the rest of its input, or for a beginning of it. -/
def Follows (c : TxCaller) (s : TxSystem) : TxAction → Prop
  | .writeStream request => c.makes s.writers.length = true →
      request.buffer = some (Memory.drop c.input c.short (c.position s)) ∧
        c.position s + request.numElems ≤ c.total
  | _ => True

/-- The stream is in the caller's format while a call of the caller is admitted. -/
def inFormat (c : TxCaller) (s : TxSystem) : TxAction → Bool
  | .writer id _ => !c.makes id || s.device.txUseShort == c.short || (s.writers[id]?).all fun w =>
      !w.admitted
  | _ => true

/-- Block number `j` of the caller's input on the wire. -/
def block (c : TxCaller) (config : TxConfiguration) (j : ℕ) : Bytes :=
  wireSamples config.convert c.short c.input (j * config.currentTxBlockSize) config.currentTxBlockSize

/-- What the caller has got onto the wire is a prefix of its input, and each call that is still running
goes on from there. -/
structure Delivered (c : TxCaller) (config : TxConfiguration) (s : TxSystem) : Prop where
  packets : c.packets s.device.trace =
    (List.range (c.packets s.device.trace).length).map (c.block config)
  counted : ThreadPool.sumFrom c.makes Writer.progress 0 s.writers =
    (c.packets s.device.trace).length
  current : ∀ (id : ℕ) (w : Writer), c.makes id = true → s.writers[id]? = some w →
    w.isReturned = false → ∃ pos, w.request.buffer = some (Memory.drop c.input c.short pos) ∧
      pos + w.progress * config.currentTxBlockSize =
        (c.packets s.device.trace).length * config.currentTxBlockSize ∧
      pos + w.request.numElems ≤ c.total
  bounded : (c.packets s.device.trace).length * config.currentTxBlockSize ≤ c.total

end TxCaller

/-! ### What a step does to the caller -/

theorem acceptedPackets_kept {trace events : List SdkEvent} (h : ∀ e ∈ events, e.kind ≠ .transmit) :
    acceptedPackets (trace ++ events) = acceptedPackets trace := by
  have hnone : acceptedPackets events = [] := by
    refine List.filterMap_eq_nil_iff.mpr fun e he => ?_
    cases e with
    | accepted id packet => exact absurd rfl (h _ he)
    | issued | returned => rfl
  rw [acceptedPackets, List.filterMap_append]
  exact (congrArg _ hnone).trans (List.append_nil _)

namespace TxCaller
variable {c : TxCaller} {config : TxConfiguration}

theorem packets_moved (c : TxCaller) {d d' : TxDevice} {j : ℕ} {w w' : Writer}
    (h : WriterMove d j w d' w') :
    c.packets d'.trace = c.packets d.trace ∧ (c.makes j = true → w'.progress = w.progress) ∨
      c.makes j = true ∧ w.pc = .transmitting ∧ w'.progress = w.progress + 1 ∧
        c.packets d'.trace = c.packets d.trace ++ [d.blockData w.context.txIndex] := by
  rcases h.packets with ⟨hsame, hprogress⟩ | ⟨hpc, hprogress, happend⟩
  · exact .inl ⟨by rw [packets, hsame, packets], fun _ => hprogress⟩
  · cases hmakes : c.makes j with
    | false => exact .inl ⟨by simp [packets, happend, hmakes], by simp⟩
    | true =>
      have hbefore : w.progress = w.currBlock := by simp [Writer.progress, hpc]
      exact .inr ⟨rfl, hpc, by rw [hprogress, hbefore], by simp [packets, happend, hmakes]⟩

theorem packets_aside {s : TxSystem} {a : TxAction} {d' : TxDevice} (h : Aside s a d') :
    c.packets d'.trace = c.packets s.device.trace := by
  obtain ⟨events, htrace, hevents⟩ := h.trace
  rw [packets, htrace, acceptedPackets_kept hevents, packets]

/-- A call of the caller makes progress with the caller's packets. -/
theorem progress_step {s t : TxSystem} {a : TxAction} {id : ℕ} {w w' : Writer}
    (h : CallStep s a t id w w') (hmakes : c.makes id = true) (hw : w.isReturned = false) :
    w'.progress + (c.packets s.device.trace).length =
      w.progress + (c.packets t.device.trace).length := by
  cases h with
  | moved input _ ha hmove =>
    rcases c.packets_moved hmove with ⟨hsame, hprogress⟩ | ⟨-, -, hprogress, happend⟩
    · rw [hsame, hprogress hmakes]
    · rw [happend, hprogress, List.length_append, List.length_singleton]
      omega
  | other j input v v' ha hne hreturned => simp [hw] at hreturned
  | aside _ ha hwake haside =>
    rw [packets_aside haside, woken_progress hwake]

/-- The caller's position when its calls have returned: the packets that it has sent. -/
theorem position_eq {s : TxSystem} (hs : s.Sendings config)
    (hreturned : ∀ (id : ℕ) (w : Writer), c.makes id = true → s.writers[id]? = some w →
      w.isReturned = true) :
    c.position s = ThreadPool.sumFrom c.makes Writer.progress 0 s.writers *
      config.currentTxBlockSize := by
  rw [position, ← ThreadPool.sumFrom_mul]
  refine ThreadPool.sumFrom_congr fun id w hw hmakes => ?_
  rw [Nat.zero_add] at hmakes
  obtain ⟨short, hsending⟩ := hs.calls id w hw
  have hback := hreturned id w hmakes hw
  unfold Writer.isReturned at hback
  split at hback
  · next status hpc =>
    have hprogress : w.progress = w.currBlock := by simp [Writer.progress, hpc]
    rw [Writer.result, hpc, hprogress, ← hs.configured]
    exact hsending.sound.returned status hpc
  · cases hback

end TxCaller

namespace TxCaller
variable {c : TxCaller} {config : TxConfiguration} {s t : TxSystem} {a : TxAction}

theorem wake_progress {wake : Writer → Writer}
    (h : wake = id ∨ wake = Writer.wakeCv ∨ wake = Writer.wakeChanged) (w : Writer) :
    (wake w).progress = w.progress :=
  woken_progress (Writer.wake_cases h w)

theorem counted_step (h : c.Delivered config s) (hs : s.Admission) (hstep : TxStep s a t) :
    ThreadPool.sumFrom c.makes Writer.progress 0 t.writers = (c.packets t.device.trace).length := by
  obtain ⟨writers, wake, hmove, ht, hwake⟩ := hstep.writers
  rw [ht, ThreadPool.sumFrom_map (wake_progress hwake)]
  cases hmove with
  | none ha => rw [h.counted, packets_aside (hstep.aside hs ha)]
  | begun request ha =>
    rw [ThreadPool.sumFrom_concat, h.counted, packets_aside (hstep.aside hs (by simp [ha]))]
    split <;> rfl
  | moved j input w w' ha hw hmove =>
    have hset := ThreadPool.sumFrom_set c.makes Writer.progress 0 w' hw
    have hcounted := h.counted
    rw [Nat.zero_add] at hset
    rcases c.packets_moved hmove with ⟨hsame, hprogress⟩ | ⟨hmakes, -, hprogress, happend⟩
    · rw [hsame, ← hcounted]
      split at hset
      · next hmakes => rw [hprogress hmakes] at hset; omega
      · omega
    · rw [happend, List.length_append, List.length_singleton, ← hcounted]
      rw [if_pos hmakes, if_pos hmakes, hprogress] at hset
      omega

theorem current_step (h : c.Delivered config s) (hs : s.Sendings config)
    (ha : s.serialized a = true) (hfollows : c.Follows s a) (hstep : TxStep s a t) :
    ∀ (id : ℕ) (w : Writer), c.makes id = true → t.writers[id]? = some w → w.isReturned = false →
      ∃ pos, w.request.buffer = some (Memory.drop c.input c.short pos) ∧
        pos + w.progress * config.currentTxBlockSize =
          (c.packets t.device.trace).length * config.currentTxBlockSize ∧
        pos + w.request.numElems ≤ c.total := by
  intro id w' hmakes hw' hrunning
  rcases hstep.call_before hw' with ⟨w, hw⟩ | ⟨rfl, request, rfl, rfl⟩
  · obtain ⟨x, hx, hcall⟩ := call_step hs.admission hs.serial hstep hw
    obtain rfl : x = w' := Option.some.inj (hx.symm.trans hw')
    have hbefore : w.isReturned = false := hcall.running hrunning
    obtain ⟨pos, hbuffer, hpos, htotal⟩ := h.current id w hmakes hw hbefore
    have hprogress := congrArg (· * config.currentTxBlockSize) (progress_step hcall hmakes hbefore)
    simp only [Nat.add_mul] at hprogress
    rw [hcall.request]
    exact ⟨pos, hbuffer, by omega, htotal⟩
  · obtain ⟨hbuffer, htotal⟩ := hfollows hmakes
    have hposition := position_eq (c := c) hs fun j v _ hv => by
      simp only [TxSystem.serialized, List.all_eq_true] at ha
      exact ha v (List.mem_of_getElem? hv)
    rw [h.counted] at hposition
    rw [packets_aside (hstep.aside hs.admission (by simp))]
    exact ⟨c.position s, hbuffer, by simp [hposition, Writer.create, Writer.progress], htotal⟩

/-- A step of the SDK's puts the next block of the input on the wire, or none of the caller's. -/
theorem packets_step (h : c.Delivered config s) (hs : s.Sendings config)
    (hformat : c.inFormat s a = true) (hstep : TxStep s a t) :
    c.packets t.device.trace = c.packets s.device.trace ∨
      (∃ id w, c.makes id = true ∧ t.writers[id]? = some w ∧ w.isReturned = false) ∧
        c.packets t.device.trace =
          c.packets s.device.trace ++ [c.block config (c.packets s.device.trace).length] := by
  by_cases ha : ∃ j input, a = .writer j input
  · obtain ⟨j, input, rfl⟩ := ha
    cases hstep with
    | writer _ _ w w' d' hw hmove =>
      rw [TxSystem.notify_device]
      rcases c.packets_moved hmove with ⟨hsame, -⟩ | ⟨hmakes, hpc, hprogress, happend⟩
      · exact .inl hsame
      · have hadmitted : w.admitted = true := by simp [Writer.admitted, hpc]
        have hshort : s.device.txUseShort = c.short := by
          simpa [inFormat, hmakes, hw, hadmitted] using hformat
        obtain ⟨short, hsending⟩ := hs.calls j w hw
        obtain ⟨pos, hbuffer, hpos, -⟩ := h.current j w hmakes hw (by simp [Writer.isReturned, hpc])
        have hblock := hsending.block hpc
        rw [← hsending.format hadmitted, hshort, hs.configured] at hblock
        refine .inr ⟨⟨j, w', hmakes, moved_writer hw hmove, ?_⟩, ?_⟩
        · cases hmove <;> simp_all [Writer.isReturned]
        · have hnext : pos + w.currBlock * config.currentTxBlockSize =
              (c.packets s.device.trace).length * config.currentTxBlockSize := by
            simpa [Writer.progress, hpc] using hpos
          refine happend.trans (congrArg (fun packet => c.packets s.device.trace ++ [packet]) ?_)
          rw [hblock, WriteRequest.block, hbuffer, Option.getD_some, wireSamples_drop, hnext, block]
  · exact .inl (packets_aside (hstep.aside hs.admission fun j input hj => ha ⟨j, input, hj⟩))

theorem delivered_step (h : c.Delivered config s) (hs : s.Sendings config)
    (ha : s.serialized a = true) (hfollows : c.Follows s a) (hformat : c.inFormat s a = true)
    (hstep : TxStep s a t) : c.Delivered config t := by
  have hcurrent := current_step h hs ha hfollows hstep
  refine ⟨?_, counted_step h hs.admission hstep, hcurrent, ?_⟩
  · rcases packets_step h hs hformat hstep with hsame | ⟨-, happend⟩
    · rw [hsame]
      exact h.packets
    · rw [happend, List.length_append, List.length_singleton, List.range_succ, List.map_append,
        ← h.packets]
      rfl
  · rcases packets_step h hs hformat hstep with hsame | ⟨⟨id, w, hmakes, hw, hrunning⟩, -⟩
    · rw [hsame]
      exact h.bounded
    · obtain ⟨pos, -, hpos, htotal⟩ := hcurrent id w hmakes hw hrunning
      have ht := TxSystem.sendings_step hs ha hstep
      obtain ⟨short, hsending⟩ := ht.calls id w hw
      have hle := Nat.mul_le_mul_right config.currentTxBlockSize
        (ht.configured ▸ hsending.sound.progress_le)
      have hblocks := Nat.div_mul_le_self w.request.numElems config.currentTxBlockSize
      omega

end TxCaller

/-! ## The theorem -/

namespace TxSystem

/-- An admitted call sends its first blocks in their order and returns what they amount to, a negative
result means that nothing was accepted, and a caller that goes on from its positive results gets the
blocks of its input onto the wire in their order, each once: all of them when nothing is left. -/
theorem tx_writes_exactly_once {config : TxConfiguration} {actions : List TxAction} {s : TxSystem}
    (hserial : Transition.Along next (fun u a => u.serialized a = true) (create config) actions)
    (hrun : Transition.run next (create config) actions = some s) :
    (∀ before after s₀ id w₀ w, actions = before ++ after →
      Transition.run next (create config) before = some s₀ → s₀.writers[id]? = some w₀ →
      w₀.admitted = true → s.writers[id]? = some w →
      ∃ k, packetsOf id s.device.trace =
          (List.range k).map (w.request.block config s₀.device.txUseShort) ∧
        k ≤ w.request.numElems / config.currentTxBlockSize ∧
        ∀ status : ℤ, w.pc = .returned status →
          if 0 < k ∨ w.request.numElems = 0 then status = (k * config.currentTxBlockSize : ℕ)
          else status = soapyStreamError ∨ status = soapyTimeout) ∧
    (∀ (id : ℕ) (w : Writer) (status : ℤ), s.writers[id]? = some w → w.pc = .returned status →
      status < 0 → packetsOf id s.device.trace = []) ∧
    ∀ c : TxCaller,
      Transition.Along next (fun u a => c.Follows u a ∧ c.inFormat u a = true) (create config) actions →
      ∃ k, c.packets s.device.trace = (List.range k).map (c.block config) ∧
        k * config.currentTxBlockSize ≤ c.total ∧
        ((∀ (id : ℕ) (w : Writer), c.makes id = true → s.writers[id]? = some w →
            w.isReturned = true) →
          c.position s = k * config.currentTxBlockSize ∧
          (c.position s = c.total → (c.packets s.device.trace).flatten =
            wireSamples config.convert c.short c.input 0 c.total)) := by
  have hsendings := sendings_run hserial hrun
  refine ⟨?_, ?_, fun c hcaller => ?_⟩
  · rintro before after s₀ id w₀ w rfl hbefore hw₀ hadmitted hw
    obtain ⟨u, hu, hafter⟩ := Transition.run_append.mp hrun
    obtain rfl : u = s₀ := Option.some.inj (hu.symm.trans hbefore)
    exact call_packets hserial hbefore hafter hw₀ hadmitted hw
  · intro id w status hw hpc hnegative
    obtain ⟨short, hsending⟩ := hsendings.calls id w hw
    have hzero : w.progress = 0 := by
      have hreturned := hsending.sound.returned status hpc
      rw [Int.toNat_of_nonpos (by omega)] at hreturned
      have hblock := (Nat.mul_eq_zero.mp hreturned.symm).resolve_right
        (Nat.pos_iff_ne_zero.mp s.device.config.blockSize_pos)
      simpa [Writer.progress, hpc] using hblock
    rw [hsending.packets, hzero]
    rfl
  · have hall := Transition.along_invariant
      (I := fun u : TxSystem => u.Sendings config ∧ c.Delivered config u)
      (fun u a v h ha hnext => ⟨sendings_step h.1 ha.1 (step_of_next hnext),
        TxCaller.delivered_step h.2 h.1 ha.1 ha.2.1 ha.2.2 (step_of_next hnext)⟩)
      ⟨⟨writing_create config, by simp [create]⟩, rfl, rfl, by simp [create],
        by simp [create, TxDevice.create, TxCaller.packets, acceptedPackets]⟩
      (Transition.along_and hserial hcaller) hrun
    obtain ⟨-, hdelivered⟩ := hall
    refine ⟨_, hdelivered.packets, hdelivered.bounded, fun hreturned => ?_⟩
    have hposition := TxCaller.position_eq hsendings hreturned
    rw [hdelivered.counted] at hposition
    refine ⟨hposition, fun htotal => ?_⟩
    rw [hdelivered.packets, ← List.flatMap_def, ← htotal, hposition]
    exact wireSamples_packets _ _

end TxSystem

namespace TxSystem

/-- A caller of four samples, and of every write. -/
def fourSamples : TxCaller := ⟨fun i => UInt8.ofNat i, 4, true, fun _ => true⟩

/-- What is left of the four samples at a position. -/
def suffixFrom (pos : ℕ) : TxAction :=
  .writeStream ⟨100, some (Memory.drop fourSamples.input true pos), 4 - pos, 0, 0⟩

/-- A call up to its submission, and the acceptance of the block. -/
def acceptedFirst (id : ℕ) : List TxAction :=
  List.replicate 9 (.writer id .run) ++ [.writer id .accept, .writer id (.sdk 0)]

/-- The SDK accepts the first block and refuses the second one, which the caller sends again. -/
def suffixRetried : List TxAction :=
  (SmallTx.setup ++ SmallTx.activate) ++
    (suffixFrom 0 :: (acceptedFirst 0 ++ List.replicate 6 (.writer 0 .run) ++ [.writer 0 (.sdk (-5))] ++
      List.replicate 3 (.writer 0 .run)) ++
    (suffixFrom 2 :: (acceptedFirst 1 ++ List.replicate 4 (.writer 1 .run))))

/-- A caller has nothing to follow where no write begins. -/
theorem follows_of_none (c : TxCaller) {as : List TxAction}
    (h : (as.all fun a => match a with | .writeStream _ => false | _ => true) = true) (s : TxSystem) :
    Transition.Along next c.Follows s as := by
  refine Transition.along_of_forall (fun a ha u => ?_) s
  have hnone := List.all_eq_true.mp h a ha
  cases a with
  | writeStream request => cases hnone
  | _ => trivial

theorem suffixRetried_follows :
    Transition.Along next fourSamples.Follows (create SmallTx.config) suffixRetried := by
  have hposition : ∀ {as : List TxAction} {pos : ℕ} {s : TxSystem},
      (Transition.run next (create SmallTx.config) as).map
        (fun s => decide (fourSamples.position s = pos)) = some true →
      Transition.run next (create SmallTx.config) as = some s → fourSamples.position s = pos := by
    intro as pos s hmap hrun
    rw [hrun] at hmap
    simpa using hmap
  refine Transition.along_concat (follows_of_none _ (by decide) _) fun s₀ hs₀ => ?_
  have hzero : fourSamples.position s₀ = 0 := hposition (by decide +kernel) hs₀
  refine ⟨fun _ => by rw [hzero]; exact ⟨rfl, by decide⟩, fun s₁ hs₁ => ?_⟩
  refine Transition.along_concat (follows_of_none _ (by decide) _) fun s₂ hs₂ => ?_
  have htwo : fourSamples.position s₂ = 2 := hposition (by decide +kernel)
    (Transition.run_append.mpr ⟨s₀, hs₀, Transition.run_cons.mpr ⟨s₁, hs₁, hs₂⟩⟩)
  exact ⟨fun _ => by rw [htwo]; exact ⟨rfl, by decide⟩, fun s₃ _ => follows_of_none _ (by decide) _⟩

theorem tx_writes_exactly_once_retried :
    ∃ s, Transition.run next (create SmallTx.config) suffixRetried = some s ∧
      fourSamples.position s = 4 ∧ (fourSamples.packets s.device.trace).length = 2 ∧
      (fourSamples.packets s.device.trace).flatten =
        wireSamples SmallTx.config.convert true fourSamples.input 0 4 := by
  have hserial : Transition.Along next (fun u a => u.serialized a = true) (create SmallTx.config)
    suffixRetried := by decide +kernel
  have hformat : Transition.Along next (fun u a => fourSamples.inFormat u a = true)
    (create SmallTx.config) suffixRetried := by decide +kernel
  obtain ⟨s, hrun, hchecks⟩ := Option.map_eq_some_iff.mp (show (Transition.run next
    (create SmallTx.config) suffixRetried).map (fun s => s.writers.all Writer.isReturned &&
      (decide (fourSamples.position s = 4) &&
        decide ((fourSamples.packets s.device.trace).length = 2))) = some true by decide +kernel)
  simp only [Bool.and_eq_true, decide_eq_true_eq, List.all_eq_true] at hchecks
  obtain ⟨hreturned, hposition, hlength⟩ := hchecks
  obtain ⟨-, -, hcallers⟩ := tx_writes_exactly_once hserial hrun
  obtain ⟨k, -, -, hend⟩ := hcallers fourSamples
    (Transition.along_and suffixRetried_follows hformat)
  obtain ⟨-, hwhole⟩ := hend fun id w _ hw => hreturned w (List.mem_of_getElem? hw)
  exact ⟨s, hrun, hposition, hlength, hwhole hposition⟩

end TxSystem

end SoapySidekiq
