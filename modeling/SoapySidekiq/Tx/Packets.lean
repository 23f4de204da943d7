import SoapySidekiq.Tx.Wire
import SoapySidekiq.Tx.WriteCall

/-! # The packets of a write

A write call sends the blocks of its buffer in their order, each at most once, and its result is the
number of samples that the SDK has accepted from it, or a negative status when that is none. -/
set_option autoImplicit false

namespace SoapySidekiq

/-! ## Accepted packets -/

def SdkEvent.packet : SdkEvent → Option (ℕ × Bytes)
  | .accepted id packet => some (id, packet)
  | _ => none

/-- The packets that the SDK has accepted, each with the number of its write call. -/
def acceptedPackets (trace : List SdkEvent) : List (ℕ × Bytes) := trace.filterMap SdkEvent.packet

/-- The packets accepted from one call. -/
def packetsOf (id : ℕ) (trace : List SdkEvent) : List Bytes :=
  ((acceptedPackets trace).filter fun p => p.1 == id).map Prod.snd

/-- What block number `j` of the call's buffer is meant to be on the wire. -/
def WriteRequest.block (r : WriteRequest) (config : TxConfiguration) (short : Bool) (j : ℕ) : Bytes :=
  wireSamples config.convert short (r.buffer.getD fun _ => 0) (j * config.currentTxBlockSize)
    config.currentTxBlockSize

theorem packetsOf_append {id : ℕ} {trace events : List SdkEvent}
    (h : ∀ e ∈ events, e.writer ≠ some id) : packetsOf id (trace ++ events) = packetsOf id trace := by
  have hnone : packetsOf id events = [] := by
    unfold packetsOf acceptedPackets
    rw [List.map_eq_nil_iff, List.filter_eq_nil_iff]
    intro packet hpacket hid
    obtain ⟨e, he, hsome⟩ := List.mem_filterMap.mp hpacket
    cases e with
    | accepted writer data =>
      obtain rfl : (writer, data) = packet := Option.some.inj hsome
      exact h _ he (by simpa [SdkEvent.writer] using hid)
    | issued | returned => cases hsome
  have happend : packetsOf id (trace ++ events) = packetsOf id trace ++ packetsOf id events := by
    simp [packetsOf, acceptedPackets]
  rw [happend, hnone, List.append_nil]

/-! ## The progress of a call -/

/-- How many packets of the call the SDK has accepted. -/
def Writer.progress (w : Writer) : ℕ :=
  match w.pc with
  | .accepted | .advance => w.currBlock + 1
  | _ => w.currBlock

/-- The call has not got through the PPS gate. -/
def Writer.early (w : Writer) : Bool :=
  match w.pc with
  | .enter | .admission | .validate | .gate => true
  | .locking site _ | .inside site _ | .sleeping site | .parked site => site == .pps
  | _ => false

/-- The arguments have been found valid, and the result is still open. -/
def Writer.validated (w : Writer) : Bool :=
  match w.pc with
  | .enter | .admission | .validate | .leaving _ | .notifying _ | .returned _ => false
  | _ => true

/-- The call is at work on a block. -/
def Writer.inBlock (w : Writer) : Bool :=
  match w.pc with
  | .reserved | .filling | .transmitting | .accepted | .releasing _ | .advance => true
  | .locking site _ | .inside site _ | .sleeping site | .parked site => site != .pps
  | _ => false

/-- The result that a call with `currBlock` accepted packets has to have. -/
def Writer.Result (config : TxConfiguration) (w : Writer) (status : ℤ) : Prop :=
  if 0 < w.currBlock ∨ w.request.numElems = 0 then
    status = (w.currBlock * config.currentTxBlockSize : ℕ)
  else status = soapyStreamError ∨ status = soapyTimeout

@[simp] theorem Writer.result_goto (config : TxConfiguration) (w : Writer) (pc : WriterPc)
    (status : ℤ) : (w.goto pc).Result config status ↔ w.Result config status := Iff.rfl

/-- What a call knows about its own progress. -/
structure Writer.Sound (config : TxConfiguration) (w : Writer) : Prop where
  early : w.early = true → w.currBlock = 0 ∧ w.inbuffPtr = 0
  within : w.currBlock ≤ w.request.numElems / config.currentTxBlockSize
  valid : w.validated = true →
    w.request.numElems % config.currentTxBlockSize = 0 ∧ 0 < w.request.numElems
  inBlock : w.inBlock = true → w.currBlock < w.request.numElems / config.currentTxBlockSize
  ended : ∀ status, w.pc = .leaving status ∨ w.pc = .notifying status → w.Result config status
  returned : ∀ status, w.pc = .returned status →
    status.toNat = w.currBlock * config.currentTxBlockSize

theorem validateWrite_none {d : TxDevice} {r : WriteRequest} (h : d.validateWrite r = none) :
    r.numElems % d.config.currentTxBlockSize = 0 ∧ 0 < r.numElems := by
  unfold TxDevice.validateWrite at h
  split at h
  · cases h
  · next hsize =>
    split at h
    · cases h
    · next hzero =>
      constructor
      · by_contra hne
        exact hsize (.inr (.inr hne))
      · omega

/-- The result of a request that fails its validation. -/
theorem result_invalid {d : TxDevice} {w : Writer} {status : ℤ} (hblock : w.currBlock = 0)
    (h : d.validateWrite w.request = some status) : w.Result d.config status := by
  unfold TxDevice.validateWrite at h
  have hpos := d.config.blockSize_pos
  unfold Writer.Result
  by_cases hzero : w.request.numElems = 0
  · rw [if_pos (.inr hzero)]
    rw [if_neg (by simp [hzero, intMax]; omega), if_pos hzero] at h
    cases h
    simp [hblock]
  · rw [if_neg (by omega)]
    split at h
    · cases h; exact .inl rfl
    · split at h
      · cases h; exact .inl rfl
      · cases h

theorem result_prefix {d : TxDevice} {w : Writer} {status : ℤ} (hpos : 0 < w.request.numElems)
    (hstatus : status = soapyStreamError ∨ status = soapyTimeout) :
    w.Result d.config (w.prefixOr d status) := by
  unfold Writer.Result Writer.prefixOr
  by_cases hblock : w.currBlock = 0
  · rw [if_neg (by omega), if_pos hblock]
    exact hstatus
  · rw [if_pos (by omega), if_neg hblock]

theorem result_sentAll {config : TxConfiguration} {w : Writer} (hw : w.Sound config)
    (hvalid : w.validated = true)
    (hlt : ¬ w.currBlock < w.request.numElems / config.currentTxBlockSize) :
    w.Result config w.request.numElems := by
  obtain ⟨hmod, hpos⟩ := hw.valid hvalid
  have hle := hw.within
  have hblock : w.currBlock = w.request.numElems / config.currentTxBlockSize := by omega
  have hall : w.currBlock * config.currentTxBlockSize = w.request.numElems := by
    rw [hblock]
    exact Nat.div_mul_cancel (Nat.dvd_of_mod_eq_zero hmod)
  unfold Writer.Result
  rw [if_pos (.inl (Nat.pos_of_ne_zero fun hzero => by simp [hzero] at hall; omega)), hall]

theorem result_toNat {config : TxConfiguration} {w : Writer} {status : ℤ}
    (h : w.Result config status) : status.toNat = w.currBlock * config.currentTxBlockSize := by
  unfold Writer.Result at h
  split at h
  · rw [h, Int.toNat_natCast]
  · have hblock : w.currBlock = 0 := by omega
    rcases h with rfl | rfl <;> simp [hblock, soapyStreamError, soapyTimeout]

theorem checkWrite_negative {d : TxDevice} {r : WriteRequest} {status : ℤ}
    (h : d.checkWrite r = .error status) : status.toNat = 0 := by
  unfold TxDevice.checkWrite at h
  split at h
  · cases h; rfl
  · split at h
    · cases h; rfl
    · split at h
      · cases h; rfl
      · cases h

theorem WriterMove.sound {d d' : TxDevice} {id : ℕ} {w w' : Writer} (h : WriterMove d id w d' w')
    (hw : w.Sound d.config) : w'.Sound d'.config := by
  rw [h.frame.config]
  have hsound := hw
  obtain ⟨hearly, hwithin, hvalid, hblock, hended, hreturned⟩ := hw
  cases h with
  | unchecked status hpc hcheck =>
    have hzero := checkWrite_negative hcheck
    constructor <;> simp_all [Writer.early, Writer.validated, Writer.inBlock]
  | refused hpc =>
    constructor <;> simp_all [Writer.early, Writer.validated, Writer.inBlock, soapyStreamError]
  | invalid status hpc h =>
    have hresult := result_invalid (hearly (by simp [Writer.early, hpc])).1 h
    constructor <;> simp_all [Writer.early, Writer.validated, Writer.inBlock]
  | valid hpc h =>
    have hrequest := validateWrite_none h
    constructor <;> simp_all [Writer.early, Writer.validated, Writer.inBlock]
  | unstarted status timedOut hpc hstatus =>
    have hzero := (hearly (by simp [Writer.early, hpc])).1
    have hresult := result_prefix (d := d) (hvalid (by simp [Writer.validated, hpc])).2 hstatus
    rw [Writer.prefixOr, if_pos hzero] at hresult
    constructor <;> simp_all [Writer.early, Writer.validated, Writer.inBlock]
  | gaveUp site status timedOut hpc hsite hstatus =>
    have hresult := result_prefix (d := d) (hvalid (by simp [Writer.validated, hpc])).2 hstatus
    constructor <;> simp_all [Writer.early, Writer.validated, Writer.inBlock]
  | failed result hpc =>
    have hresult := result_prefix (d := d) (hvalid (by simp [Writer.validated, hpc])).2
      (.inl rfl)
    constructor <;> simp_all [Writer.early, Writer.validated, Writer.inBlock]
  | sentAll hpc hlt =>
    have hresult := result_sentAll hsound (by simp [Writer.validated, hpc]) hlt
    constructor <;> simp_all [Writer.early, Writer.validated, Writer.inBlock]
  | advanced hpc =>
    have hlt := hblock (by simp [Writer.inBlock, hpc])
    constructor <;> simp_all [Writer.early, Writer.validated, Writer.inBlock, Nat.add_one_le_iff]
  | left status hpc =>
    have hresult := hended status (.inl hpc)
    constructor <;> simp_all [Writer.early, Writer.validated, Writer.inBlock]
  | notified status hpc =>
    have htoNat := result_toNat (hended status (.inr hpc))
    constructor <;> simp_all [Writer.early, Writer.validated, Writer.inBlock]
  | _ => constructor <;> simp_all [Writer.early, Writer.validated, Writer.inBlock]

theorem CallStep.sound {s t : TxSystem} {a : TxAction} {id : ℕ} {w w' : Writer}
    (h : CallStep s a t id w w') (hw : w.Sound s.device.config) : w'.Sound s.device.config := by
  cases h with
  | moved input _ _ hmove => exact hmove.frame.config ▸ hmove.sound hw
  | other => exact hw
  | aside _ _ hwake =>
    rcases hwake with rfl | ⟨site, hpc, rfl⟩
    · exact hw
    · exact (@WriterMove.woken _ id _ site false hpc).sound hw

theorem Writer.Sound.progress_le {config : TxConfiguration} {w : Writer} (h : w.Sound config) :
    w.progress ≤ w.request.numElems / config.currentTxBlockSize := by
  unfold Writer.progress
  split
  · next hpc => exact h.inBlock (by simp [Writer.inBlock, hpc])
  · next hpc => exact h.inBlock (by simp [Writer.inBlock, hpc])
  · exact h.within

theorem WriterMove.request {d d' : TxDevice} {id : ℕ} {w w' : Writer} (h : WriterMove d id w d' w') :
    w'.request = w.request := by
  cases h <;> rfl

theorem CallStep.request {s t : TxSystem} {a : TxAction} {id : ℕ} {w w' : Writer}
    (h : CallStep s a t id w w') : w'.request = w.request := by
  cases h with
  | moved _ _ _ hmove => exact hmove.request
  | other => rfl
  | aside _ _ hwake => rcases hwake with rfl | ⟨site, hpc, rfl⟩ <;> rfl

theorem woken_progress {w w' : Writer}
    (hwake : w' = w ∨ ∃ site, w.pc = .parked site ∧ w' = w.goto (.locking site false)) :
    w'.progress = w.progress := by
  rcases hwake with rfl | ⟨site, hpc, rfl⟩
  · rfl
  · simp [Writer.progress, hpc]

theorem sound_create (config : TxConfiguration) (request : WriteRequest) :
    (Writer.create request).Sound config := by
  constructor <;> simp [Writer.create, Writer.validated, Writer.inBlock]

/-! ## A call and the device -/

/-- A call in the format `short`: the SDK has accepted its first blocks, in their order, and a block
in transmission is the next one. -/
structure Writer.Sending (d : TxDevice) (short : Bool) (id : ℕ) (w : Writer) : Prop where
  sound : w.Sound d.config
  format : w.admitted = true → d.txUseShort = short
  packets : packetsOf id d.trace =
    (List.range w.progress).map (w.request.block d.config short)
  pointer : w.admitted = true → w.inbuffPtr = w.currBlock * d.inputBlockBytes
  block : w.pc = .transmitting →
    d.blockData w.context.txIndex = w.request.block d.config short w.currBlock

/-- A move changes the accepted packets only when the SDK takes the call's block. -/
theorem WriterMove.packets {d d' : TxDevice} {id : ℕ} {w w' : Writer} (h : WriterMove d id w d' w') :
    acceptedPackets d'.trace = acceptedPackets d.trace ∧ w'.progress = w.progress ∨
      w.pc = .transmitting ∧ w'.progress = w.currBlock + 1 ∧
        acceptedPackets d'.trace =
          acceptedPackets d.trace ++ [(id, d.blockData w.context.txIndex)] := by
  have hnone : ∀ e : SdkEvent, e.packet = none →
      acceptedPackets (d.trace ++ [e]) = acceptedPackets d.trace := by
    intro e he
    simp [acceptedPackets, he]
  cases h with
  | accepted hpc =>
    refine .inr ⟨hpc, rfl, ?_⟩
    simp [acceptedPackets, SdkEvent.packet]
  | submitted _ hpc hfill =>
    subst hfill
    exact .inl ⟨hnone _ rfl, by simp [Writer.progress, hpc]⟩
  | rejected _ hpc => exact .inl ⟨hnone _ rfl, by simp [Writer.progress, hpc]⟩
  | transmitted hpc => exact .inl ⟨hnone _ rfl, by simp [Writer.progress, hpc]⟩
  | _ => exact .inl ⟨rfl, by simp_all [Writer.progress]⟩

theorem packetsOf_append_self (id : ℕ) (packet : Bytes) {trace trace' : List SdkEvent}
    (h : acceptedPackets trace' = acceptedPackets trace ++ [(id, packet)]) :
    packetsOf id trace' = packetsOf id trace ++ [packet] := by
  simp [packetsOf, h]

theorem fillBlock_blockData {d : TxDevice} {index : ℕ} {payload : Bytes} (hpool : d.PoolReady)
    (hindex : index < d.config.txBufferCount) : (d.fillBlock index payload).blockData index = payload := by
  obtain ⟨-, hblocks, -⟩ := hpool
  obtain ⟨blocks, hsome, hlength⟩ := Option.map_eq_some_iff.mp hblocks
  simp [TxDevice.blockData, hsome, hlength ▸ hindex]

theorem WriterMove.sending {d d' : TxDevice} {short : Bool} {id : ℕ} {w w' : Writer}
    (h : WriterMove d id w d' w') (hw : w.Sending d short id) (hplaced : w.Placed d)
    (hpool : w.admitted = true → d.PoolReady) (hshort : w'.admitted = true → d.txUseShort = short) :
    w'.Sending d' short id := by
  have hframe := h.frame
  refine ⟨h.sound hw.sound, fun hadmitted => hframe.txUseShort.trans (hshort hadmitted), ?_, ?_, ?_⟩
  · rw [hframe.config, h.request]
    rcases h.packets with ⟨hsame, hprogress⟩ | ⟨hpc, hprogress, happend⟩
    · rw [packetsOf, hsame, hprogress]
      exact hw.packets
    · rw [packetsOf_append_self id _ happend, hw.packets, hprogress, hw.block hpc]
      have hbefore : w.progress = w.currBlock := by simp [Writer.progress, hpc]
      rw [hbefore, List.range_succ, List.map_append]
      rfl
  · intro hadmitted
    have hbytes : d'.inputBlockBytes = d.inputBlockBytes := by
      rw [TxDevice.inputBlockBytes, TxDevice.inputBlockBytes, hframe.config, hframe.txUseShort]
    rw [hbytes]
    have hearly := hw.sound.early
    have hpointer := hw.pointer
    cases h with
    | advanced hpc =>
      simp only [Nat.succ_mul]
      rw [hpointer (by simp [Writer.admitted, hpc])]
    | admitted hpc =>
      obtain ⟨hblock, hstart⟩ := hearly (by simp [Writer.early, hpc])
      simp [hblock, hstart]
    | _ => simp_all [Writer.admitted]
  · intro htransmitting
    cases h with
    | submitted d' hpc hfill =>
      have hadmitted : w.admitted = true := by simp [Writer.admitted, hpc]
      obtain ⟨hslot, hcontext⟩ := hplaced (by simp [Writer.holdsSlot, hpc])
      have hindex : w.context.txIndex < d.config.txBufferCount := by
        rw [hcontext (by simp [hpc]), hslot]
        exact (hpool hadmitted).2.2
      subst hfill
      have hpayload := payload_samples d (w.request.buffer.getD fun _ => 0) w.currBlock
      rw [← hw.pointer hadmitted, hw.format hadmitted] at hpayload
      exact (fillBlock_blockData (hpool hadmitted) hindex).trans hpayload
    | _ => simp_all

/-! ## A call in a step of the system -/

/-- A call that has not been admitted has sent nothing, in whatever format. -/
theorem Writer.Sending.reformat {d : TxDevice} {short : Bool} {id : ℕ} {w : Writer}
    (h : w.Sending d short id) (hpc : w.pc = .admission) (short' : Bool) : w.Sending d short' id := by
  have hstart : w.progress = 0 := by
    rw [Writer.progress, hpc]
    exact (h.sound.early (by simp [Writer.early, hpc])).1
  have hpackets := h.packets
  rw [hstart, List.range_zero, List.map_nil] at hpackets
  refine ⟨h.sound, by simp [Writer.admitted, hpc], ?_, by simp [Writer.admitted, hpc], by simp [hpc]⟩
  rw [hpackets, hstart, List.range_zero, List.map_nil]

theorem WriterMove.admitting {d d' : TxDevice} {id : ℕ} {w w' : Writer} (h : WriterMove d id w d' w')
    (hw : w.admitted = false) (hw' : w'.admitted = true) : w.pc = .admission := by
  cases h with
  | admitted hpc => exact hpc
  | _ => simp_all [Writer.admitted]

namespace CallStep
variable {s t : TxSystem} {a : TxAction} {id : ℕ} {w w' : Writer} {short : Bool}

theorem admitting (h : CallStep s a t id w w') (hw : w.admitted = false) (hw' : w'.admitted = true) :
    w.pc = .admission := by
  cases h with
  | moved input _ ha hmove => exact hmove.admitting hw hw'
  | other => simp [hw] at hw'
  | aside _ ha hwake =>
    rcases hwake with rfl | ⟨site, hpc, rfl⟩
    · simp [hw] at hw'
    · simp [Writer.admitted, hpc] at hw

theorem sending (h : CallStep s a t id w w') (hs : s.Admission) (hslots : s.Slots)
    (hstep : TxStep s a t) (hw : s.writers[id]? = some w) (hsending : w.Sending s.device short id)
    (hshort : w'.admitted = true → s.device.txUseShort = short) : w'.Sending t.device short id := by
  have hconfig := hstep.config
  have hmem := List.mem_of_getElem? hw
  cases h with
  | moved input _ ha hmove =>
    exact hmove.sending hsending (hslots.placed w hmem) (fun hadmitted =>
      hs.standing.pool (hs.standing.live (.inr (.inl (hs.writer_pos hw hadmitted)))).2) hshort
  | other j input v v' ha hne hreturned hmove =>
    have hidle : w.admitted = false := by
      unfold Writer.isReturned at hreturned
      unfold Writer.admitted
      split at hreturned <;> simp_all
    refine ⟨hconfig ▸ hsending.sound, by simp [hidle], ?_, by simp [hidle], ?_⟩
    · obtain ⟨events, htrace, hevents⟩ := hmove.events
      rw [htrace, packetsOf_append fun e he => by simp [hevents e he, hne], hconfig]
      exact hsending.packets
    · intro hpc
      simp [Writer.admitted, hpc] at hidle
  | aside _ ha hwake haside =>
    have hsame : ∀ hadmitted : w.admitted = true, t.device.txBlocks = s.device.txBlocks ∧
        t.device.txUseShort = s.device.txUseShort := fun hadmitted =>
      haside.pool ⟨w, hmem, hadmitted⟩
    have hpackets : packetsOf id t.device.trace = packetsOf id s.device.trace := by
      obtain ⟨events, htrace, hevents⟩ := haside.trace
      rw [htrace, packetsOf_append fun e he => by simp [SdkEvent.writer_none (hevents e he)]]
    have hstill : w.Sending t.device short id := by
      refine ⟨hconfig ▸ hsending.sound, fun hadmitted => ?_, ?_, fun hadmitted => ?_, fun hpc => ?_⟩
      · exact (hsame hadmitted).2.trans (hsending.format hadmitted)
      · rw [hpackets, hconfig]
        exact hsending.packets
      · have hpointer := hsending.pointer hadmitted
        rwa [TxDevice.inputBlockBytes, hconfig, (hsame hadmitted).2]
      · have hblocks := (hsame (by simp [Writer.admitted, hpc])).1
        rw [TxDevice.blockData, hblocks, hconfig]
        exact hsending.block hpc
    rcases hwake with rfl | ⟨site, hpc, rfl⟩
    · exact hstill
    · refine ⟨(@WriterMove.woken _ id _ site false hpc).sound hstill.sound, fun _ => ?_, ?_,
        fun _ => ?_, by simp⟩
      · exact hstill.format (by simp [Writer.admitted, hpc])
      · rw [woken_progress (.inr ⟨site, hpc, rfl⟩)]
        exact hstill.packets
      · exact hstill.pointer (by simp [Writer.admitted, hpc])

end CallStep

/-- The call has been admitted: it is still counted, or has its result. -/
def Writer.Served (config : TxConfiguration) (w : Writer) : Prop :=
  w.admitted = true ∨
    ∃ status, (w.pc = .notifying status ∨ w.pc = .returned status) ∧ w.Result config status

theorem WriterMove.served {d d' : TxDevice} {id : ℕ} {w w' : Writer} (h : WriterMove d id w d' w')
    (hsound : w.Sound d.config) (hw : w.Served d.config) : w'.Served d.config := by
  rcases hw with hadmitted | ⟨status, hpc, hresult⟩
  · cases h with
    | left status hpc => exact .inr ⟨status, .inl rfl, hsound.ended status (.inl hpc)⟩
    | _ => exact .inl (by simp_all [Writer.admitted])
  · cases h with
    | notified status' hpc' =>
      obtain rfl : status' = status := by simpa [hpc'] using hpc
      exact .inr ⟨status', .inr rfl, hresult⟩
    | _ => simp_all

theorem CallStep.served {s t : TxSystem} {a : TxAction} {id : ℕ} {w w' : Writer}
    (h : CallStep s a t id w w') (hsound : w.Sound s.device.config) (hw : w.Served s.device.config) :
    w'.Served s.device.config := by
  cases h with
  | moved input _ ha hmove => exact hmove.served hsound hw
  | other => exact hw
  | aside _ ha hwake =>
    rcases hwake with rfl | ⟨site, hpc, rfl⟩
    · exact hw
    · exact .inl rfl

end SoapySidekiq
