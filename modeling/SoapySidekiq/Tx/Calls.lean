import SoapySidekiq.Foundations.ThreadPool
import SoapySidekiq.Tx.System

/-! # What a write or status call can do

Which calls are admitted, which are past the PPS gate and which hold a reservation; and, for every
step of a call, what it leaves alone in the device. -/
set_option autoImplicit false

namespace SoapySidekiq

/-! ## Phases of a call -/

/-- The call is counted as an admitted writer. -/
def Writer.admitted (w : Writer) : Bool :=
  match w.pc with
  | .enter | .admission | .notifying _ | .returned _ => false
  | _ => true

/-- The call has passed the PPS gate and can still transmit. -/
def Writer.pastGate (w : Writer) : Bool :=
  match w.pc with
  | .loop | .reserved | .filling | .transmitting | .accepted | .releasing _ | .advance => true
  | .locking site _ | .inside site _ | .sleeping site | .parked site => site != .pps
  | _ => false

/-- The call has reserved a slot, and the SDK has neither taken the packet nor has the reservation
been released. -/
def Writer.holdsSlot (w : Writer) : Bool :=
  match w.pc with
  | .reserved | .filling | .transmitting | .releasing _ => true
  | _ => false

/-- The call is in `skiq_transmit`. -/
def Writer.inTransmit (w : Writer) : Bool :=
  match w.pc with
  | .transmitting | .accepted => true
  | _ => false

/-- The call has left the section that counts it out. -/
def Writer.over (w : Writer) : Bool :=
  match w.pc with
  | .notifying _ | .returned _ => true
  | _ => false

def Poller.admitted (p : Poller) : Bool :=
  match p.pc with
  | .enter | .admission | .notifying _ | .returned _ => false
  | _ => true

def Poller.inRead (p : Poller) : Bool :=
  match p.pc with
  | .reading => true
  | _ => false

def Poller.over (p : Poller) : Bool :=
  match p.pc with
  | .notifying _ | .returned _ => true
  | _ => false

namespace Writer

theorem pastGate_admitted {w : Writer} (h : w.pastGate = true) : w.admitted = true := by
  cases hpc : w.pc <;> simp [pastGate, hpc] at h <;> simp [admitted, hpc]

theorem holdsSlot_pastGate {w : Writer} (h : w.holdsSlot = true) : w.pastGate = true := by
  cases hpc : w.pc <;> simp [holdsSlot, hpc] at h <;> simp [pastGate, hpc]

theorem inTransmit_pastGate {w : Writer} (h : w.inTransmit = true) : w.pastGate = true := by
  cases hpc : w.pc <;> simp [inTransmit, hpc] at h <;> simp [pastGate, hpc]

/-! A notification moves a parked call within its wait. -/

theorem wakeCv_cases (w : Writer) :
    w.wakeCv = w ∨ w.pc = .parked .pps ∧ w.wakeCv = w.goto (.locking .pps false) := by
  unfold wakeCv
  split
  · next hpc => exact .inr ⟨hpc, rfl⟩
  · exact .inl rfl

theorem wakeChanged_cases (w : Writer) :
    w.wakeChanged = w ∨ ∃ site, site ≠ .pps ∧ w.pc = .parked site ∧
      w.wakeChanged = w.goto (.locking site false) := by
  unfold wakeChanged
  split
  · next hpc => exact .inr ⟨.slot, by decide, hpc, rfl⟩
  · next hpc => exact .inr ⟨.full, by decide, hpc, rfl⟩
  · next hpc => exact .inr ⟨.fullFirst, by decide, hpc, rfl⟩
  · exact .inl rfl

section Keeps

variable {β : Type} (f : Writer → β) (w : Writer)
  (h : ∀ site, w.pc = .parked site → f (w.goto (.locking site false)) = f w)
include h

/-- A notification keeps what the end of a wait keeps. -/
theorem wakeCv_keeps : f w.wakeCv = f w := by
  rcases w.wakeCv_cases with heq | ⟨hpc, heq⟩
  · rw [heq]
  · rw [heq, h _ hpc]

theorem wakeChanged_keeps : f w.wakeChanged = f w := by
  rcases w.wakeChanged_cases with heq | ⟨site, -, hpc, heq⟩
  · rw [heq]
  · rw [heq, h _ hpc]

end Keeps

@[simp] theorem wakeCv_admitted (w : Writer) : w.wakeCv.admitted = w.admitted :=
  wakeCv_keeps admitted w fun _ hpc => by simp [admitted, goto, hpc]

@[simp] theorem wakeCv_pastGate (w : Writer) : w.wakeCv.pastGate = w.pastGate :=
  wakeCv_keeps pastGate w fun _ hpc => by simp [pastGate, goto, hpc]

@[simp] theorem wakeCv_holdsSlot (w : Writer) : w.wakeCv.holdsSlot = w.holdsSlot :=
  wakeCv_keeps holdsSlot w fun _ hpc => by simp [holdsSlot, goto, hpc]

@[simp] theorem wakeCv_over (w : Writer) : w.wakeCv.over = w.over :=
  wakeCv_keeps Writer.over w fun _ hpc => by simp [Writer.over, goto, hpc]

@[simp] theorem wakeChanged_over (w : Writer) : w.wakeChanged.over = w.over :=
  wakeChanged_keeps Writer.over w fun _ hpc => by simp [Writer.over, goto, hpc]

@[simp] theorem wakeChanged_admitted (w : Writer) : w.wakeChanged.admitted = w.admitted :=
  wakeChanged_keeps admitted w fun _ hpc => by simp [admitted, goto, hpc]

@[simp] theorem wakeChanged_pastGate (w : Writer) : w.wakeChanged.pastGate = w.pastGate :=
  wakeChanged_keeps pastGate w fun _ hpc => by simp [pastGate, goto, hpc]

@[simp] theorem wakeChanged_holdsSlot (w : Writer) : w.wakeChanged.holdsSlot = w.holdsSlot :=
  wakeChanged_keeps holdsSlot w fun _ hpc => by simp [holdsSlot, goto, hpc]

end Writer

namespace Poller

theorem wakeChanged_cases (p : Poller) :
    p.wakeChanged = p ∨ p.pc = .waitParked ∧ p.wakeChanged = p.goto (.waitLocking false) := by
  unfold wakeChanged
  split
  · next hpc => exact .inr ⟨hpc, rfl⟩
  · exact .inl rfl

theorem wakeChanged_keeps {β : Type} (f : Poller → β) (p : Poller)
    (h : p.pc = .waitParked → f (p.goto (.waitLocking false)) = f p) : f p.wakeChanged = f p := by
  rcases p.wakeChanged_cases with heq | ⟨hpc, heq⟩
  · rw [heq]
  · rw [heq, h hpc]

@[simp] theorem wakeChanged_admitted (p : Poller) : p.wakeChanged.admitted = p.admitted :=
  wakeChanged_keeps admitted p fun hpc => by simp [admitted, goto, hpc]

@[simp] theorem wakeChanged_over (p : Poller) : p.wakeChanged.over = p.over :=
  wakeChanged_keeps Poller.over p fun hpc => by simp [Poller.over, goto, hpc]

theorem inRead_admitted {p : Poller} (h : p.inRead = true) : p.admitted = true := by
  cases hpc : p.pc <;> simp [inRead, hpc] at h
  simp [admitted, hpc]

end Poller

/-! ## Steps of a write call -/

/-- Everything that a step of a write call can do. -/
inductive WriterMove (d : TxDevice) (id : ℕ) (w : Writer) :
    TxDevice → Writer → Prop where
  | unchecked (status : ℤ) (hpc : w.pc = .enter) (hcheck : d.checkWrite w.request = .error status) :
      WriterMove d id w d (w.goto (.returned status))
  | checked (handle : TxStreamHandle) (hpc : w.pc = .enter)
      (hcheck : d.checkWrite w.request = .ok handle) :
      WriterMove d id w d { w with txHandle := handle.txHandle, pc := .admission }
  | refused (hpc : w.pc = .admission) (hstop : d.txWritesStopping = true) :
      WriterMove d id w d (w.goto (.returned soapyStreamError))
  | admitted (hpc : w.pc = .admission) (hopen : d.txWritesStopping = false) :
      WriterMove d id w { d with activeTxWriters := d.activeTxWriters + 1 } (w.goto .validate)
  | invalid (status : ℤ) (hpc : w.pc = .validate) (h : d.validateWrite w.request = some status) :
      WriterMove d id w d (w.goto (.leaving status))
  | valid (hpc : w.pc = .validate) (h : d.validateWrite w.request = none) :
      WriterMove d id w d (w.goto .gate)
  | gated (hpc : w.pc = .gate) (hgate : d.firstTransmit = true) :
      WriterMove d id w d (w.goto (.locking .pps false))
  | ungated (hpc : w.pc = .gate) (hgate : d.firstTransmit = false) :
      WriterMove d id w d (w.goto .loop)
  | locked (site : WaitSite) (timedOut : Bool) (hpc : w.pc = .locking site timedOut) :
      WriterMove d id w d (w.goto (.inside site timedOut))
  | started (timedOut : Bool) (hpc : w.pc = .inside .pps timedOut)
      (hopen : d.txWritesStopping = false) (hfinished : d.txStartFinished = true)
      (hstatus : d.txStartStatus = 0) :
      WriterMove d id w { d with firstTransmit := false } (w.goto .loop)
  | reserved (timedOut : Bool) (hpc : w.pc = .inside .slot timedOut)
      (hopen : d.txWritesStopping = false) (hslot : d.slot d.txCompletion d.txBlockIndex = false) :
      WriterMove d id w (d.setSlot d.txCompletion d.txBlockIndex true)
        { w with
          observedCompletions := d.completed
          slot := ⟨d.txCompletion, d.txBlockIndex⟩
          pc := .reserved }
  | progressed (site : WaitSite) (timedOut : Bool) (hpc : w.pc = .inside site timedOut)
      (hsite : site ≠ .pps) (hfull : site ≠ .slot) (hprogress : d.completed ≠ w.observedCompletions) :
      WriterMove d id w d (w.goto .loop)
  | waits (site site' : WaitSite) (timedOut : Bool) (hpc : w.pc = .inside site timedOut)
      (hopen : d.txWritesStopping = false) (hsite : site' = .pps ↔ site = .pps)
      (hslot : site' = .slot ↔ site = .slot)
      (hfull : site' = .full → d.completed = w.observedCompletions) :
      WriterMove d id w d (w.goto (.sleeping site'))
  | unstarted (status : ℤ) (timedOut : Bool) (hpc : w.pc = .inside .pps timedOut)
      (hstatus : status = soapyStreamError ∨ status = soapyTimeout) :
      WriterMove d id w d (w.goto (.leaving status))
  | gaveUp (site : WaitSite) (status : ℤ) (timedOut : Bool) (hpc : w.pc = .inside site timedOut)
      (hsite : site ≠ .pps) (hstatus : status = soapyStreamError ∨ status = soapyTimeout) :
      WriterMove d id w d (w.goto (.leaving (w.prefixOr d status)))
  | slept (site : WaitSite) (hpc : w.pc = .sleeping site) :
      WriterMove d id w d (w.goto (.parked site))
  | woken (site : WaitSite) (timedOut : Bool) (hpc : w.pc = .parked site) :
      WriterMove d id w d (w.goto (.locking site timedOut))
  | nextBlock (hpc : w.pc = .loop)
      (hlt : w.currBlock < w.request.numElems / d.config.currentTxBlockSize) :
      WriterMove d id w d (w.goto (.locking .slot false))
  | sentAll (hpc : w.pc = .loop)
      (hlt : ¬ w.currBlock < w.request.numElems / d.config.currentTxBlockSize) :
      WriterMove d id w d (w.goto (.leaving w.request.numElems))
  | prepared (hpc : w.pc = .reserved) :
      WriterMove d id w d
        { w with context := ⟨d.txCompletion, d.txBlockIndex⟩, pc := .filling }
  | unprepared (e : Exception) (hpc : w.pc = .reserved) :
      WriterMove d id w d
        { w with context := ⟨d.txCompletion, d.txBlockIndex⟩, pc := .releasing (.error e) }
  | unfilled (e : Exception) (hpc : w.pc = .filling) :
      WriterMove d id w d (w.goto (.releasing (.error e)))
  | submitted (d' : TxDevice) (hpc : w.pc = .filling)
      (hfill : d' = d.fillBlock w.context.txIndex
        (d.payload (w.request.buffer.getD fun _ => 0) w.inbuffPtr)) :
      WriterMove d id w (d'.log (.issued (d'.transmitCall id w))) (w.goto .transmitting)
  | rejected (result : Except Exception ℤ) (hpc : w.pc = .transmitting) (hresult : result ≠ .ok 0) :
      WriterMove d id w (d.log (.returned (d.transmitCall id w) result))
        (w.goto (.releasing result))
  | accepted (hpc : w.pc = .transmitting) :
      WriterMove d id w
        ({ d with inFlight := d.inFlight ++ [w.context] }.log
          (.accepted id (d.blockData w.context.txIndex))) (w.goto .accepted)
  | transmitted (hpc : w.pc = .accepted) :
      WriterMove d id w (d.log (.returned (d.transmitCall id w) (.ok 0))) (w.goto .advance)
  | queueFull (result : Except Exception ℤ) (hpc : w.pc = .releasing result)
      (hfull : result = .ok d.config.queueFull) :
      WriterMove d id w (d.setSlot d.txCompletion w.context.txIndex false)
        (w.goto (.locking .fullFirst false))
  | failed (result : Except Exception ℤ) (hpc : w.pc = .releasing result) :
      WriterMove d id w (d.setSlot d.txCompletion w.context.txIndex false)
        (w.goto (.leaving (w.prefixOr d soapyStreamError)))
  | advanced (hpc : w.pc = .advance) :
      WriterMove d id w
        { d with txBlockIndex := (d.txBlockIndex + 1) % d.config.txBufferCount }
        { w with
          currBlock := w.currBlock + 1
          inbuffPtr := w.inbuffPtr + d.inputBlockBytes
          pc := .loop }
  | left (status : ℤ) (hpc : w.pc = .leaving status) :
      WriterMove d id w { d with activeTxWriters := d.activeTxWriters - 1 }
        (w.goto (.notifying status))
  | notified (status : ℤ) (hpc : w.pc = .notifying status) :
      WriterMove d id w d (w.goto (.returned status))

theorem testWait_move {d d' : TxDevice} {id : ℕ} {w w' : Writer}
    {site : WaitSite} {inside timedOut : Bool} (hpc : w.pc = .inside site inside)
    (h : d.testWait w timedOut site = (d', w')) : WriterMove d id w d' w' := by
  unfold TxDevice.testWait at h
  cases site with
  | pps =>
    simp only at h
    split at h
    · next hready =>
      split at h
      · cases h; exact .unstarted _ _ hpc (.inl rfl)
      · next hgo =>
        simp only [Bool.or_eq_true, bne_iff_ne, ne_eq, not_or, not_not, Bool.not_eq_true] at hgo
        cases h
        exact .started _ hpc hgo.1 (by simpa [hgo.1] using hready) hgo.2
    · next hready =>
      split at h
      · cases h; exact .unstarted _ _ hpc (.inr rfl)
      · cases h; exact .waits _ _ _ hpc (by simp_all) Iff.rfl Iff.rfl (by simp)
  | slot =>
    simp only at h
    split at h
    · cases h; exact .gaveUp _ _ _ hpc (by decide) (.inl rfl)
    · next hstop =>
      have hopen := Bool.eq_false_iff.mpr hstop
      split at h
      · next hslot => cases h; exact .reserved _ hpc hopen (by simpa using hslot)
      · split at h
        · cases h; exact .gaveUp _ _ _ hpc (by decide) (.inr rfl)
        · cases h; exact .waits _ _ _ hpc hopen Iff.rfl Iff.rfl (by simp)
  | fullFirst =>
    simp only at h
    split at h
    · cases h; exact .gaveUp _ _ _ hpc (by decide) (.inl rfl)
    · next hstop =>
      split at h
      · cases h; exact .gaveUp _ _ _ hpc (by decide) (.inr rfl)
      · split at h
        · next hprogress =>
          cases h
          exact .progressed _ _ hpc (by decide) (by decide) (by simpa using hprogress)
        · next hnone =>
          cases h
          exact .waits _ _ _ hpc (Bool.eq_false_iff.mpr hstop) (by decide) (by decide)
            fun _ => by simpa using hnone
  | full =>
    simp only at h
    split at h
    · cases h; exact .gaveUp _ _ _ hpc (by decide) (.inl rfl)
    · next hstop =>
      split at h
      · next hprogress =>
        cases h
        exact .progressed _ _ hpc (by decide) (by decide) (by simpa using hprogress)
      · next hnone =>
        split at h
        · cases h; exact .gaveUp _ _ _ hpc (by decide) (.inr rfl)
        · cases h
          exact .waits _ _ _ hpc (Bool.eq_false_iff.mpr hstop) Iff.rfl Iff.rfl
            fun _ => by simpa using hnone

/-- A step taken with `.run` is a move. -/
theorem run_move {free : Mutex → Bool} {d d' : TxDevice} {id : ℕ} {w w' : Writer}
    (h : d.writerStep free id w .run = some (d', w')) : WriterMove d id w d' w' := by
  simp only [TxDevice.writerStep] at h
  split at h
  · next hpc =>
    split at h
    · next hcheck => cases h; exact .unchecked _ hpc hcheck
    · next hcheck => cases h; exact .checked _ hpc hcheck
  · next hpc =>
    split at h
    · split at h
      · next hstop => cases h; exact .refused hpc hstop
      · next hstop => cases h; exact .admitted hpc (by simpa using hstop)
    · cases h
  · next hpc =>
    split at h
    · next hv => cases h; exact .invalid _ hpc hv
    · next hv => cases h; exact .valid hpc hv
  · next hpc =>
    cases h
    cases hgate : d.firstTransmit with
    | true => exact .gated hpc hgate
    | false => exact .ungated hpc hgate
  · next hpc =>
    split at h
    · cases h; exact .locked _ _ hpc
    · cases h
  · next hpc => exact testWait_move hpc (Option.some.inj h)
  · next hpc => cases h; exact .slept _ hpc
  · cases h
  · next hpc =>
    cases h
    split
    · next hlt => exact .nextBlock hpc hlt
    · next hlt => exact .sentAll hpc hlt
  · next hpc => cases h; exact .prepared hpc
  · next hpc => cases h; exact .submitted _ hpc rfl
  · cases h
  · cases h
  · next result hpc =>
    split at h
    · cases h
      cases result with
      | error e => exact .failed _ hpc
      | ok status =>
        simp only [TxDevice.afterRelease]
        split
        · next hfull => exact .queueFull _ hpc (by rw [hfull])
        · exact .failed _ hpc
    · cases h
  · next hpc => cases h; exact .advanced hpc
  · next hpc =>
    split at h
    · cases h; exact .left _ hpc
    · cases h
  · next hpc => cases h; exact .notified _ hpc
  · cases h

theorem writer_move {free : Mutex → Bool} {d d' : TxDevice} {id : ℕ} {w w' : Writer}
    {input : CallInput} (h : d.writerStep free id w input = some (d', w')) :
    WriterMove d id w d' w' := by
  cases input with
  | run => exact run_move h
  | timeout =>
    simp only [TxDevice.writerStep] at h
    split at h
    · next hpc => cases h; exact .woken _ _ hpc
    · next hpc => exact testWait_move hpc (Option.some.inj h)
    · cases h
  | wake =>
    simp only [TxDevice.writerStep] at h
    split at h
    · next hpc => cases h; exact .woken _ _ hpc
    · cases h
  | throw e =>
    simp only [TxDevice.writerStep] at h
    split at h
    · cases h
    · split at h
      · next hpc => cases h; exact .unprepared _ hpc
      · next hpc => cases h; exact .unfilled _ hpc
      · next hpc => cases h; exact .rejected _ hpc (by simp)
      · cases h
  | accept =>
    simp only [TxDevice.writerStep] at h
    split at h
    · next hpc => cases h; exact .accepted hpc
    · cases h
  | sdk status =>
    simp only [TxDevice.writerStep] at h
    split at h
    · next hpc =>
      split at h
      · cases h
      · next hne => cases h; exact .rejected _ hpc (by simpa using hne)
    · next hpc =>
      split at h
      · cases h; exact .transmitted hpc
      · cases h
    · cases h

/-! ### What a write call leaves alone -/

/-- What the steps of calls and completions leave alone in the device. -/
structure CallFrame (d d' : TxDevice) : Prop where
  config : d'.config = d.config
  txCompletion : d'.txCompletion = d.txCompletion
  txUseShort : d'.txUseShort = d.txUseShort
  txWritesStopping : d'.txWritesStopping = d.txWritesStopping
  txStartFinished : d'.txStartFinished = d.txStartFinished
  txStartStatus : d'.txStartStatus = d.txStartStatus
  txStreamActive : d'.txStreamActive = d.txStreamActive
  activeTxStream : d'.activeTxStream = d.activeTxStream
  txStreamingThread : d'.txStreamingThread = d.txStreamingThread
  terminated : d'.terminated = d.terminated
  slotCounts : d'.completions.map (fun c => c.slots.length) =
    d.completions.map fun c => c.slots.length
  blockCount : d'.txBlocks.map List.length = d.txBlocks.map List.length
  blockIndex : d.txBlockIndex < d.config.txBufferCount → d'.txBlockIndex < d.config.txBufferCount

namespace CallFrame

theorem refl (d : TxDevice) : CallFrame d d := by
  constructor <;> first | rfl | exact id

end CallFrame

theorem setSlot_slotCounts (d : TxDevice) (completion txIndex : ℕ) (value : Bool) :
    (d.setSlot completion txIndex value).completions.map (fun c => c.slots.length) =
      d.completions.map fun c => c.slots.length := by
  unfold TxDevice.setSlot
  apply List.ext_getElem?
  intro i
  simp only [List.getElem?_map, List.getElem?_modify]
  cases hc : d.completions[i]? with
  | none => simp
  | some c => by_cases hi : completion = i <;> simp [hi]

theorem setSlot_frame (d : TxDevice) (completion txIndex : ℕ) (value : Bool) :
    CallFrame d (d.setSlot completion txIndex value) :=
  { CallFrame.refl d with slotCounts := setSlot_slotCounts d completion txIndex value }

theorem WriterMove.frame {d d' : TxDevice} {id : ℕ} {w w' : Writer} (h : WriterMove d id w d' w') :
    CallFrame d d' := by
  cases h with
  | reserved => exact setSlot_frame d _ _ _
  | queueFull => exact setSlot_frame d _ _ _
  | failed => exact setSlot_frame d _ _ _
  | submitted d' hpc hfill =>
    subst hfill
    exact { CallFrame.refl d with
      blockCount := by
        simp only [TxDevice.fillBlock, TxDevice.log]
        cases d.txBlocks <;> simp }
  | advanced =>
    exact { CallFrame.refl d with
      blockIndex := fun _ => Nat.mod_lt _ d.config.bufferCount_pos }
  | started | admitted | left | rejected | accepted | transmitted =>
    exact { CallFrame.refl d with }
  | _ => exact .refl d

theorem WriterMove.readers {d d' : TxDevice} {id : ℕ} {w w' : Writer} (h : WriterMove d id w d' w') :
    d'.activeTxStatusReaders = d.activeTxStatusReaders := by
  cases h with
  | submitted _ _ hfill => subst hfill; rfl
  | _ => rfl

/-! ### How a write call is counted -/

/-- The counter moves with the call: up when it is admitted and down when it leaves. -/
theorem WriterMove.counted {d d' : TxDevice} {id : ℕ} {w w' : Writer} (h : WriterMove d id w d' w')
    (hcount : w.admitted = true → 0 < d.activeTxWriters) :
    d'.activeTxWriters + w.admitted.toNat = d.activeTxWriters + w'.admitted.toNat := by
  cases h with
  | left status hpc =>
    have hw : w.admitted = true := by simp [Writer.admitted, hpc]
    have := hcount hw
    have hw' : (w.goto (.notifying status)).admitted = false := rfl
    simp only [hw, hw', Bool.toNat_true, Bool.toNat_false]
    omega
  | unchecked _ hpc | checked _ hpc | refused hpc | admitted hpc | invalid _ hpc | valid hpc
  | gated hpc | ungated hpc | locked _ _ hpc | started _ hpc | reserved _ hpc | progressed _ _ hpc
  | waits _ _ _ hpc | unstarted _ _ hpc | gaveUp _ _ _ hpc | slept _ hpc | woken _ _ hpc
  | nextBlock hpc | sentAll hpc | prepared hpc | unprepared _ hpc | unfilled _ hpc
  | rejected _ hpc | accepted hpc | transmitted hpc | queueFull _ hpc | failed _ hpc
  | advanced hpc | notified _ hpc =>
    simp [Writer.admitted, hpc]
  | submitted _ hpc hfill =>
    subst hfill
    simp [Writer.admitted, hpc]

theorem WriterMove.lowers {d d' : TxDevice} {id : ℕ} {w w' : Writer} (h : WriterMove d id w d' w') :
    d'.activeTxWriters ≤ d.activeTxWriters ∨ d.txWritesStopping = false := by
  cases h with
  | admitted _ hopen => exact .inr hopen
  | left => exact .inl (Nat.sub_le _ _)
  | submitted _ _ hfill => subst hfill; exact .inl (Nat.le_refl _)
  | _ => exact .inl (Nat.le_refl _)

/-- A call is admitted only while admission is open. -/
theorem WriterMove.admission {d d' : TxDevice} {id : ℕ} {w w' : Writer}
    (h : WriterMove d id w d' w') (hstop : d.txWritesStopping = true) (hw : w.admitted = false) :
    w'.admitted = false := by
  cases h with
  | admitted hpc hopen => simp [hstop] at hopen
  | _ => simp_all [Writer.admitted]

/-! ## Steps of a status call -/

/-- Everything that a step of a status call can do. -/
inductive PollerMove (d : TxDevice) (p : Poller) : TxDevice → Poller → Prop where
  | unchecked (status : ℤ) (hpc : p.pc = .enter) (hcheck : d.checkStatus p.request = .error status) :
      PollerMove d p d (p.goto (.returned status))
  | checked (handle : TxStreamHandle) (hpc : p.pc = .enter)
      (hcheck : d.checkStatus p.request = .ok handle) :
      PollerMove d p d { p with txHandle := handle.txHandle, pc := .admission }
  | refused (hpc : p.pc = .admission) (hstop : d.txWritesStopping = true) :
      PollerMove d p d (p.goto (.returned soapyStreamError))
  | admitted (hpc : p.pc = .admission) (hopen : d.txWritesStopping = false) :
      PollerMove d p { d with activeTxStatusReaders := d.activeTxStatusReaders + 1 }
        (p.goto .statusLocking)
  | statusLocked (hpc : p.pc = .statusLocking) : PollerMove d p d (p.goto .checkLocking)
  | statusUnlocked (hpc : p.pc = .statusLocking) : PollerMove d p d (p.goto (.leaving soapyTimeout))
  | checkLocked (hpc : p.pc = .checkLocking) : PollerMove d p d (p.goto .checkInside)
  | stopped (hpc : p.pc = .checkInside) : PollerMove d p d (p.goto (.leaving soapyStreamError))
  | pending (hpc : p.pc = .checkInside) (hfirst : d.firstTransmit = true)
      (hstart : d.txStartFinished = false) : PollerMove d p d (p.goto .timeCheck)
  | reads (hpc : p.pc = .checkInside) (hopen : d.txWritesStopping = false) :
      PollerMove d p (d.log (.issued (.readTxNumUnderruns p.txHandle))) (p.goto .reading)
  | readFailed (status : ℤ) (hpc : p.pc = .reading) :
      PollerMove d p (d.log (.returned (.readTxNumUnderruns p.txHandle) (.ok status)))
        (p.goto (.leaving soapyStreamError))
  | readMore (errors : UInt32) (hpc : p.pc = .reading) :
      PollerMove d p { d.log (.returned (.readTxNumUnderruns p.txHandle) (.ok 0)) with
        txUnderruns := errors } { p with chanMask := 1, pc := .leaving soapyUnderflow }
  | readNone (errors : UInt32) (hpc : p.pc = .reading) :
      PollerMove d p { d.log (.returned (.readTxNumUnderruns p.txHandle) (.ok 0)) with
        txUnderruns := errors } (p.goto .timeCheck)
  | expired (hpc : p.pc = .timeCheck) : PollerMove d p d (p.goto (.leaving soapyTimeout))
  | unexpired (hpc : p.pc = .timeCheck) : PollerMove d p d (p.goto (.waitLocking false))
  | waitLocked (timedOut : Bool) (hpc : p.pc = .waitLocking timedOut) :
      PollerMove d p d (p.goto (.waitInside timedOut))
  | waitStopped (timedOut : Bool) (hpc : p.pc = .waitInside timedOut) :
      PollerMove d p d (p.goto (.leaving soapyStreamError))
  | polls (timedOut : Bool) (hpc : p.pc = .waitInside timedOut) :
      PollerMove d p d (p.goto .statusLocking)
  | waits (timedOut : Bool) (hpc : p.pc = .waitInside timedOut) (hopen : d.txWritesStopping = false) :
      PollerMove d p d (p.goto .waitSleeping)
  | slept (hpc : p.pc = .waitSleeping) : PollerMove d p d (p.goto .waitParked)
  | woken (timedOut : Bool) (hpc : p.pc = .waitParked) :
      PollerMove d p d (p.goto (.waitLocking timedOut))
  | left (status : ℤ) (hpc : p.pc = .leaving status) :
      PollerMove d p { d with activeTxStatusReaders := d.activeTxStatusReaders - 1 }
        (p.goto (.notifying status))
  | notified (status : ℤ) (hpc : p.pc = .notifying status) :
      PollerMove d p d (p.goto (.returned status))

theorem checkGate_move {d d' : TxDevice} {p p' : Poller} (hpc : p.pc = .checkInside)
    (h : d.checkGate p = (d', p')) : PollerMove d p d' p' := by
  unfold TxDevice.checkGate at h
  split at h
  · cases h; exact .stopped hpc
  · next hstop =>
    split at h
    · cases h; exact .stopped hpc
    · split at h
      · next hpending =>
        simp only [Bool.and_eq_true, Bool.not_eq_true'] at hpending
        cases h
        exact .pending hpc hpending.1 hpending.2
      · cases h; exact .reads hpc (Bool.eq_false_iff.mpr hstop)

theorem readUnderruns_move {d d' : TxDevice} {p p' : Poller} {status : ℤ} {errors : UInt32}
    (hpc : p.pc = .reading) (h : d.readUnderruns p status errors = (d', p')) :
    PollerMove d p d' p' := by
  unfold TxDevice.readUnderruns at h
  dsimp only at h
  split at h
  · cases h; exact .readFailed _ hpc
  · next hstatus =>
    obtain rfl : status = 0 := by simpa using hstatus
    split at h
    · cases h; exact .readMore _ hpc
    · cases h; exact .readNone _ hpc

theorem poller_move {free : Mutex → Bool} {d d' : TxDevice} {p p' : Poller} {input : StatusInput}
    (h : d.pollerStep free p input = some (d', p')) : PollerMove d p d' p' := by
  cases input with
  | run =>
    simp only [TxDevice.pollerStep] at h
    split at h
    · next hpc =>
      split at h
      · next hcheck => cases h; exact .unchecked _ hpc hcheck
      · next hcheck => cases h; exact .checked _ hpc hcheck
    · next hpc =>
      split at h
      · split at h
        · next hstop => cases h; exact .refused hpc hstop
        · next hstop => cases h; exact .admitted hpc (Bool.eq_false_iff.mpr hstop)
      · cases h
    · next hpc =>
      split at h
      · cases h; exact .statusLocked hpc
      · cases h
    · next hpc =>
      split at h
      · cases h; exact .checkLocked hpc
      · cases h
    · next hpc => exact checkGate_move hpc (Option.some.inj h)
    · cases h
    · next hpc => cases h; exact .unexpired hpc
    · next hpc =>
      split at h
      · cases h; exact .waitLocked _ hpc
      · cases h
    · next hpc =>
      split at h
      · cases h; exact .waitStopped _ hpc
      · next hstop =>
        split at h
        · cases h; exact .polls _ hpc
        · cases h; exact .waits _ hpc (Bool.eq_false_iff.mpr hstop)
    · next hpc => cases h; exact .slept hpc
    · cases h
    · next hpc =>
      split at h
      · cases h; exact .left _ hpc
      · cases h
    · next hpc => cases h; exact .notified _ hpc
    · cases h
  | timeout =>
    simp only [TxDevice.pollerStep] at h
    split at h
    · next hpc => cases h; exact .statusUnlocked hpc
    · next hpc => cases h; exact .expired hpc
    · next hpc => cases h; exact .woken _ hpc
    · cases h
  | wake =>
    simp only [TxDevice.pollerStep] at h
    split at h
    · next hpc => cases h; exact .woken _ hpc
    · cases h
  | sdk status errors =>
    simp only [TxDevice.pollerStep] at h
    split at h
    · next hpc => exact readUnderruns_move hpc (Option.some.inj h)
    · cases h

theorem PollerMove.changes {d d' : TxDevice} {p p' : Poller} (h : PollerMove d p d' p') :
    ∃ readers underruns events, d' = { d with
      activeTxStatusReaders := readers, txUnderruns := underruns, trace := d.trace ++ events } := by
  cases h with
  | admitted | left => exact ⟨_, _, [], by rw [List.append_nil]⟩
  | reads | readFailed | readMore | readNone => exact ⟨_, _, [_], rfl⟩
  | _ => exact ⟨_, _, [], by rw [List.append_nil]⟩

theorem PollerMove.frame {d d' : TxDevice} {p p' : Poller} (h : PollerMove d p d' p') :
    CallFrame d d' := by
  obtain ⟨readers, underruns, events, rfl⟩ := h.changes
  exact { CallFrame.refl d with }

theorem PollerMove.counted {d d' : TxDevice} {p p' : Poller} (h : PollerMove d p d' p')
    (hcount : p.admitted = true → 0 < d.activeTxStatusReaders) :
    d'.activeTxStatusReaders + p.admitted.toNat =
      d.activeTxStatusReaders + p'.admitted.toNat := by
  cases h with
  | left status hpc =>
    have hp : p.admitted = true := by simp [Poller.admitted, hpc]
    have := hcount hp
    have hp' : (p.goto (.notifying status)).admitted = false := rfl
    simp only [hp, hp', Bool.toNat_true, Bool.toNat_false]
    omega
  | _ => simp_all [Poller.admitted]

theorem PollerMove.lowers {d d' : TxDevice} {p p' : Poller} (h : PollerMove d p d' p') :
    d'.activeTxStatusReaders ≤ d.activeTxStatusReaders ∨ d.txWritesStopping = false := by
  cases h with
  | admitted _ hopen => exact .inr hopen
  | left => exact .inl (Nat.sub_le _ _)
  | _ => exact .inl (Nat.le_refl _)

theorem PollerMove.admission {d d' : TxDevice} {p p' : Poller} (h : PollerMove d p d' p')
    (hstop : d.txWritesStopping = true) (hp : p.admitted = false) : p'.admitted = false := by
  cases h with
  | admitted hpc hopen => simp [hstop] at hopen
  | _ => simp_all [Poller.admitted]

end SoapySidekiq
