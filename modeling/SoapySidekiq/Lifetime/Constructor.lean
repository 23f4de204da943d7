import SoapySidekiq.Controls.Gain
import SoapySidekiq.Controls.Rates
import SoapySidekiq.Foundations.Procedure
import SoapySidekiq.Lifetime.Calls

/-! # The constructor

The constructor of `DeviceLifecycle.cpp` with `initializeTxCallbacks`, `validateInitialRateConfiguration`
and the two source setters that it calls. Every call of the SDK may return any status, every allocation
may fail, and every message may make the log sink throw. -/
set_option autoImplicit false

namespace SoapySidekiq
open Procedure

/-! ## What the environment answers -/

/-- `skiq_param_t`, as far as the driver reads it. -/
structure CardParameters where
  part : Part
  /-- The handles in `rx_param` and in `tx_param`, over the whole capacity of the tables. -/
  rxTable : List UInt32
  txTable : List UInt32

/-- What one call returns and writes through its pointers. -/
structure SetupAnswer where
  status : ℤ
  /-- The result of a call that returns a truth value. -/
  holds : Bool
  number : UInt64
  text : String
  parameters : CardParameters
  readback : RateReadback
  /-- What an allocation throws. -/
  thrown : Option Exception

/-- The constants of the SDK's headers. -/
structure SdkHeaders where
  /-- `skiq_iq_order_iq`, as an integer. -/
  iqOrderIq : ℤ
  /-- `SKIQ_TX_ASYNC_SEND_QUEUE_FULL`. -/
  queueFull : ℤ
  queueFull_ne : queueFull ≠ 0

/-! ## The device that is constructed -/

/-- The options, with what the parser has checked about the TX ring. -/
abbrev ValidOptions : Type :=
  { o : DeviceOptions // 0 < o.txBufferCount.toNat ∧ 0 < o.txBlockSize.toNat ∧
    o.txBlockSize.toNat < 65536 }

theorem Accepts.ring {arguments : Kwargs} {o : DeviceOptions} (h : Accepts arguments o) :
    0 < o.txBufferCount.toNat ∧ 0 < o.txBlockSize.toNat ∧ o.txBlockSize.toNat < 65536 := by
  have hsize := h.txBlockSize
  have hcount := h.txBufferCount
  refine ⟨?_, ?_⟩
  · cases hkey : arguments "tx_buffer_count" with
    | none =>
      rw [hkey] at hcount
      rw [hcount]
      decide
    | some s =>
      rw [hkey] at hcount
      exact hcount.2.1
  · cases hkey : arguments "tx_block_size" with
    | none =>
      rw [hkey] at hsize
      rw [hsize]
      decide
    | some s =>
      rw [hkey] at hsize
      exact ⟨hsize.2.1, Nat.lt_of_le_of_lt hsize.2.2.1 (by decide)⟩

def validOptions (arguments : Kwargs) : Except Exception ValidOptions :=
  match h : parseDeviceOptions arguments with
  | .error e => .error e
  | .ok o => .ok ⟨o, (parseDeviceOptions_ok_iff.mp h).ring⟩

/-- `sampleFullScale`. -/
def sampleFullScale (resolution : UInt8) : Except Exception UInt32 :=
  if resolution < 2 ∨ 16 < resolution then
    .error (.invalidArgument "sample resolution must be between 2 and 16 bits")
  else .ok ((1 <<< (resolution.toUInt32 - 1)) - 1)

/-- `TxSampleAlignment`. -/
inductive TxSampleAlignment where
  | rightJustified
  | upperBits
deriving DecidableEq, Repr

/-- The products whose DAC takes the upper bits of the host word. -/
def txAlignment : Part → TxSampleAlignment
  | .x2 | .x4 | .x40 => .upperBits
  | _ => .rightJustified

/-- `txSampleFullScale`. -/
def txSampleFullScale (resolution : UInt8) (alignment : TxSampleAlignment) :
    Except Exception UInt32 :=
  match sampleFullScale resolution with
  | .error e => .error e
  | .ok physical =>
    match alignment with
    | .rightJustified => .ok physical
    | .upperBits => sampleFullScale 16

structure ConstructedDevice where
  options : ValidOptions
  part : Part
  partName : String
  sysFreq : UInt64
  rxHandles : List UInt32
  txHandles : List UInt32
  maxValue : UInt32
  txMaxValue : UInt32

def ConstructedDevice.card (d : ConstructedDevice) : UInt8 := d.options.val.card

/-! ## Statements -/

abbrev Constructor (κ α : Type) : Type :=
  Procedure (LifetimeEvent κ) Unit SetupAnswer Exception α

namespace Constructor
variable {κ : Type}

/-- A call of the SDK. -/
def sdk (call : LifetimeCall κ) : Constructor κ SetupAnswer := do
  record [.issued call]
  let answer ← ask
  record [.returned call (.ok answer.status)]
  pure answer

def allocate : Constructor κ Unit := do
  let answer ← ask
  match answer.thrown with
  | some e => fail e
  | none => pure ()

/-- `throw`, if the condition holds. -/
def throwIf (condition : Prop) [Decidable condition] (e : Exception) : Constructor κ Unit :=
  if condition then fail e else pure ()

/-- A call that must return 0; its failure is logged. -/
def checked (call : LifetimeCall κ) (message : ℤ → String) : Constructor κ SetupAnswer := do
  let answer ← sdk call
  if answer.status ≠ 0 then
    emit
    fail (.runtimeError (message answer.status))
  else pure answer

/-- The text of a failed call. -/
def failure (card : UInt8) (call detail : String) (status : ℤ) : String :=
  call ++ " failed (card " ++ toString card ++ detail ++ ", status " ++ toString status ++ ")"

/-! ## Configuration -/

def applyTopology (card : UInt8) : Option UInt8 → Constructor κ Unit
  | none => pure ()
  | some topology => do
    let supported ← sdk (.setup .isTopologySupported)
    throwIf (supported.holds = false) (.invalidArgument ("Topology " ++ toString topology ++
      " is not supported by card " ++ toString card))
    discard (checked (.setup (.applyTopology topology))
      (failure card "skiq_apply_topology" (", topology " ++ toString topology)))

/-- The channels of one direction, as the handles that they map to. -/
def readNumChans (card : UInt8) (rx : Bool) (table : List UInt32) : Constructor κ (List UInt32) := do
  let call := if rx then "skiq_read_num_rx_chans" else "skiq_read_num_tx_chans"
  let answer ← checked (.setup (if rx then .readNumRxChans else .readNumTxChans))
    (failure card call "")
  let channels := answer.number.toUInt8.toNat
  throwIf (table.length < channels) (.runtimeError (call ++ " returned too many channels (card " ++
    toString card ++ ", channels " ++ toString channels ++ ", table capacity " ++
    toString table.length ++ ")"))
  -- For each channel the lookup of its handle logs, and then the message itself.
  (table.take channels).forM fun _ => do
    emit
    emit
  pure (table.take channels)

def readFullScale (card : UInt8) (rx : Bool) (scale : UInt8 → Except Exception UInt32) :
    Constructor κ UInt32 := do
  let answer ← checked (.setup (if rx then .readRxIqResolution else .readTxIqResolution))
    (failure card (if rx then "skiq_read_rx_iq_resolution" else "skiq_read_tx_iq_resolution") "")
  let value ← lift (scale answer.number.toUInt8)
  emit
  pure value

/-- `readRateAndBandwidth`, which looks the channel up twice. -/
def validateRate (c : Channels) (rx : Bool) (channel : ℕ) : Constructor κ Unit := do
  emit
  emit
  let answer ← sdk (.setup (.readSampleRateAndBandwidth rx (c.rateHandle rx channel)))
  discard (lift (c.checkReadback rx channel { answer.readback with status := answer.status }))

/-- `validateInitialRateConfiguration`. -/
def validateInitialRateConfiguration (c : Channels) : Constructor κ Unit := do
  (List.range c.rxHandles.length).forM (validateRate c true)
  (List.range c.txHandles.length).forM (validateRate c false)

/-- The status of the write of a clock source; a name that matches none writes nothing. -/
def writeRefClockSelect : Option RefClock → Constructor κ ℤ
  | none => pure 0
  | some selected => do
    let answer ← sdk (.setup (.writeRefClockSelect selected))
    pure answer.status

/-- `setClockSource`, while RX is inactive. -/
def applyClockSource : Option String → Constructor κ Unit
  | none => pure ()
  | some source => do
    let status ← writeRefClockSelect (selectedClock source)
    discard (lift (setClockSource false status source))

/-- One read of `check_1pps`. -/
def readLast1pps : Constructor κ UInt64 := do
  let answer ← sdk (.setup .readLast1ppsTimestamp)
  throwIf (answer.status ≠ 0)
    (.runtimeError ("skiq_read_last_1pps_timestamp failed: " ++ toString answer.status))
  pure answer.number

/-- `check_1pps`. -/
def check1pps (card : UInt8) : PpsSource → Constructor κ Unit
  | .unavailable => pure ()
  | .external | .host => do
    let previous ← readLast1pps
    let wait ← ask
    throwIf (wait.status ≠ 0) (.runtimeError "PPS observation wait interrupted")
    let current ← readLast1pps
    throwIf (current = previous)
      (.runtimeError ("No PPS edge observed for card " ++ toString card))

/-- `setTimeSource`, while RX is inactive. -/
def applyTimeSource (card : UInt8) : Option String → Constructor κ Unit
  | none => pure ()
  | some source => do
    emit
    match selectedPps source with
    | none => fail (.invalidArgument ("Unknown time source: " ++ source))
    | some selected =>
      let answer ← sdk (.setup (.write1ppsSource selected))
      if answer.status ≠ 0 then
        -- `writeKernel1PpsSource`
        let kernel ← ask
        emit
        throwIf (kernel.holds = false) (.runtimeError
          ("skiq_write_1pps_source failed and kernel fallback unavailable: " ++
            toString answer.status))
      emit
      check1pps card selected

/-- `initializeTxCallbacks`. -/
def initializeTxCallbacks (card : UInt8) : Constructor κ Unit := do
  let answer ← sdk (.registerTxComplete true)
  throwIf (answer.status ≠ 0) (.runtimeError
    (failure card "skiq_register_tx_complete_callback" "" answer.status))
  emit.guarded (discard (sdk (.registerTxComplete false)))

/-! ## The constructor -/

/-- What the constructor configures between `skiq_init` and the registration of the callback. -/
def configure (headers : SdkHeaders) (options : ValidOptions) : Constructor κ ConstructedDevice := do
  let card := options.val.card
  -- The backend and the session.
  allocate
  allocate
  applyTopology card options.val.topology
  let read ← checked (.setup .readParameters) (failure card "skiq_read_parameters" "")
  let frequency ← checked (.setup .readSysTimestampFreq)
    (failure card "skiq_read_sys_timestamp_freq" "")
  let name ← sdk (.setup .partString)
  allocate
  emit
  emit
  discard (checked (.setup .writeIqOrderMode)
    (failure card "skiq_write_iq_order_mode" (", IQ order " ++ toString headers.iqOrderIq)))
  let rxHandles ← readNumChans card true read.parameters.rxTable
  let txHandles ← readNumChans card false read.parameters.txTable
  let maxValue ← readFullScale card true sampleFullScale
  let txMaxValue ← readFullScale card false fun resolution =>
    txSampleFullScale resolution (txAlignment read.parameters.part)
  discard (checked (.setup .writeChanMode)
    (failure card "skiq_write_chan_mode" ", channel mode single"))
  emit
  validateInitialRateConfiguration ⟨card.toUInt32, rxHandles, txHandles⟩
  applyClockSource options.val.clockSource
  applyTimeSource card options.val.timeSource
  pure ⟨options, read.parameters.part, name.text, frequency.number, rxHandles, txHandles, maxValue,
    txMaxValue⟩

/-- The scope of the guard that calls `skiq_exit`. -/
def whileInitialized (headers : SdkHeaders) (options : ValidOptions) : Constructor κ ConstructedDevice := do
  let device ← configure headers options
  initializeTxCallbacks options.val.card
  pure device

/-- What the constructor does in front of `skiq_init`. -/
def beforeInit (arguments : Kwargs) : Constructor κ ValidOptions := do
  let options ← lift (validOptions arguments)
  -- The completion state.
  allocate
  discard (sdk .registerLogging)
  emit
  emit
  emit
  pure options

def construct (headers : SdkHeaders) (arguments : Kwargs) : Constructor κ ConstructedDevice := do
  let options ← beforeInit arguments
  discard (checked .init (failure options.val.card "skiq_init" ""))
  (whileInitialized headers options).guarded (discard (sdk .exit))

/-! ## What the parts record -/

/-- The procedure neither acquires nor releases anything. -/
abbrev Neutral {α : Type} (p : Constructor κ α) : Prop := Records (fun e => e.neutral = true) p

theorem sdk_run (call : LifetimeCall κ) (w : World Unit SetupAnswer Exception)
    (r : Progress (LifetimeEvent κ) Unit) : ∃ answer r', sdk call w r = (.ok answer, r') ∧
      r'.trace = r.trace ++ [.issued call, .returned call (.ok answer.status)] :=
  ⟨_, _, rfl, by simp⟩

theorem neutral_sdk {call : LifetimeCall κ} (hissued : (LifetimeEvent.issued call).neutral = true)
    (hreturned : ∀ result, (LifetimeEvent.returned call result).neutral = true) :
    Neutral (sdk call) := by
  refine records_bind (records_record (by simpa using hissued)) fun _ => ?_
  refine records_bind records_ask fun answer => ?_
  exact records_bind (records_record (by simpa using hreturned _)) fun _ => records_pure _

theorem neutral_setup (call : SetupCall) : Neutral ((sdk (.setup call) : Constructor κ SetupAnswer)) :=
  neutral_sdk rfl fun _ => rfl

theorem neutral_allocate : Neutral (allocate (κ := κ)) := by
  refine records_bind records_ask fun answer => ?_
  split
  · exact records_fail _
  · exact records_pure _

theorem neutral_throwIf (condition : Prop) [Decidable condition] (e : Exception) :
    Neutral (throwIf (κ := κ) condition e) := by
  unfold throwIf
  split
  · exact records_fail _
  · exact records_pure _

theorem neutral_checked (call : SetupCall) (message : ℤ → String) :
    Neutral (checked (κ := κ) (.setup call) message) := by
  refine records_bind (neutral_setup call) fun answer => ?_
  split
  · exact records_bind records_emit fun _ => records_fail _
  · exact records_pure _

theorem neutral_applyTopology (card : UInt8) (topology : Option UInt8) :
    Neutral (applyTopology (κ := κ) card topology) := by
  cases topology with
  | none => exact records_pure _
  | some topology =>
    refine records_bind (neutral_setup _) fun supported => ?_
    refine records_bind (neutral_throwIf _ _) fun _ => ?_
    exact records_discard (neutral_checked _ _)

theorem neutral_readNumChans (card : UInt8) (rx : Bool) (table : List UInt32) :
    Neutral (readNumChans (κ := κ) card rx table) := by
  refine records_bind (neutral_checked _ _) fun answer => ?_
  refine records_bind (neutral_throwIf _ _) fun _ => ?_
  refine records_bind (records_forM fun _ _ => ?_) fun _ => records_pure _
  exact records_bind records_emit fun _ => records_emit

theorem neutral_readFullScale (card : UInt8) (rx : Bool) (scale : UInt8 → Except Exception UInt32) :
    Neutral (readFullScale (κ := κ) card rx scale) := by
  refine records_bind (neutral_checked _ _) fun answer => ?_
  refine records_bind (records_lift _) fun value => ?_
  exact records_bind records_emit fun _ => records_pure _

theorem neutral_validateRate (c : Channels) (rx : Bool) (channel : ℕ) :
    Neutral (validateRate (κ := κ) c rx channel) := by
  refine records_bind records_emit fun _ => records_bind records_emit fun _ => ?_
  exact records_bind (neutral_setup _) fun answer => records_discard (records_lift _)

theorem neutral_validateInitialRateConfiguration (c : Channels) :
    Neutral (validateInitialRateConfiguration (κ := κ) c) :=
  records_bind (records_forM fun _ _ => neutral_validateRate c true _) fun _ =>
    records_forM fun _ _ => neutral_validateRate c false _

theorem neutral_applyClockSource (source : Option String) :
    Neutral (applyClockSource (κ := κ) source) := by
  cases source with
  | none => exact records_pure _
  | some source =>
    refine records_bind ?_ fun status => records_discard (records_lift _)
    cases selectedClock source with
    | none => exact records_pure _
    | some selected => exact records_bind (neutral_setup _) fun answer => records_pure _

theorem neutral_readLast1pps : Neutral (readLast1pps (κ := κ)) := by
  refine records_bind (neutral_setup _) fun answer => ?_
  exact records_bind (neutral_throwIf _ _) fun _ => records_pure _

theorem neutral_check1pps (card : UInt8) (source : PpsSource) :
    Neutral (check1pps (κ := κ) card source) := by
  cases source with
  | unavailable => exact records_pure _
  | external | host =>
    refine records_bind neutral_readLast1pps fun previous => ?_
    refine records_bind records_ask fun wait => records_bind (neutral_throwIf _ _) fun _ => ?_
    exact records_bind neutral_readLast1pps fun current => neutral_throwIf _ _

theorem neutral_applyTimeSource (card : UInt8) (source : Option String) :
    Neutral (applyTimeSource (κ := κ) card source) := by
  cases source with
  | none => exact records_pure _
  | some source =>
    have hlast : ∀ selected, Neutral (emit >>= fun _ => check1pps (κ := κ) card selected) := fun selected =>
      records_bind records_emit fun _ => neutral_check1pps card selected
    refine records_bind records_emit fun _ => ?_
    split
    · exact records_fail _
    · refine records_bind (neutral_setup _) fun answer => ?_
      dsimp only
      split
      · refine records_bind records_ask fun kernel => records_bind records_emit fun _ => ?_
        exact records_bind (neutral_throwIf _ _) fun _ => hlast _
      · exact hlast _

theorem neutral_configure (headers : SdkHeaders) (options : ValidOptions) :
    Neutral (configure (κ := κ) headers options) := by
  refine records_bind neutral_allocate fun _ => records_bind neutral_allocate fun _ => ?_
  refine records_bind (neutral_applyTopology _ _) fun _ => ?_
  refine records_bind (neutral_checked _ _) fun read => ?_
  refine records_bind (neutral_checked _ _) fun frequency => ?_
  refine records_bind (neutral_setup _) fun name => records_bind neutral_allocate fun _ => ?_
  refine records_bind records_emit fun _ => records_bind records_emit fun _ => ?_
  refine records_bind (records_discard (neutral_checked _ _)) fun _ => ?_
  refine records_bind (neutral_readNumChans _ _ _) fun rxHandles => ?_
  refine records_bind (neutral_readNumChans _ _ _) fun txHandles => ?_
  refine records_bind (neutral_readFullScale _ _ _) fun maxValue => ?_
  refine records_bind (neutral_readFullScale _ _ _) fun txMaxValue => ?_
  refine records_bind (records_discard (neutral_checked _ _)) fun _ => ?_
  refine records_bind records_emit fun _ => ?_
  refine records_bind (neutral_validateInitialRateConfiguration _) fun _ => ?_
  refine records_bind (neutral_applyClockSource _) fun _ => ?_
  exact records_bind (neutral_applyTimeSource _ _) fun _ => records_pure _

/-! ## What the constructor leaves -/

/-- The events of a call that returns. -/
def called (call : LifetimeCall κ) (status : ℤ) : List (LifetimeEvent κ) :=
  [.issued call, .returned call (.ok status)]

/-- What the scope of the guard ends with, and its events. -/
inductive Scope : Except Exception ConstructedDevice → List (LifetimeEvent κ) → Prop where
  | unconfigured (e : Exception) (setup : List (LifetimeEvent κ))
      (hsetup : ∀ f ∈ setup, f.neutral = true) : Scope (.error e) setup
  | unregistered (e : Exception) (setup : List (LifetimeEvent κ))
      (hsetup : ∀ f ∈ setup, f.neutral = true) (status : ℤ) (hstatus : status ≠ 0) :
      Scope (.error e) (setup ++ called (.registerTxComplete true) status)
  | rolledBack (e : Exception) (setup : List (LifetimeEvent κ))
      (hsetup : ∀ f ∈ setup, f.neutral = true) (status : ℤ) :
      Scope (.error e) (setup ++ called (.registerTxComplete true) 0 ++
        called (.registerTxComplete false) status)
  | registered (d : ConstructedDevice) (setup : List (LifetimeEvent κ))
      (hsetup : ∀ f ∈ setup, f.neutral = true) :
      Scope (.ok d) (setup ++ called (.registerTxComplete true) 0)

/-- What the constructor ends with, and its events. -/
inductive Built : Except Exception ConstructedDevice → List (LifetimeEvent κ) → Prop where
  | refused (e : Exception) (first : List (LifetimeEvent κ))
      (hfirst : ∀ f ∈ first, f.neutral = true) : Built (.error e) first
  | uninitialized (e : Exception) (first : List (LifetimeEvent κ))
      (hfirst : ∀ f ∈ first, f.neutral = true) (status : ℤ) (hstatus : status ≠ 0) :
      Built (.error e) (first ++ called .init status)
  | abandoned (e : Exception) (first scope : List (LifetimeEvent κ))
      (hfirst : ∀ f ∈ first, f.neutral = true) (hscope : Scope (.error e) scope) (status : ℤ) :
      Built (.error e) (first ++ called .init 0 ++ scope ++ called .exit status)
  | built (d : ConstructedDevice) (first scope : List (LifetimeEvent κ))
      (hfirst : ∀ f ∈ first, f.neutral = true) (hscope : Scope (.ok d) scope) :
      Built (.ok d) (first ++ called .init 0 ++ scope)

variable {w : World Unit SetupAnswer Exception} {r : Progress (LifetimeEvent κ) Unit}

theorem discard_sdk_run (call : LifetimeCall κ) (w : World Unit SetupAnswer Exception)
    (r : Progress (LifetimeEvent κ) Unit) : ∃ status r',
      (discard (sdk call) : Constructor κ Unit) w r = (.ok (), r') ∧
      r'.trace = r.trace ++ called call status := by
  obtain ⟨answer, r', hrun, htrace⟩ := sdk_run call w r
  exact ⟨answer.status, r', discard_ok hrun, htrace⟩

theorem throwIf_pass {condition : Prop} [Decidable condition] (h : ¬ condition) (e : Exception) :
    throwIf condition e w r = (.ok (), r) := by
  rw [throwIf, if_neg h]
  rfl

theorem throwIf_throw {condition : Prop} [Decidable condition] (h : condition) (e : Exception) :
    throwIf condition e w r = (.error e, r) := by
  rw [throwIf, if_pos h]
  rfl

theorem checked_ok {call : LifetimeCall κ} {answer : SetupAnswer}
    {r' : Progress (LifetimeEvent κ) Unit} (message : ℤ → String) (h : sdk call w r = (.ok answer, r'))
    (hstatus : answer.status = 0) : checked call message w r = (.ok answer, r') := by
  refine (bind_ok h).trans ?_
  rw [if_neg (not_not.mpr hstatus)]
  rfl

/-- A failure that is logged: what is thrown may come from the log. -/
theorem checked_failed {call : LifetimeCall κ} {answer : SetupAnswer}
    {r' : Progress (LifetimeEvent κ) Unit} (message : ℤ → String) (h : sdk call w r = (.ok answer, r'))
    (hstatus : answer.status ≠ 0) :
    ∃ e r'', checked call message w r = (.error e, r'') ∧ r''.trace = r'.trace := by
  have hgo : checked call message w r =
      (emit >>= fun _ => fail (.runtimeError (message answer.status)) : Constructor κ SetupAnswer)
        w r' := by
    refine (bind_ok h).trans ?_
    rw [if_pos hstatus]
  rcases emit_cases w r' with hemit | ⟨e, hemit⟩
  · exact ⟨_, _, hgo.trans (bind_ok hemit), rfl⟩
  · exact ⟨e, _, hgo.trans (bind_error hemit), rfl⟩

/-- A run of a neutral procedure. -/
theorem Neutral.run {α : Type} {p : Constructor κ α} (h : Neutral p)
    (w : World Unit SetupAnswer Exception) (r : Progress (LifetimeEvent κ) Unit) :
    ∃ result r' events, p w r = (result, r') ∧ r'.trace = r.trace ++ events ∧
      ∀ e ∈ events, e.neutral = true := by
  obtain ⟨events, htrace, hevents⟩ := h w r
  exact ⟨_, _, events, rfl, htrace, hevents⟩

theorem initializeTxCallbacks_run (card : UInt8) (w : World Unit SetupAnswer Exception)
    (r : Progress (LifetimeEvent κ) Unit) : ∃ r',
      (∃ e status, initializeTxCallbacks card w r = (.error e, r') ∧ status ≠ 0 ∧
        r'.trace = r.trace ++ called (.registerTxComplete true) status) ∨
      (∃ e status, initializeTxCallbacks card w r = (.error e, r') ∧
        r'.trace = r.trace ++ called (.registerTxComplete true) 0 ++
          called (.registerTxComplete false) status) ∨
      (initializeTxCallbacks card w r = (.ok (), r') ∧
        r'.trace = r.trace ++ called (.registerTxComplete true) 0) := by
  obtain ⟨answer, r₁, hrun, htrace⟩ := sdk_run (.registerTxComplete true) w r
  by_cases hstatus : answer.status = 0
  · -- The scope of the inner guard is one message.
    have hgo : initializeTxCallbacks card w r =
        emit.guarded (discard (sdk (.registerTxComplete false))) w r₁ :=
      (bind_ok hrun).trans (bind_ok (throwIf_pass (not_not.mpr hstatus) _))
    rw [hstatus] at htrace
    rcases emit_cases w r₁ with hemit | ⟨e, hemit⟩
    · exact ⟨_, .inr (.inr ⟨hgo.trans (guarded_ok hemit), htrace⟩)⟩
    · obtain ⟨status, r₂, hcleanup, hfreed⟩ := discard_sdk_run (.registerTxComplete false) w
        { r₁ with emitted := r₁.emitted + 1 }
      refine ⟨r₂, .inr (.inl ⟨e, status, hgo.trans (guarded_error hemit hcleanup), ?_⟩)⟩
      rw [hfreed, htrace]
      rfl
  · exact ⟨r₁, .inl ⟨_, answer.status,
      (bind_ok hrun).trans (bind_error (throwIf_throw hstatus _)), hstatus, htrace⟩⟩

theorem whileInitialized_run (headers : SdkHeaders) (options : ValidOptions)
    (w : World Unit SetupAnswer Exception) (r : Progress (LifetimeEvent κ) Unit) :
    ∃ result r' scope, whileInitialized headers options w r = (result, r') ∧
      r'.trace = r.trace ++ scope ∧ Scope result scope := by
  obtain ⟨result, r₁, setup, hrun, htrace, hsetup⟩ := (neutral_configure headers options).run w r
  cases result with
  | error e => exact ⟨_, r₁, setup, bind_error hrun, htrace, .unconfigured e setup hsetup⟩
  | ok d =>
    obtain ⟨r₂, hcallbacks⟩ := initializeTxCallbacks_run options.val.card w r₁
    rcases hcallbacks with ⟨e, status, hlast, hstatus, hend⟩ | ⟨e, status, hlast, hend⟩ | ⟨hlast, hend⟩
    · refine ⟨_, r₂, _, (bind_ok hrun).trans (bind_error hlast), ?_,
        .unregistered e setup hsetup status hstatus⟩
      rw [hend, htrace, List.append_assoc]
    · refine ⟨_, r₂, _, (bind_ok hrun).trans (bind_error hlast), ?_,
        .rolledBack e setup hsetup status⟩
      simp only [hend, htrace, List.append_assoc]
    · refine ⟨_, r₂, _, (bind_ok hrun).trans (bind_ok hlast), ?_, .registered d setup hsetup⟩
      rw [hend, htrace, List.append_assoc]

theorem neutral_beforeInit (arguments : Kwargs) : Neutral (beforeInit (κ := κ) arguments) := by
  refine records_bind (records_lift _) fun options => records_bind neutral_allocate fun _ => ?_
  refine records_bind (records_discard (neutral_sdk rfl fun _ => rfl)) fun _ => ?_
  refine records_bind records_emit fun _ => records_bind records_emit fun _ => ?_
  exact records_bind records_emit fun _ => records_pure _

theorem construct_built (headers : SdkHeaders) (arguments : Kwargs)
    (w : World Unit SetupAnswer Exception) {r : Progress (LifetimeEvent κ) Unit} (hr : r.trace = []) :
    Built (construct headers arguments w r).1 (construct headers arguments w r).2.trace := by
  obtain ⟨result, r₁, first, hrun, htrace, hfirst⟩ := (neutral_beforeInit arguments).run w r
  rw [hr, List.nil_append] at htrace
  cases result with
  | error e =>
    rw [show construct headers arguments w r = (.error e, r₁) from bind_error hrun, htrace]
    exact .refused e first hfirst
  | ok options =>
    obtain ⟨answer, r₂, hinit, hinitTrace⟩ := sdk_run .init w r₁
    by_cases hstatus : answer.status = 0
    · have hchecked := discard_ok (checked_ok (failure options.val.card "skiq_init" "") hinit hstatus)
      obtain ⟨result, r₃, scope, hscopeRun, hscopeTrace, hscope⟩ :=
        whileInitialized_run headers options w r₂
      rw [hinitTrace, htrace, hstatus] at hscopeTrace
      cases result with
      | error e =>
        obtain ⟨status, r₄, hexit, hexitTrace⟩ := discard_sdk_run .exit w r₃
        rw [show construct headers arguments w r = (.error e, r₄) from
          (bind_ok hrun).trans ((bind_ok hchecked).trans (guarded_error hscopeRun hexit)), hexitTrace,
          hscopeTrace]
        exact .abandoned e first scope hfirst hscope status
      | ok d =>
        rw [show construct headers arguments w r = (.ok d, r₃) from
          (bind_ok hrun).trans ((bind_ok hchecked).trans (guarded_ok hscopeRun)), hscopeTrace]
        exact .built d first scope hfirst hscope
    · obtain ⟨e, r₃, hfailed, hfailedTrace⟩ :=
        checked_failed (failure options.val.card "skiq_init" "") hinit hstatus
      rw [show construct headers arguments w r = (.error e, r₃) from
        (bind_ok hrun).trans (bind_error (discard_error hfailed)), hfailedTrace, hinitTrace, htrace]
      exact .uninitialized e first hfirst answer.status hstatus

end Constructor

end SoapySidekiq
