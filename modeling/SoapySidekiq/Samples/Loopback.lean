import SoapySidekiq.Lifetime.Device
import SoapySidekiq.Samples.SampleConversion
import SoapySidekiq.Tx.ExactlyOnce
import SoapySidekiq.Tx.Trace

/-! # Received samples that are sent again

A client that reads CF32, and writes what it has read as CF32. The constructor fixes the two full
scales, the reader divides by one of them, the writer multiplies by the other one, and what the SDK
accepts over a whole run is compared with the native samples of the receiver. -/
set_option autoImplicit false

open Rounding Binary32

namespace SoapySidekiq

/-! ## The full scales of a constructed device -/

theorem sampleFullScale_isFullScale {resolution : UInt8} {value : UInt32}
    (h : sampleFullScale resolution = .ok value) : IsFullScale value := by
  unfold sampleFullScale at h
  split at h
  · cases h
  · next hrange =>
    rw [not_or, UInt8.lt_iff_toNat_lt, UInt8.lt_iff_toNat_lt] at hrange
    have hwidths : ∀ n < 17, 2 ≤ n →
      IsFullScale ((1 <<< ((UInt8.ofNat n).toUInt32 - 1)) - 1) := by decide
    have hlow : 2 ≤ resolution.toNat := Nat.le_of_not_lt hrange.1
    have hhigh : resolution.toNat < 17 := Nat.lt_succ_of_le (Nat.le_of_not_lt hrange.2)
    cases h
    simpa using hwidths resolution.toNat hhigh hlow

theorem txSampleFullScale_isFullScale {resolution : UInt8} {alignment : TxSampleAlignment}
    {value : UInt32} (h : txSampleFullScale resolution alignment = .ok value) : IsFullScale value := by
  unfold txSampleFullScale at h
  split at h
  · cases h
  · next physical hphysical =>
    cases alignment with
    | rightJustified =>
      cases h
      exact sampleFullScale_isFullScale hphysical
    | upperBits => exact sampleFullScale_isFullScale h

namespace Constructor
open Procedure
variable {κ : Type}

theorem returns_readFullScale (card : UInt8) (rx : Bool) {scale : UInt8 → Except Exception UInt32}
    (h : ∀ resolution value, scale resolution = .ok value → IsFullScale value) :
    Returns IsFullScale (readFullScale (κ := κ) card rx scale) := by
  refine returns_then fun answer => returns_bind IsFullScale (returns_lift (h _)) fun value hvalue => ?_
  exact returns_then fun _ => returns_pure hvalue

theorem returns_configure (headers : SdkHeaders) (options : ValidOptions) :
    Returns (fun d : ConstructedDevice => IsFullScale d.maxValue ∧ IsFullScale d.txMaxValue)
      (configure (κ := κ) headers options) := by
  refine returns_then fun _ => returns_then fun _ => returns_then fun _ => returns_then fun read => ?_
  refine returns_then fun frequency => returns_then fun name => returns_then fun _ => ?_
  refine returns_then fun _ => returns_then fun _ => returns_then fun _ => ?_
  refine returns_then fun rxHandles => returns_then fun txHandles => ?_
  refine returns_bind IsFullScale
    (returns_readFullScale _ _ fun _ _ => sampleFullScale_isFullScale) fun maxValue hmax => ?_
  refine returns_bind IsFullScale
    (returns_readFullScale _ _ fun _ _ => txSampleFullScale_isFullScale) fun txMaxValue htxMax => ?_
  refine returns_then fun _ => returns_then fun _ => returns_then fun _ => returns_then fun _ => ?_
  exact returns_then fun _ => returns_pure ⟨hmax, htxMax⟩

theorem returns_construct (headers : SdkHeaders) (arguments : Kwargs) :
    Returns (fun d : ConstructedDevice => IsFullScale d.maxValue ∧ IsFullScale d.txMaxValue)
      (construct (κ := κ) headers arguments) := by
  refine returns_then fun options => returns_then fun _ => returns_guarded ?_
  exact returns_bind _ (returns_configure headers options) fun d hd =>
    returns_then fun _ => returns_pure hd

end Constructor

/-! ## What the writer makes of it -/

/-- A native sample of the receiver, and what is sent for it. -/
structure LoopsTo (rxMax txMax : UInt32) (native sent : Int16) : Prop where
  near : |(sent.toInt : ℚ) - clamp ((native.toInt : ℚ) / rxMax.toNat) (-1) 1 * txMax.toNat| < 1
  same : rxMax = txMax → sent.toInt = clamp native.toInt (-rxMax.toNat) rxMax.toNat

theorem convertAtScale_loopsTo {rxMax txMax bits : UInt32} (hrx : IsFullScale rxMax)
    (htx : IsFullScale txMax) {native : Int16}
    (hbits : decode bits = .finite (normalizedSample rxMax native)) :
    LoopsTo rxMax txMax native (convertAtScale txMax bits) := by
  obtain ⟨sent, hsent, -⟩ := convert_ok htx (decode bits)
  have hconvert : convertAtScale txMax bits = sent := by rw [convertAtScale, hsent]
  rw [hbits] at hsent
  rw [hconvert]
  refine ⟨loopback_error hrx htx hsent, ?_⟩
  rintro rfl
  obtain ⟨result, hresult, hclipped⟩ := loopback hrx native
  obtain rfl := Except.ok.inj (hresult.symm.trans hsent)
  exact hclipped

theorem wireSamples_components (convert : UInt32 → Int16) (input : Memory) (count : ℕ) :
    wireSamples convert false input 0 count =
      ((List.range (count * 2)).map fun i => convert (floatBits input (i * 4))).flatMap storeSample := by
  rw [← convertCf32ToCs16_samples, convertCf32ToCs16, List.flatMap_map]
  simp

/-! ## Over a run -/

namespace TxCaller

theorem delivered_run {config : TxConfiguration} {c : TxCaller} {actions : List TxAction} {s : TxSystem}
    (hserial : Transition.Along TxSystem.next (fun u a => u.serialized a = true)
      (TxSystem.create config) actions)
    (hcaller : Transition.Along TxSystem.next (fun u a => c.Follows u a ∧ c.inFormat u a = true)
      (TxSystem.create config) actions)
    (hrun : Transition.run TxSystem.next (TxSystem.create config) actions = some s) :
    c.Delivered config s := by
  have hnil : Transition.Along TxSystem.next (fun u a => u.serialized a = true)
    (TxSystem.create config) [] := trivial
  have hall := Transition.along_invariant
    (I := fun u : TxSystem => u.Sendings config ∧ c.Delivered config u)
    (fun u a v h ha hnext => ⟨TxSystem.sendings_step h.1 ha.1 (step_of_next hnext),
      delivered_step h.2 h.1 ha.1 ha.2.1 ha.2.2 (step_of_next hnext)⟩)
    ⟨TxSystem.sendings_run hnil rfl, rfl, rfl, by simp [TxSystem.create],
      by simp [TxSystem.create, TxDevice.create, TxCaller.packets, acceptedPackets]⟩
    (Transition.along_and hserial hcaller) hrun
  exact hall.2

end TxCaller

/-- A client reads CF32 from a device that the constructor has built and writes it back as CF32, and
goes on from what each write accepts. Over any run, the SDK has got, sample by sample and from the first
one on, the native samples of the receiver: clipped if the two full scales are equal, else within one
step of the sample at the other full scale. -/
theorem cf32_loopback {κ : Type} {headers : SdkHeaders} {arguments : Kwargs}
    {w : World Unit SetupAnswer Exception} {r r' : Progress (LifetimeEvent κ) Unit}
    {d : ConstructedDevice} (hconstruct : Constructor.construct headers arguments w r = (.ok d, r'))
    {actions : List TxAction} {s : TxSystem}
    (hserial : Transition.Along TxSystem.next (fun u a => u.serialized a = true)
      (TxSystem.create (d.txConfiguration headers convertAtScale)) actions)
    (hrun : Transition.run TxSystem.next
      (TxSystem.create (d.txConfiguration headers convertAtScale)) actions = some s)
    {c : TxCaller} (hshort : c.short = false)
    (hcaller : Transition.Along TxSystem.next (fun u a => c.Follows u a ∧ c.inFormat u a = true)
      (TxSystem.create (d.txConfiguration headers convertAtScale)) actions)
    {native : ℕ → Int16} (hread : ∀ i < c.total * 2,
      decode (floatBits c.input (i * 4)) = .finite (normalizedSample d.maxValue (native i))) :
    ∃ sent : List Int16, (c.packets s.device.trace).flatten = sent.flatMap storeSample ∧
      sent.length = (c.packets s.device.trace).length * d.options.val.txBlockSize.toNat * 2 ∧
      sent.length ≤ c.total * 2 ∧
      ∀ i sample, sent[i]? = some sample → LoopsTo d.maxValue d.txMaxValue (native i) sample := by
  obtain ⟨hrx, htx⟩ := Constructor.returns_construct headers arguments w r d r' hconstruct
  have hdelivered := TxCaller.delivered_run hserial hcaller hrun
  generalize hcount : (c.packets s.device.trace).length = count at hdelivered
  have hbounded := hdelivered.bounded
  have hpackets := hdelivered.packets
  rw [hcount] at hbounded hpackets
  refine ⟨(List.range (count * d.options.val.txBlockSize.toNat * 2)).map fun i =>
    convertAtScale d.txMaxValue (floatBits c.input (i * 4)), ?_, by simp, ?_, fun i sample hsample => ?_⟩
  · rw [← wireSamples_components, hpackets, ← List.flatMap_def]
    have hblock : c.block (d.txConfiguration headers convertAtScale) = fun j =>
        wireSamples (convertAtScale d.txMaxValue) false c.input
          (j * d.options.val.txBlockSize.toNat) d.options.val.txBlockSize.toNat := by
      funext j
      rw [TxCaller.block, hshort]
      rfl
    rw [hblock, wireSamples_packets]
  · rw [List.length_map, List.length_range]
    exact Nat.mul_le_mul_right 2 hbounded
  · obtain ⟨hi, rfl⟩ : i < count * d.options.val.txBlockSize.toNat * 2 ∧
        convertAtScale d.txMaxValue (floatBits c.input (i * 4)) = sample := by
      rw [List.getElem?_map, Option.map_eq_some_iff] at hsample
      obtain ⟨j, hj, hsample⟩ := hsample
      obtain ⟨hi, rfl⟩ := List.getElem?_eq_some_iff.mp hj
      rw [List.length_range] at hi
      rw [List.getElem_range] at hsample
      exact ⟨hi, hsample⟩
    exact convertAtScale_loopsTo hrx htx
      (hread i (Nat.lt_of_lt_of_le hi (Nat.mul_le_mul_right 2 hbounded)))

/-! ### A sample below the full scale -/

theorem megahertz_lt : Int.natAbs 1000000 < 2 ^ 53 := by decide

/-- The SDK succeeds and answers every question with 2: samples of two bits. -/
def twoBitAnswer : SetupAnswer where
  status := 0
  holds := true
  number := 2
  text := "Z2"
  parameters := ⟨.z2, [3, 4], [5, 6]⟩
  readback := ⟨0, 1000000, .finite ⟨1000000, 0, megahertz_lt⟩, 1000000⟩
  thrown := none

def twoBitArguments : Kwargs := fun key =>
  if key = "card" then some "0" else if key = "tx_buffer_count" then some "2"
  else if key = "tx_block_size" then some "252" else none

def twoBitConstruction : Except Exception ConstructedDevice × Progress (LifetimeEvent Unit) Unit :=
  Constructor.construct ⟨0, 1, Int.one_ne_zero⟩ twoBitArguments ⟨fun _ s => (twoBitAnswer, s), fun _ => none⟩
    ⟨(), [], 0, 0⟩

/-- One block of -2.0. -/
def belowScale : TxCaller := ⟨fun i => if i % 4 = 3 then 0xC0 else 0, 252, false, fun _ => true⟩

def beforeWrite : List TxAction :=
  [.call (.setupStream "CF32" [0] [] 100), .lifecycle (.sdk 0), .lifecycle .run, .lifecycle .run,
    .call (.activateStream 100 0 0 0)] ++ List.replicate 5 (.lifecycle (.sdk 0)) ++
    [.lifecycle .run, .lifecycle (.sdk 0), .lifecycle .run, .lifecycle .run, .lifecycle .run]

def oneWrite : List TxAction :=
  beforeWrite ++ .writeStream ⟨100, some (Memory.drop belowScale.input false 0), 252, 0, 0⟩ ::
    (List.replicate 9 (.writer 0 .run) ++ [.writer 0 .accept, .writer 0 (.sdk 0)])

/-- What the constructor has fixed. -/
def twoBitConfig : TxConfiguration where
  card := 0
  txHandles := [5, 6]
  txBufferCount := 2
  currentTxBlockSize := 252
  iqSwap := true
  queueFull := 1
  convert := convertAtScale 1
  bufferCount_pos := Nat.two_pos
  blockSize_pos := by decide
  blockSize_lt := by decide
  queueFull_ne := Int.one_ne_zero

def twoBitChecks : Bool :=
  match twoBitConstruction with
  | (.ok d, _) => decide (d.card = 0 ∧ d.txHandles = [5, 6] ∧ d.options.val.txBufferCount = 2 ∧
      d.options.val.txBlockSize = 252 ∧ d.maxValue = 1 ∧ d.txMaxValue = 1)
  | _ => false

theorem twoBitConstruction_ok : ∃ d r, twoBitConstruction = (.ok d, r) ∧ d.maxValue = 1 ∧
    d.txMaxValue = 1 ∧ d.options.val.txBlockSize = 252 ∧
    d.txConfiguration ⟨0, 1, by decide⟩ convertAtScale = twoBitConfig := by
  have hchecks : twoBitChecks = true := by decide +kernel
  unfold twoBitChecks at hchecks
  split at hchecks
  · next d r hconstruct =>
    obtain ⟨hcard, hhandles, hcount, hsize, hmax, htxMax⟩ := of_decide_eq_true hchecks
    refine ⟨d, r, hconstruct, hmax, htxMax, hsize, ?_⟩
    simp only [ConstructedDevice.txConfiguration, twoBitConfig, hcard, hhandles, hcount, hsize, htxMax]
    congr 1
  · cases hchecks

theorem oneWrite_follows : Transition.Along TxSystem.next
    (fun u a => belowScale.Follows u a ∧ belowScale.inFormat u a = true)
    (TxSystem.create twoBitConfig) oneWrite := by
  refine Transition.along_and ?_ (by decide +kernel)
  refine Transition.along_concat (TxSystem.follows_of_none _ (by decide) _) fun u hu => ?_
  have hzero : belowScale.position u = 0 := by
    have hmap : (Transition.run TxSystem.next (TxSystem.create twoBitConfig) beforeWrite).map
      (fun u => decide (belowScale.position u = 0)) = some true := by decide +kernel
    rw [hu] at hmap
    simpa using hmap
  refine ⟨fun _ => by rw [hzero]; exact ⟨rfl, by decide⟩, fun v _ => ?_⟩
  exact TxSystem.follows_of_none _ (by decide) _

theorem cf32_loopback_clipped :
    ∃ (d : ConstructedDevice) (r : Progress (LifetimeEvent Unit) Unit) (s : TxSystem)
      (sent : List Int16), twoBitConstruction = (.ok d, r) ∧
      Transition.run TxSystem.next
        (TxSystem.create (d.txConfiguration ⟨0, 1, by decide⟩ convertAtScale)) oneWrite = some s ∧
      (belowScale.packets s.device.trace).flatten = sent.flatMap storeSample ∧ sent.length = 504 ∧
      ∀ (i : ℕ) (sample : Int16), sent[i]? = some sample → sample.toInt = -1 := by
  obtain ⟨d, r, hconstruct, hmax, htxMax, hsize, hconfig⟩ := twoBitConstruction_ok
  obtain ⟨s, hrun, hlength⟩ := Option.map_eq_some_iff.mp (show (Transition.run TxSystem.next
    (TxSystem.create twoBitConfig) oneWrite).map
      (fun u => decide ((belowScale.packets u.device.trace).length = 1)) = some true by decide +kernel)
  have hserial : Transition.Along TxSystem.next (fun u a => u.serialized a = true)
    (TxSystem.create twoBitConfig) oneWrite := by decide +kernel
  have hbits : ∀ i, floatBits belowScale.input (i * 4) = 0xC0000000 := by
    intro i
    simp [floatBits, belowScale, Nat.add_mod]
    decide
  have hminusTwo : decode 0xC0000000 = .finite (normalizedSample 1 (-2)) := by decide +kernel
  have hread : ∀ i < belowScale.total * 2, decode (floatBits belowScale.input (i * 4)) =
      .finite (normalizedSample d.maxValue (Function.const ℕ (-2) i)) := by
    intro i _
    rw [hbits, hmax]
    exact hminusTwo
  have hfollows := oneWrite_follows
  rw [← hconfig] at hrun hserial hfollows
  obtain ⟨sent, hsent, hcount, -, hloops⟩ := cf32_loopback hconstruct hserial hrun (c := belowScale) rfl
    hfollows hread
  rw [of_decide_eq_true hlength, hsize] at hcount
  refine ⟨d, r, s, sent, hconstruct, hrun, hsent, hcount, fun i sample hsample => ?_⟩
  have hsame := (hloops i sample hsample).same (hmax.trans htxMax.symm)
  rw [hsame, hmax, Function.const_apply]
  decide

end SoapySidekiq
