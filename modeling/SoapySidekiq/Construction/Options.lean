import SoapySidekiq.Exceptions
import SoapySidekiq.Names
import SoapySidekiq.Foundations.Decimal

/-! # Constructor options

`parseDeviceOptions` of `DeviceOptions.cpp`, and the name matching of `setClockSource` and
`setTimeSource`, to which the constructor passes the sources that the parser has accepted. -/
set_option autoImplicit false

namespace SoapySidekiq
open Decimal

/-- A keyword map, as what `find` returns for each key. -/
abbrev Kwargs : Type := String → Option String

structure DeviceOptions where
  card : UInt8
  topology : Option UInt8
  txBlockSize : UInt32
  txBufferCount : UInt32
  clockSource : Option String
  timeSource : Option String
deriving DecidableEq, Repr

def defaultTxBlockSize : UInt32 := 16380

def defaultTxBufferCount : UInt32 := 30000

def maxTxBufferCount : UInt32 := 30000

def txHeaderWords : UInt32 := 4

def txPacketIncrementWords : UInt32 := 256

def maxTxBlockSize : UInt32 := 65536 - txHeaderWords

def clockSources : List String := ["internal_clock", "external_clock"]

def timeSources : List String :=
  ["1pps_source_unavailable", "1pps_source_external", "1pps_source_internal"]

/-! ## The parser -/

def parseUnsigned (value name : String) (maximum : UInt32) : Except Exception UInt32 :=
  let conversion := fromChars UInt32.size value.toList 0
  let parsed := UInt32.ofNat conversion.parsed
  if value.isEmpty = true ∨ conversion.ec ≠ none ∨ conversion.rest ≠ [] ∨ parsed > maximum then
    .error (.invalidArgument ("invalid " ++ name ++ " value '" ++ value ++ "'"))
  else .ok parsed

def optionalString (arguments : Kwargs) (key : String) : Except Exception (Option String) :=
  match arguments key with
  | none => .ok none
  | some value =>
    if value.isEmpty then .error (.invalidArgument (key ++ " cannot be empty")) else .ok (some value)

def optionalSource (arguments : Kwargs) (key : String) (choices : List String) :
    Except Exception (Option String) :=
  match optionalString arguments key with
  | .error e => .error e
  | .ok none => .ok none
  | .ok (some value) =>
    let normalized := String.ofList (value.toList.map Char.toLower)
    if choices.contains normalized then .ok (some value)
    else .error (.invalidArgument ("Unknown " ++ key ++ ": " ++ value))

def parseCard (arguments : Kwargs) : Except Exception UInt8 :=
  match arguments "card" with
  | none => .error (.invalidArgument "the card argument is required")
  | some value =>
    match parseUnsigned value "card" 255 with
    | .error e => .error e
    | .ok parsed => .ok parsed.toUInt8

def parseTopology (arguments : Kwargs) : Except Exception (Option UInt8) :=
  match arguments "topology" with
  | none => .ok none
  | some value =>
    match parseUnsigned value "topology" 255 with
    | .error e => .error e
    | .ok parsed => .ok (some parsed.toUInt8)

def parseTxBlockSize (arguments : Kwargs) : Except Exception UInt32 :=
  match arguments "tx_block_size" with
  | none => .ok defaultTxBlockSize
  | some value =>
    match parseUnsigned value "tx_block_size" maxTxBlockSize with
    | .error e => .error e
    | .ok parsed =>
      if parsed = 0 then .error (.invalidArgument "tx_block_size must be greater than zero")
      else if (parsed + txHeaderWords) % txPacketIncrementWords ≠ 0 then
        .error (.invalidArgument ("tx_block_size plus the TX header must be a multiple of " ++
          toString txPacketIncrementWords ++ " words"))
      else .ok parsed

def parseTxBufferCount (arguments : Kwargs) : Except Exception UInt32 :=
  match arguments "tx_buffer_count" with
  | none => .ok defaultTxBufferCount
  | some value =>
    match parseUnsigned value "tx_buffer_count" maxTxBufferCount with
    | .error e => .error e
    | .ok parsed =>
      if parsed = 0 then .error (.invalidArgument "tx_buffer_count must be greater than zero")
      else .ok parsed

/-- The checks in the order in which they are made; the first failure is the one reported. -/
def parseDeviceOptions (arguments : Kwargs) : Except Exception DeviceOptions := do
  let card ← parseCard arguments
  let topology ← parseTopology arguments
  let txBlockSize ← parseTxBlockSize arguments
  let txBufferCount ← parseTxBufferCount arguments
  let clockSource ← optionalSource arguments "clock_source" clockSources
  let timeSource ← optionalSource arguments "time_source" timeSources
  return { card, topology, txBlockSize, txBufferCount, clockSource, timeSource }

/-! ## The setters of the sources -/

/-- `skiq_ref_clock_select_t`, as far as it is written. -/
inductive RefClock where
  | internal
  | external
deriving DecidableEq, Repr

/-- `skiq_1pps_source_t`, as far as it is written. -/
inductive PpsSource where
  | unavailable
  | external
  | host
deriving DecidableEq, Repr

/-- The name matching of `setClockSource`. -/
def selectedClock (source : String) : Option RefClock :=
  if equalsIgnoreCase source "internal_clock" then some .internal
  else if equalsIgnoreCase source "external_clock" then some .external
  else none

/-- The name matching of `setTimeSource`. -/
def selectedPps (source : String) : Option PpsSource :=
  if equalsIgnoreCase source "1pps_source_unavailable" then some .unavailable
  else if equalsIgnoreCase source "1pps_source_external" then some .external
  else if equalsIgnoreCase source "1pps_source_internal" then some .host
  else none

/-- `setClockSource`, up to the source selected. `rxBusy` is the check of
`RxStreamSession::configureInactive`, and `status` what the SDK returns. -/
def setClockSource (rxBusy : Bool) (status : ℤ) (source : String) : Except Exception RefClock :=
  match selectedClock source with
  | none => .error (.invalidArgument ("Unknown clock source: " ++ source))
  | some selected =>
    if rxBusy then
      .error (.logicError "Deactivate RX successfully before changing stream timing configuration")
    else if status ≠ 0 then
      .error (.runtimeError ("skiq_write_ref_clock_select failed: " ++ toString status))
    else .ok selected

/-- `setTimeSource`, up to the source selected. `kernelFallback` is what `writeKernel1PpsSource`
returns, and `checkPps` the text that `check_1pps` throws, if it does. -/
def setTimeSource (rxBusy : Bool) (status : ℤ) (kernelFallback : Bool) (checkPps : Option String)
    (source : String) : Except Exception PpsSource :=
  match selectedPps source with
  | none => .error (.invalidArgument ("Unknown time source: " ++ source))
  | some selected =>
    if rxBusy then
      .error (.logicError "Deactivate RX successfully before changing stream timing configuration")
    else if status ≠ 0 ∧ kernelFallback = false then
      .error (.runtimeError ("skiq_write_1pps_source failed and kernel fallback unavailable: " ++
        toString status))
    else
      match checkPps with
      | some what => .error (.runtimeError what)
      | none => .ok selected

/-! ## Numbers -/

/-- The numeral `s` stands for `n`. -/
def Denotes (s : String) (n : ℕ) : Prop := Numeral s.toList ∧ value s.toList = n

instance (s : String) (n : ℕ) : Decidable (Denotes s n) := inferInstanceAs (Decidable (_ ∧ _))

theorem Denotes.unique {s : String} {m n : ℕ} (hm : Denotes s m) (hn : Denotes s n) : m = n :=
  hm.2.symm.trans hn.2

theorem parseUnsigned_ok_iff {value name : String} {maximum parsed : UInt32} :
    parseUnsigned value name maximum = .ok parsed ↔
      Denotes value parsed.toNat ∧ parsed ≤ maximum := by
  rw [parseUnsigned]
  constructor
  · intro h
    split at h
    · cases h
    rename_i hgood
    obtain ⟨-, hec, hrest, hmax⟩ := by simpa only [not_or, not_not] using hgood
    cases h
    obtain ⟨hnumeral, hlt⟩ := fromChars_complete_iff.mp ⟨hec, hrest⟩
    rw [fromChars_parsed hnumeral hlt] at hmax ⊢
    refine ⟨⟨hnumeral, ?_⟩, UInt32.not_lt.mp hmax⟩
    rw [UInt32.toNat_ofNat', Nat.mod_eq_of_lt hlt]
  · rintro ⟨⟨hnumeral, hvalue⟩, hle⟩
    have hlt : Decimal.value value.toList < UInt32.size := hvalue ▸ parsed.toNat_lt
    obtain ⟨hec, hrest⟩ : (fromChars UInt32.size value.toList 0).ec = none ∧
        (fromChars UInt32.size value.toList 0).rest = [] := fromChars_complete_iff.mpr ⟨hnumeral, hlt⟩
    have hparsed : UInt32.ofNat (fromChars UInt32.size value.toList 0).parsed = parsed := by
      rw [fromChars_parsed hnumeral hlt, hvalue, UInt32.ofNat_toNat]
    have hne : ¬ value.isEmpty = true := by
      intro hempty
      rw [String.isEmpty_iff] at hempty
      exact hnumeral.1 (by rw [hempty]; rfl)
    rw [hec, hrest, hparsed, if_neg]
    simp only [hne, ne_eq, not_true_eq_false, Bool.false_eq_true, false_or]
    exact UInt32.not_lt.mpr hle

/-- A number of at most 255 is kept by the narrowing cast. -/
theorem toUInt8_toNat {parsed : UInt32} (h : parsed ≤ 255) : parsed.toUInt8.toNat = parsed.toNat := by
  have hle : parsed.toNat ≤ 255 := UInt32.le_iff_toNat_le.mp h
  rw [UInt32.toNat_toUInt8, Nat.mod_eq_of_lt (by omega)]

theorem parseByte_iff {value : String} (name : String) {n : UInt8} :
    (∃ parsed, parseUnsigned value name 255 = .ok parsed ∧ parsed.toUInt8 = n) ↔
      Denotes value n.toNat := by
  constructor
  · rintro ⟨parsed, hparsed, rfl⟩
    obtain ⟨hdenotes, hle⟩ := parseUnsigned_ok_iff.mp hparsed
    rwa [toUInt8_toNat hle]
  · intro h
    have hbyte := n.toNat_lt
    have hcast : (UInt32.ofNat n.toNat).toNat = n.toNat := by
      rw [UInt32.toNat_ofNat', Nat.mod_eq_of_lt (by omega)]
    have hle : UInt32.ofNat n.toNat ≤ 255 := by
      rw [UInt32.le_iff_toNat_le, hcast]
      exact Nat.le_of_lt_succ hbyte
    refine ⟨UInt32.ofNat n.toNat, parseUnsigned_ok_iff.mpr ⟨by rwa [hcast], hle⟩, ?_⟩
    exact UInt8.toNat_inj.mp ((toUInt8_toNat hle).trans hcast)
/-! ## Source names -/

/-- Comparing the lower-case value with lower-case choices is comparing up to letter case. -/
theorem contains_normalized_iff {choices : List String} {value : String}
    (hlower : ∀ choice ∈ choices, choice.toList.map Char.toLower = choice.toList) :
    choices.contains (String.ofList (value.toList.map Char.toLower)) = true ↔
      ∃ choice ∈ choices, equalsIgnoreCase value choice = true := by
  rw [List.contains_iff_mem]
  constructor
  · intro hmem
    refine ⟨_, hmem, equalsIgnoreCase_iff.mpr ?_⟩
    rw [hlower _ hmem, String.toList_ofList]
  · rintro ⟨choice, hmem, hequal⟩
    rw [equalsIgnoreCase_iff, hlower choice hmem] at hequal
    rwa [hequal, String.ofList_toList]

theorem optionalSource_some_iff {arguments : Kwargs} {key value : String} {choices : List String}
    {source : Option String} (hlower : ∀ choice ∈ choices, choice.toList.map Char.toLower = choice.toList)
    (hnonempty : ∀ choice ∈ choices, choice.toList ≠ []) (hvalue : arguments key = some value) :
    optionalSource arguments key choices = .ok source ↔
      source = some value ∧ ∃ choice ∈ choices, equalsIgnoreCase value choice = true := by
  rw [optionalSource, optionalString, hvalue]
  dsimp only
  by_cases hempty : value.isEmpty = true
  · rw [if_pos hempty]
    refine iff_of_false nofun ?_
    rintro ⟨-, choice, hmem, hequal⟩
    rw [String.isEmpty_iff] at hempty
    rw [equalsIgnoreCase_iff, hlower choice hmem, hempty] at hequal
    exact hnonempty choice hmem hequal.symm
  · rw [if_neg hempty, ← contains_normalized_iff hlower]
    dsimp only
    split
    · rename_i hmem
      rw [Except.ok.injEq, eq_comm]
      exact (and_iff_left hmem).symm
    · rename_i hmem
      exact iff_of_false nofun fun h => hmem h.2

theorem clockSources_lower :
    ∀ choice ∈ clockSources, choice.toList.map Char.toLower = choice.toList := by decide

theorem timeSources_lower :
    ∀ choice ∈ timeSources, choice.toList.map Char.toLower = choice.toList := by decide

theorem clockSources_nonempty : ∀ choice ∈ clockSources, choice.toList ≠ [] := by decide

theorem timeSources_nonempty : ∀ choice ∈ timeSources, choice.toList ≠ [] := by decide

theorem selectedClock_eq_none {s : String} :
    selectedClock s = none ↔ ¬ ∃ choice ∈ clockSources, equalsIgnoreCase s choice = true := by
  rw [selectedClock]
  simp only [clockSources, List.mem_cons, List.not_mem_nil, or_false, exists_eq_or_imp,
    exists_eq_left]
  split
  · simp [*]
  · split <;> simp [*]

theorem selectedPps_eq_none {s : String} :
    selectedPps s = none ↔ ¬ ∃ choice ∈ timeSources, equalsIgnoreCase s choice = true := by
  rw [selectedPps]
  simp only [timeSources, List.mem_cons, List.not_mem_nil, or_false, exists_eq_or_imp,
    exists_eq_left]
  split
  · simp [*]
  · split
    · simp [*]
    · split <;> simp [*]

/-- `setClockSource` rejects a name as unknown exactly when it is none of the choices. -/
theorem setClockSource_unknown_iff (rxBusy : Bool) (status : ℤ) (s : String) :
    setClockSource rxBusy status s = .error (.invalidArgument ("Unknown clock source: " ++ s)) ↔
      ¬ ∃ choice ∈ clockSources, equalsIgnoreCase s choice = true := by
  rw [← selectedClock_eq_none, setClockSource]
  cases selectedClock s with
  | none => exact iff_of_true rfl rfl
  | some selected =>
    dsimp only
    refine iff_of_false ?_ nofun
    split
    · nofun
    · split <;> nofun

/-- `setTimeSource` rejects a name as unknown exactly when it is none of the choices. -/
theorem setTimeSource_unknown_iff (rxBusy : Bool) (status : ℤ) (kernelFallback : Bool)
    (checkPps : Option String) (s : String) :
    setTimeSource rxBusy status kernelFallback checkPps s =
        .error (.invalidArgument ("Unknown time source: " ++ s)) ↔
      ¬ ∃ choice ∈ timeSources, equalsIgnoreCase s choice = true := by
  rw [← selectedPps_eq_none, setTimeSource]
  cases selectedPps s with
  | none => exact iff_of_true rfl rfl
  | some selected =>
    dsimp only
    refine iff_of_false ?_ nofun
    split
    · nofun
    · split
      · nofun
      · split <;> nofun

/-! ## The grammar -/

/-- The options that the keyword map stands for. A byte is at most 255, so the first two fields are
bounded by their type. -/
structure Accepts (arguments : Kwargs) (o : DeviceOptions) : Prop where
  card : ∃ s, arguments "card" = some s ∧ Denotes s o.card.toNat
  topology : match arguments "topology" with
    | none => o.topology = none
    | some s => ∃ n : UInt8, o.topology = some n ∧ Denotes s n.toNat
  txBlockSize : match arguments "tx_block_size" with
    | none => o.txBlockSize = 16380
    | some s => Denotes s o.txBlockSize.toNat ∧ 1 ≤ o.txBlockSize.toNat ∧
        o.txBlockSize.toNat ≤ 65532 ∧ 256 ∣ o.txBlockSize.toNat + 4
  txBufferCount : match arguments "tx_buffer_count" with
    | none => o.txBufferCount = 30000
    | some s => Denotes s o.txBufferCount.toNat ∧ 1 ≤ o.txBufferCount.toNat ∧
        o.txBufferCount.toNat ≤ 30000
  clockSource : match arguments "clock_source" with
    | none => o.clockSource = none
    | some s => o.clockSource = some s ∧
        ∃ choice ∈ clockSources, equalsIgnoreCase s choice = true
  timeSource : match arguments "time_source" with
    | none => o.timeSource = none
    | some s => o.timeSource = some s ∧ ∃ choice ∈ timeSources, equalsIgnoreCase s choice = true

theorem parseCard_ok_iff {arguments : Kwargs} {n : UInt8} :
    parseCard arguments = .ok n ↔ ∃ s, arguments "card" = some s ∧ Denotes s n.toNat := by
  rw [parseCard]
  cases arguments "card" with
  | none => simp
  | some s =>
    simp only [Option.some.injEq, exists_eq_left', ← parseByte_iff "card"]
    cases parseUnsigned s "card" 255 <;> simp

theorem parseTopology_ok_iff {arguments : Kwargs} {topology : Option UInt8} :
    parseTopology arguments = .ok topology ↔ match arguments "topology" with
      | none => topology = none
      | some s => ∃ n : UInt8, topology = some n ∧ Denotes s n.toNat := by
  rw [parseTopology]
  cases arguments "topology" with
  | none => simp [eq_comm]
  | some s =>
    simp only [← parseByte_iff "topology"]
    cases parseUnsigned s "topology" 255 with
    | error e => simp
    | ok parsed => simp [eq_comm]

theorem parseTxBlockSize_ok_iff {arguments : Kwargs} {n : UInt32} :
    parseTxBlockSize arguments = .ok n ↔ match arguments "tx_block_size" with
      | none => n = 16380
      | some s => Denotes s n.toNat ∧ 1 ≤ n.toNat ∧ n.toNat ≤ 65532 ∧ 256 ∣ n.toNat + 4 := by
  rw [parseTxBlockSize]
  cases arguments "tx_block_size" with
  | none => simp [eq_comm, defaultTxBlockSize]
  | some s =>
    dsimp only
    have hlimit : maxTxBlockSize.toNat = 65532 := by decide
    have hzero : n = 0 ↔ n.toNat = 0 := UInt32.toNat_inj.symm
    have hmod (hle : n ≤ maxTxBlockSize) :
        (n + txHeaderWords) % txPacketIncrementWords = 0 ↔ 256 ∣ n.toNat + 4 := by
      have hle' : n.toNat ≤ 65532 := hlimit ▸ UInt32.le_iff_toNat_le.mp hle
      have hadd : (n + txHeaderWords).toNat = n.toNat + 4 := by
        rw [UInt32.toNat_add]
        exact Nat.mod_eq_of_lt (by simp [txHeaderWords]; omega)
      rw [← UInt32.toNat_inj, UInt32.toNat_mod, hadd, Nat.dvd_iff_mod_eq_zero]
      rfl
    constructor
    · intro h
      cases hparse : parseUnsigned s "tx_block_size" maxTxBlockSize with
      | error e =>
        rw [hparse] at h
        cases h
      | ok parsed =>
        rw [hparse] at h
        dsimp only at h
        split at h
        · cases h
        rename_i hpos
        split at h
        · cases h
        rename_i hmultiple
        cases h
        obtain ⟨hdenotes, hle⟩ := parseUnsigned_ok_iff.mp hparse
        refine ⟨hdenotes, ?_, hlimit ▸ UInt32.le_iff_toNat_le.mp hle,
          (hmod hle).mp (not_not.mp hmultiple)⟩
        exact Nat.pos_of_ne_zero (mt hzero.mpr hpos)
    · rintro ⟨hdenotes, hpos, hle, hmultiple⟩
      have hle' : n ≤ maxTxBlockSize := UInt32.le_iff_toNat_le.mpr (by omega)
      rw [parseUnsigned_ok_iff.mpr ⟨hdenotes, hle'⟩]
      dsimp only
      rw [if_neg (mt hzero.mp (by omega)), if_neg (not_not.mpr ((hmod hle').mpr hmultiple))]

theorem parseTxBufferCount_ok_iff {arguments : Kwargs} {n : UInt32} :
    parseTxBufferCount arguments = .ok n ↔ match arguments "tx_buffer_count" with
      | none => n = 30000
      | some s => Denotes s n.toNat ∧ 1 ≤ n.toNat ∧ n.toNat ≤ 30000 := by
  rw [parseTxBufferCount]
  cases arguments "tx_buffer_count" with
  | none => simp [eq_comm, defaultTxBufferCount]
  | some s =>
    dsimp only
    have hlimit : maxTxBufferCount.toNat = 30000 := by decide
    have hzero : n = 0 ↔ n.toNat = 0 := UInt32.toNat_inj.symm
    constructor
    · intro h
      cases hparse : parseUnsigned s "tx_buffer_count" maxTxBufferCount with
      | error e =>
        rw [hparse] at h
        cases h
      | ok parsed =>
        rw [hparse] at h
        dsimp only at h
        split at h
        · cases h
        rename_i hpos
        cases h
        obtain ⟨hdenotes, hle⟩ := parseUnsigned_ok_iff.mp hparse
        refine ⟨hdenotes, ?_, hlimit ▸ UInt32.le_iff_toNat_le.mp hle⟩
        exact Nat.pos_of_ne_zero (mt hzero.mpr hpos)
    · rintro ⟨hdenotes, hpos, hle⟩
      have hle' : n ≤ maxTxBufferCount := UInt32.le_iff_toNat_le.mpr (by omega)
      rw [parseUnsigned_ok_iff.mpr ⟨hdenotes, hle'⟩]
      dsimp only
      rw [if_neg (mt hzero.mp (by omega))]

theorem optionalSource_ok_iff {arguments : Kwargs} {key : String} {choices : List String}
    {source : Option String}
    (hlower : ∀ choice ∈ choices, choice.toList.map Char.toLower = choice.toList)
    (hnonempty : ∀ choice ∈ choices, choice.toList ≠ []) :
    optionalSource arguments key choices = .ok source ↔ match arguments key with
      | none => source = none
      | some s => source = some s ∧ ∃ choice ∈ choices, equalsIgnoreCase s choice = true := by
  cases hvalue : arguments key with
  | none =>
    rw [optionalSource, optionalString, hvalue]
    simp [eq_comm]
  | some s => exact optionalSource_some_iff hlower hnonempty hvalue
theorem exceptBind_ok_iff {ε α β : Type} {x : Except ε α} {f : α → Except ε β} {b : β} :
    (x >>= f) = .ok b ↔ ∃ a, x = .ok a ∧ f a = .ok b := by
  cases x with
  | error e => exact iff_of_false nofun fun ⟨_, h, _⟩ => nomatch h
  | ok a => simp [bind, Except.bind]

theorem parseDeviceOptions_ok_iff {arguments : Kwargs} {o : DeviceOptions} :
    parseDeviceOptions arguments = .ok o ↔ Accepts arguments o := by
  simp only [parseDeviceOptions, exceptBind_ok_iff, parseCard_ok_iff, parseTopology_ok_iff,
    parseTxBlockSize_ok_iff, parseTxBufferCount_ok_iff,
    optionalSource_ok_iff clockSources_lower clockSources_nonempty,
    optionalSource_ok_iff timeSources_lower timeSources_nonempty]
  constructor
  · rintro ⟨card, hcard, topology, htopology, size, hsize, count, hcount, clock, hclock, time, htime,
      hresult⟩
    cases hresult
    exact ⟨hcard, htopology, hsize, hcount, hclock, htime⟩
  · intro h
    exact ⟨_, h.card, _, h.topology, _, h.txBlockSize, _, h.txBufferCount, _, h.clockSource, _,
      h.timeSource, rfl⟩

/-- The keys that the parser looks up. -/
def optionKeys : List String :=
  ["card", "topology", "tx_block_size", "tx_buffer_count", "clock_source", "time_source"]

theorem parseDeviceOptions_congr {arguments other : Kwargs}
    (h : ∀ key ∈ optionKeys, other key = arguments key) :
    parseDeviceOptions other = parseDeviceOptions arguments := by
  have hkeys : other "card" = arguments "card" ∧ other "topology" = arguments "topology" ∧
      other "tx_block_size" = arguments "tx_block_size" ∧
      other "tx_buffer_count" = arguments "tx_buffer_count" ∧
      other "clock_source" = arguments "clock_source" ∧
      other "time_source" = arguments "time_source" := by
    refine ⟨h _ ?_, h _ ?_, h _ ?_, h _ ?_, h _ ?_, h _ ?_⟩ <;> simp [optionKeys]
  obtain ⟨hcard, htopology, hsize, hcount, hclock, htime⟩ := hkeys
  simp only [parseDeviceOptions, parseCard, parseTopology, parseTxBlockSize, parseTxBufferCount,
    optionalSource, optionalString, hcard, htopology, hsize, hcount, hclock, htime]

/-- The parser accepts its grammar and nothing else, with the values written; unknown keys have no
effect; and the checks of the source names agree with the setters that the constructor calls. -/
theorem device_options_grammar (arguments : Kwargs) :
    (∀ o, parseDeviceOptions arguments = .ok o ↔ Accepts arguments o) ∧
    (∀ other : Kwargs, (∀ key ∈ optionKeys, other key = arguments key) →
      parseDeviceOptions other = parseDeviceOptions arguments) ∧
    (∀ s, arguments "clock_source" = some s → ∀ rxBusy status,
      (∃ source, optionalSource arguments "clock_source" clockSources = .ok source) ↔
        setClockSource rxBusy status s ≠
          .error (.invalidArgument ("Unknown clock source: " ++ s))) ∧
    ∀ s, arguments "time_source" = some s → ∀ rxBusy status kernelFallback checkPps,
      (∃ source, optionalSource arguments "time_source" timeSources = .ok source) ↔
        setTimeSource rxBusy status kernelFallback checkPps s ≠
          .error (.invalidArgument ("Unknown time source: " ++ s)) := by
  refine ⟨fun o => parseDeviceOptions_ok_iff, fun other h => parseDeviceOptions_congr h,
    fun s hs rxBusy status => ?_, fun s hs rxBusy status kernelFallback checkPps => ?_⟩
  · simp only [optionalSource_some_iff clockSources_lower clockSources_nonempty hs, exists_eq_left,
      ne_eq, setClockSource_unknown_iff, not_not]
  · simp only [optionalSource_some_iff timeSources_lower timeSources_nonempty hs, exists_eq_left,
      ne_eq, setTimeSource_unknown_iff, not_not]

end SoapySidekiq
