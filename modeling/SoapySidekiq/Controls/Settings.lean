import SoapySidekiq.Exceptions
import SoapySidekiq.Names
import SoapySidekiq.Foundations.RegisterBank

/-! # Device settings

`writeSetting` of `Settings.cpp`. The data source of an RX handle is a register of the card behind
`skiq_write_rx_data_src`, which may fail with or without having taken effect. The counter setting
takes a snapshot of all mapped handles, writes them in order, and restores what it attempted when one
of the writes fails. -/
set_option autoImplicit false

namespace SoapySidekiq
open RegisterBank

/-! ## The settings and the SDK -/

/-- `skiq_data_src_t`, with the values that are neither. -/
inductive DataSource where
  | iq
  | counter
  | other (raw : ℤ)
deriving DecidableEq, Repr

/-- A write of the data source of one RX handle. -/
abbrev SourceWrite : Type := Sigma fun _ : UInt32 => DataSource

structure DeviceSettings where
  /-- The handles of the RX channels, of which two may be the same. -/
  rxHandles : List UInt32
  iqSwap : Bool
  counter : Bool
  timetype : String
  rfTimeSource : Bool
  /-- What `skiq_read_rx_data_src` reads and `skiq_write_rx_data_src` writes. -/
  sources : Bank UInt32 fun _ => DataSource

/-- What the SDK returns: a status for each read by channel, an outcome for each write by number. -/
structure SettingsSdk where
  writeIqOrder : ℤ
  readSource : ℕ → ℤ
  writeSource : ℕ → Outcome

/-! ## The counter setting -/

def parseSettingBool (key value : String) : Except Exception Bool :=
  if equalsIgnoreCase value "true" || value == "1" then .ok true
  else if equalsIgnoreCase value "false" || value == "0" then .ok false
  else .error (.invalidArgument ("Setting " ++ key ++ " requires true, false, 1, or 0"))

/-- The source that the counter setting asks for. -/
def requestedSource (requested : Bool) : DataSource := if requested then .counter else .iq

/-- The snapshot loop, from `channel` on: each handle with the source it has. -/
def snapshotSources (sdk : SettingsSdk) (source : UInt32 → DataSource) :
    ℕ → List UInt32 → Except Exception (List (UInt32 × DataSource))
  | _, [] => .ok []
  | channel, handle :: handles =>
    if sdk.readSource channel ≠ 0 then
      .error (.runtimeError ("skiq_read_rx_data_src failed on channel " ++ toString channel ++ ": " ++
        toString (sdk.readSource channel)))
    else if source handle ≠ .iq ∧ source handle ≠ .counter then
      .error (.runtimeError ("Invalid RX data source on channel " ++ toString channel))
    else
      match snapshotSources sdk source (channel + 1) handles with
      | .error e => .error e
      | .ok rest => .ok ((handle, source handle) :: rest)

/-- The compensation loop, which counts `attempted` down and keeps the first failure. -/
def rollbackSources (sdk : SettingsSdk) (snapshot : List (UInt32 × DataSource)) :
    ℕ → ℤ → (Bank UInt32 fun _ => DataSource) → ℤ × (Bank UInt32 fun _ => DataSource)
  | 0, rollbackStatus, sources => (rollbackStatus, sources)
  | attempted + 1, rollbackStatus, sources =>
    match snapshot[attempted]? with
    | none => rollbackSources sdk snapshot attempted rollbackStatus sources
    | some (handle, previous) =>
      let (restored, sources) := write sdk.writeSource handle previous sources
      rollbackSources sdk snapshot attempted
        (if restored ≠ 0 ∧ rollbackStatus = 0 then restored else rollbackStatus) sources

/-- The write loop from `channel` on, where the last list is what remains of the snapshot. -/
def writeSources (sdk : SettingsSdk) (source : DataSource) (snapshot : List (UInt32 × DataSource)) :
    ℕ → List (UInt32 × DataSource) → (Bank UInt32 fun _ => DataSource) →
      Except Exception Unit × (Bank UInt32 fun _ => DataSource)
  | _, [], sources => (.ok (), sources)
  | channel, (handle, _) :: rest, sources =>
    let (status, sources) := write sdk.writeSource handle source sources
    if status ≠ 0 then
      let (rollbackStatus, sources) := rollbackSources sdk snapshot (channel + 1) 0 sources
      (.error (.runtimeError ("skiq_write_rx_data_src failed on channel " ++ toString channel ++
        ": " ++ toString status ++
        if rollbackStatus ≠ 0 then
          "; RX data-source rollback failed: " ++ toString rollbackStatus
        else "")), sources)
    else writeSources sdk source snapshot (channel + 1) rest sources

def writeCounter (sdk : SettingsSdk) (d : DeviceSettings) (requested : Bool) :
    Except Exception Unit × DeviceSettings :=
  if d.rxHandles.length = 0 then
    (.error (.runtimeError "Counter setting requires an RX channel"), d)
  else
    match snapshotSources sdk d.sources.value 0 d.rxHandles with
    | .error e => (.error e, d)
    | .ok snapshot =>
      match writeSources sdk (requestedSource requested) snapshot 0 snapshot d.sources with
      | (.error e, sources) => (.error e, { d with sources := sources })
      | (.ok (), sources) => (.ok (), { d with sources := sources, counter := requested })

/-- `rxBusy` is the check of `RxStreamSession::configureInactive`. -/
def writeSetting (sdk : SettingsSdk) (rxBusy : Bool) (d : DeviceSettings) (key value : String) :
    Except Exception Unit × DeviceSettings :=
  if equalsIgnoreCase key "iq_swap" then
    match parseSettingBool key value with
    | .error e => (.error e, d)
    | .ok requested =>
      if sdk.writeIqOrder ≠ 0 then
        (.error (.runtimeError ("skiq_write_iq_order_mode failed: " ++ toString sdk.writeIqOrder)), d)
      else (.ok (), { d with iqSwap := requested })
  else if equalsIgnoreCase key "counter" then
    match parseSettingBool key value with
    | .error e => (.error e, d)
    | .ok requested => writeCounter sdk d requested
  else if equalsIgnoreCase key "timetype" then
    if value ≠ "rf_timestamp" ∧ value ≠ "sys_timestamp" then
      (.error (.invalidArgument ("Invalid timetype: " ++ value)), d)
    else if rxBusy then
      (.error (.logicError
        "Deactivate RX successfully before changing stream timing configuration"), d)
    else (.ok (), { d with timetype := value, rfTimeSource := value == "rf_timestamp" })
  else if equalsIgnoreCase key "sys_clock_freq" || equalsIgnoreCase key "full_scale" ||
      equalsIgnoreCase key "overload" || equalsIgnoreCase key "cal_offset" then
    (.error (.invalidArgument ("Read-only setting: " ++ key)), d)
  else (.error (.invalidArgument ("Unknown setting: " ++ key)), d)

/-! ## The snapshot -/

/-- Why a channel has no valid snapshot. -/
def UnreadableChannel (sdk : SettingsSdk) (d : DeviceSettings) (channel : ℕ) (handle : UInt32) :
    Prop :=
  sdk.readSource channel ≠ 0 ∨ (d.sources.value handle ≠ .iq ∧ d.sources.value handle ≠ .counter)

theorem snapshotSources_ok {sdk : SettingsSdk} {source : UInt32 → DataSource} {channel : ℕ}
    {handles : List UInt32} {snapshot : List (UInt32 × DataSource)}
    (h : snapshotSources sdk source channel handles = .ok snapshot) :
    snapshot = handles.map fun handle => (handle, source handle) := by
  induction handles generalizing channel snapshot with
  | nil =>
    simp only [snapshotSources, Except.ok.injEq] at h
    exact h.symm
  | cons handle handles ih =>
    rw [snapshotSources] at h
    split at h
    · cases h
    · split at h
      · cases h
      · split at h
        · cases h
        · rename_i rest hrest
          cases h
          rw [List.map_cons, ih hrest]

/-- The snapshot fails exactly when some channel cannot be read or has another source. -/
theorem snapshotSources_error_iff {sdk : SettingsSdk} {d : DeviceSettings} {channel : ℕ}
    {handles : List UInt32} :
    (∃ e, snapshotSources sdk d.sources.value channel handles = .error e) ↔
      ∃ i handle, handles[i]? = some handle ∧ UnreadableChannel sdk d (channel + i) handle := by
  induction handles generalizing channel with
  | nil => simp [snapshotSources]
  | cons first handles ih =>
    have hsplit : (∃ i handle, (first :: handles)[i]? = some handle ∧
        UnreadableChannel sdk d (channel + i) handle) ↔
        UnreadableChannel sdk d channel first ∨ ∃ i handle, handles[i]? = some handle ∧
          UnreadableChannel sdk d (channel + 1 + i) handle := by
      constructor
      · rintro ⟨i, handle, hi, hbad⟩
        cases i with
        | zero =>
          cases hi
          exact Or.inl hbad
        | succ i => exact Or.inr ⟨i, handle, hi, by rwa [Nat.add_assoc, Nat.add_comm 1 i]⟩
      · rintro (hbad | ⟨i, handle, hi, hbad⟩)
        · exact ⟨0, first, rfl, hbad⟩
        · exact ⟨i + 1, handle, hi, by rwa [Nat.add_assoc, Nat.add_comm 1 i] at hbad⟩
    rw [hsplit, ← ih, snapshotSources]
    by_cases hread : sdk.readSource channel ≠ 0
    · simp [hread, UnreadableChannel]
    by_cases hvalid : d.sources.value first ≠ .iq ∧ d.sources.value first ≠ .counter
    · rw [if_neg hread, if_pos hvalid]
      exact iff_of_true ⟨_, rfl⟩ (Or.inl (Or.inr hvalid))
    · have hgood : ¬ UnreadableChannel sdk d channel first := not_or.mpr ⟨hread, hvalid⟩
      rw [if_neg hread, if_neg hvalid, or_iff_right hgood]
      cases snapshotSources sdk d.sources.value (channel + 1) handles <;> simp
/-! ## The write loop -/

/-- The requests for the handles of `snapshot`, and the writes that put their old sources back, in the
order of the compensation loop. -/
def requests (source : DataSource) (snapshot : List (UInt32 × DataSource)) : List SourceWrite :=
  snapshot.map fun entry => ⟨entry.1, source⟩

def restores (snapshot : List (UInt32 × DataSource)) : List SourceWrite :=
  snapshot.reverse.map fun entry => ⟨entry.1, entry.2⟩

/-- The compensation loop restores the first `attempted` entries, the last of them first, whatever the
statuses are. -/
theorem rollbackSources_sources (sdk : SettingsSdk) (snapshot : List (UInt32 × DataSource))
    (attempted : ℕ) (rollbackStatus : ℤ) (sources : Bank UInt32 fun _ => DataSource) :
    (rollbackSources sdk snapshot attempted rollbackStatus sources).2 =
      writeAll sdk.writeSource (restores (snapshot.take attempted)) sources := by
  induction attempted generalizing rollbackStatus sources with
  | zero => rfl
  | succ attempted ih =>
    rw [rollbackSources, List.take_add_one]
    cases hentry : snapshot[attempted]? with
    | none => simpa using ih rollbackStatus sources
    | some entry =>
      simp only [restores, Option.toList_some, List.reverse_append, List.reverse_singleton,
        List.singleton_append, List.map_cons, writeAll]
      exact ih _ _

/-- How the write loop ends: every request has succeeded, or one has failed and everything up to it
is restored. -/
theorem writeSources_cases (sdk : SettingsSdk) (source : DataSource)
    (done rest : List (UInt32 × DataSource)) (sources : Bank UInt32 fun _ => DataSource) :
    ((writeSources sdk source (done ++ rest) done.length rest sources).1 = .ok () ∧
      (writeSources sdk source (done ++ rest) done.length rest sources).2 =
        writeAll sdk.writeSource (requests source rest) sources ∧
      Effective sdk.writeSource sources.writes.length (requests source rest)) ∨
    (∃ e, (writeSources sdk source (done ++ rest) done.length rest sources).1 = .error e) ∧
      ∃ k < rest.length, (writeSources sdk source (done ++ rest) done.length rest sources).2 =
        writeAll sdk.writeSource
          (requests source (rest.take (k + 1)) ++ restores (done ++ rest.take (k + 1))) sources := by
  induction rest generalizing done sources with
  | nil => exact Or.inl ⟨rfl, rfl, by simp [Effective, requests]⟩
  | cons entry rest ih =>
    obtain ⟨handle, previous⟩ := entry
    by_cases hstatus : (write sdk.writeSource handle source sources).1 = 0
    · -- the request succeeded: the loop continues with one more entry done
      have hloop : writeSources sdk source (done ++ (handle, previous) :: rest) done.length
          ((handle, previous) :: rest) sources =
          writeSources sdk source ((done ++ [(handle, previous)]) ++ rest)
            (done ++ [(handle, previous)]).length rest
            (write sdk.writeSource handle source sources).2 := by
        rw [writeSources]
        simp [hstatus]
      rw [hloop]
      rcases ih (done ++ [(handle, previous)]) (write sdk.writeSource handle source sources).2 with
        ⟨hok, hsources, heffective⟩ | ⟨herror, k, hk, hsources⟩
      · refine Or.inl ⟨hok, hsources, ?_⟩
        intro i hi
        cases i with
        | zero =>
          rw [write_status] at hstatus
          simp [Outcome.takesEffect, hstatus]
        | succ i =>
          have := heffective i (by simpa [requests] using hi)
          simpa [Nat.add_assoc, Nat.add_comm 1 i] using this
      · refine Or.inr ⟨herror, k + 1, by simpa using hk, hsources.trans ?_⟩
        simp [requests, writeAll]
    · -- the request failed: this entry and the ones before it are restored
      have htake : (done ++ (handle, previous) :: rest).take (done.length + 1) =
          done ++ [(handle, previous)] := by
        rw [List.take_append, List.take_of_length_le (by omega)]
        simp
      refine Or.inr ⟨?_, 0, by simp, ?_⟩
      · rw [writeSources]
        simp only [ne_eq, hstatus, not_false_eq_true, if_true]
        exact ⟨_, rfl⟩
      · rw [writeSources]
        simp only [ne_eq, hstatus, not_false_eq_true, if_true]
        rw [rollbackSources_sources, htake]
        simp [requests, writeAll]

/-! ## All or nothing -/

/-- Why the counter setting throws before its first write. -/
def CounterRefused (sdk : SettingsSdk) (d : DeviceSettings) (key value : String) : Prop :=
  (∃ e, parseSettingBool key value = .error e) ∨ d.rxHandles = [] ∨
    ∃ channel handle, d.rxHandles[channel]? = some handle ∧ UnreadableChannel sdk d channel handle

/-- The counter setting is all or nothing. `attempted` are the requests issued, of which the last has
failed, and `restoring` the writes issued after them. -/
def CounterChange (sdk : SettingsSdk) (d : DeviceSettings) (key value : String) :
    Except Exception Unit × DeviceSettings → Prop
  | (.ok (), d') => ¬ CounterRefused sdk d key value ∧
      ∃ requested, parseSettingBool key value = .ok requested ∧
        d' = { d with counter := requested, sources := d'.sources } ∧
        (∀ handle ∈ d.rxHandles, d'.sources.value handle = requestedSource requested) ∧
        ∀ handle, handle ∉ d.rxHandles → d'.sources.value handle = d.sources.value handle
  | (.error _, d') => d' = { d with sources := d'.sources } ∧
      (CounterRefused sdk d key value → d'.sources = d.sources) ∧
      (¬ CounterRefused sdk d key value → ∃ (k : ℕ) (attempted restoring : List SourceWrite),
        k < d.rxHandles.length ∧ attempted.map Sigma.fst = d.rxHandles.take (k + 1) ∧
        restoring.map Sigma.fst = (d.rxHandles.take (k + 1)).reverse ∧
        (∀ w ∈ restoring, w.2 = d.sources.value w.1) ∧
        d'.sources.writes = d.sources.writes ++ (attempted ++ restoring) ∧
        (Effective sdk.writeSource (d.sources.writes.length + attempted.length) restoring →
          d'.sources.value = d.sources.value))

/-- The snapshot pairs every mapped handle with the source that it has. -/
def snapshotOf (d : DeviceSettings) : List (UInt32 × DataSource) :=
  d.rxHandles.map fun handle => (handle, d.sources.value handle)

theorem requests_handles (source : DataSource) (d : DeviceSettings) (k : ℕ) :
    (requests source ((snapshotOf d).take k)).map Sigma.fst = d.rxHandles.take k := by
  rw [requests, snapshotOf, ← List.map_take, List.map_map, List.map_map]
  exact List.map_id _

theorem restores_handles (d : DeviceSettings) (k : ℕ) :
    (restores ((snapshotOf d).take k)).map Sigma.fst = (d.rxHandles.take k).reverse := by
  rw [restores, snapshotOf, ← List.map_take, ← List.map_reverse, List.map_map, List.map_map]
  exact List.map_id _

theorem restores_old (d : DeviceSettings) (k : ℕ) :
    ∀ w ∈ restores ((snapshotOf d).take k), w.2 = d.sources.value w.1 := by
  intro w hw
  rw [restores, List.mem_map] at hw
  obtain ⟨entry, hentry, rfl⟩ := hw
  have hmem := List.mem_of_mem_take (List.mem_reverse.mp hentry)
  obtain ⟨handle, -, rfl⟩ := List.mem_map.mp hmem
  rfl

theorem restores_cover (source : DataSource) (d : DeviceSettings) (k : ℕ) :
    ∀ w ∈ requests source ((snapshotOf d).take k),
      ∃ r ∈ restores ((snapshotOf d).take k), r.1 = w.1 := by
  intro w hw
  have hhandle : w.1 ∈ (restores ((snapshotOf d).take k)).map Sigma.fst := by
    rw [restores_handles, List.mem_reverse, ← requests_handles source d k]
    exact List.mem_map_of_mem hw
  obtain ⟨r, hr, hr1⟩ := List.mem_map.mp hhandle
  exact ⟨r, hr, hr1⟩

theorem requests_effective {source : DataSource} {sdk : SettingsSdk} {d : DeviceSettings}
    (heffective : Effective sdk.writeSource d.sources.writes.length (requests source (snapshotOf d)))
    (handle : UInt32) :
    (writeAll sdk.writeSource (requests source (snapshotOf d)) d.sources).value handle =
      if handle ∈ d.rxHandles then source else d.sources.value handle := by
  have hhandles : (requests source (snapshotOf d)).map Sigma.fst = d.rxHandles := by
    have htake := requests_handles source d d.rxHandles.length
    rwa [List.take_of_length_le (by simp [snapshotOf]), List.take_length] at htake
  refine writeAll_restores (fun j => if j ∈ d.rxHandles then source else d.sources.value j)
    ?_ heffective ?_
  · intro w hw
    have hmem : w.1 ∈ d.rxHandles := by
      rw [← hhandles]
      exact List.mem_map_of_mem hw
    rw [if_pos hmem]
    obtain ⟨entry, -, rfl⟩ := List.mem_map.mp hw
    rfl
  · by_cases hmem : handle ∈ d.rxHandles
    · rw [← hhandles, List.mem_map] at hmem
      exact Or.inr hmem
    · exact Or.inl (if_neg hmem).symm
theorem writeCounter_change (sdk : SettingsSdk) (d : DeviceSettings) {key value : String}
    {requested : Bool} (hparse : parseSettingBool key value = .ok requested) :
    CounterChange sdk d key value (writeCounter sdk d requested) := by
  have hnoparse : ¬ ∃ e, parseSettingBool key value = .error e := by
    rintro ⟨e, he⟩
    rw [hparse] at he
    cases he
  have hrefused : CounterRefused sdk d key value ↔ d.rxHandles = [] ∨
      ∃ e, snapshotSources sdk d.sources.value 0 d.rxHandles = .error e := by
    rw [snapshotSources_error_iff, CounterRefused, or_iff_right hnoparse]
    simp only [Nat.zero_add]
  unfold writeCounter
  by_cases hnone : d.rxHandles = []
  · rw [if_pos (by rw [hnone]; rfl)]
    exact ⟨rfl, fun _ => rfl, fun h => absurd (hrefused.mpr (Or.inl hnone)) h⟩
  rw [if_neg (by simpa using hnone)]
  cases hsnapshot : snapshotSources sdk d.sources.value 0 d.rxHandles with
  | error e =>
    exact ⟨rfl, fun _ => rfl, fun h => absurd (hrefused.mpr (Or.inr ⟨e, hsnapshot⟩)) h⟩
  | ok snapshot =>
    have hgood : ¬ CounterRefused sdk d key value := by
      rw [hrefused, hsnapshot]
      rintro (h | ⟨e, he⟩)
      · exact hnone h
      · cases he
    have heq : snapshot = snapshotOf d := snapshotSources_ok hsnapshot
    subst heq
    dsimp only
    have hcases := writeSources_cases sdk (requestedSource requested) [] (snapshotOf d) d.sources
    simp only [List.nil_append, List.length_nil] at hcases
    cases hloop : writeSources sdk (requestedSource requested) (snapshotOf d) 0 (snapshotOf d)
      d.sources with
    | mk result sources =>
      rw [hloop] at hcases
      rcases hcases with ⟨rfl, rfl, heffective⟩ | ⟨⟨e, rfl⟩, k, hk, rfl⟩
      · have hvalue := requests_effective heffective
        refine ⟨hgood, requested, hparse, rfl, fun handle hmem => ?_, fun handle hmem => ?_⟩
        · exact (hvalue handle).trans (if_pos hmem)
        · exact (hvalue handle).trans (if_neg hmem)
      · refine ⟨rfl, fun h => absurd h hgood, fun _ => ⟨k, _, _, ?_, requests_handles _ d (k + 1),
          restores_handles d (k + 1), restores_old d (k + 1), writeAll_writes _ _ _, ?_⟩⟩
        · simpa [snapshotOf] using hk
        · exact compensated (restores_old d (k + 1)) (restores_cover _ d (k + 1))

/-- Every request for the counter setting, in whatever case the key is written. -/
theorem counter_setting_all_or_nothing (sdk : SettingsSdk) (rxBusy : Bool) (d : DeviceSettings)
    (key value : String) (hkey : equalsIgnoreCase key "counter" = true) :
    CounterChange sdk d key value (writeSetting sdk rxBusy d key value) := by
  have hswap : equalsIgnoreCase key "iq_swap" = false := by
    rw [equalsIgnoreCase_of_match hkey]
    decide
  rw [writeSetting, hswap, hkey]
  simp only [Bool.false_eq_true, if_false, if_true]
  cases hparse : parseSettingBool key value with
  | error e =>
    exact ⟨rfl, fun _ => rfl, fun h => absurd (Or.inl ⟨e, hparse⟩) h⟩
  | ok requested => exact writeCounter_change sdk d hparse

/-- Three channels over two handles with different sources. -/
def mixedSources : DeviceSettings where
  rxHandles := [0, 1, 0]
  iqSwap := false
  counter := false
  timetype := "rf_timestamp"
  rfTimeSource := true
  sources := { value := fun handle => if handle = 1 then .counter else .iq, writes := [] }

/-- The second write fails after it has taken effect, and the first restoring write fails too. -/
def partialSourceWrites : SettingsSdk where
  writeIqOrder := 0
  readSource := fun _ => 0
  writeSource := fun n => if n = 1 then ⟨-5, true⟩ else if n = 2 then ⟨-6, true⟩ else ⟨0, true⟩

theorem counter_setting_all_or_nothing_partial :
    equalsIgnoreCase "Counter" "counter" = true ∧
      CounterChange partialSourceWrites mixedSources "Counter" "1"
        (writeSetting partialSourceWrites false mixedSources "Counter" "1") :=
  ⟨by decide, counter_setting_all_or_nothing _ _ _ _ _ (by decide)⟩

example : (writeSetting partialSourceWrites false mixedSources "Counter" "1").2.sources.writes =
    [⟨0, .counter⟩, ⟨1, .counter⟩, ⟨1, .counter⟩, ⟨0, .iq⟩] := by decide

end SoapySidekiq
