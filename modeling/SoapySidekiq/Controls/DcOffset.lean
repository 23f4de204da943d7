import SoapySidekiq.Controls.Channels
import SoapySidekiq.Foundations.RegisterBank

/-! # DC-offset correction

`hasDCOffsetMode`, `setDCOffsetMode` and `getDCOffsetMode` of `RFControls.cpp`. Every RX handle has a
mask of selected calibrations, of which the DC offset is one bit, and a calibration mode shared by all
of them. -/
set_option autoImplicit false

namespace SoapySidekiq
open RegisterBank

/-! ## Calibration registers -/

/-- `skiq_rx_cal_mode_t`, with the values that are neither. -/
inductive CalMode where
  | auto
  | manual
  | other (raw : ℤ)
deriving DecidableEq, Repr

inductive CalRegister where
  | mask (handle : UInt32)
  | mode (handle : UInt32)
deriving DecidableEq, Repr

abbrev CalRegister.Value : CalRegister → Type
  | .mask _ => UInt32
  | .mode _ => CalMode

abbrev Calibrations : Type := Bank CalRegister CalRegister.Value

abbrev CalWrite : Type := Sigma CalRegister.Value

def Calibrations.mask (b : Calibrations) (handle : UInt32) : UInt32 := b.value (.mask handle)

def Calibrations.mode (b : Calibrations) (handle : UInt32) : CalMode := b.value (.mode handle)

/-- The SDK: the DC bit, the calibrations that a handle has, and the outcome of each write. -/
structure CalibrationSdk where
  /-- `skiq_rx_cal_type_dc_offset`. -/
  dcOffset : UInt32
  dcOffset_ne_zero : dcOffset ≠ 0
  available : UInt32 → UInt32
  write : ℕ → Outcome

/-- The statuses of the reads of one call. -/
structure CalReads where
  available : ℤ
  mask : ℤ
  mode : ℤ

/-! ## The calls -/

namespace Channels

/-- The card, channel and handle at the end of a message. -/
def calContext (c : Channels) (channel : ℕ) (handle : UInt32) : String :=
  " (card " ++ toString c.card ++ ", channel " ++ toString channel ++ ", handle " ++
    toString handle ++ ")"

def hasDCOffsetMode (c : Channels) (sdk : CalibrationSdk) (reads : CalReads) (direction : ℤ)
    (channel : ℕ) : Except Exception Bool :=
  match c.validateChannel direction channel with
  | .error e => .error e
  | .ok () =>
    if direction = soapyTx then .ok false
    else
      match c.getRxHandle channel with
      | .error e => .error e
      | .ok handle =>
        if reads.available ≠ 0 then
          .error (.runtimeError ("skiq_read_rx_cal_types_avail failed (card " ++ toString c.card ++
            ", channel " ++ toString channel ++ ", handle " ++ toString handle ++ ", status " ++
            toString reads.available ++ ")"))
        else .ok (sdk.available handle &&& sdk.dcOffset != 0)

/-- The mask write of `setDCOffsetMode`, with its compensation. -/
def writeDcMask (c : Channels) (sdk : CalibrationSdk) (channel : ℕ) (handle original desired : UInt32)
    (b : Calibrations) : Except Exception Unit × Calibrations :=
  if desired = original then (.ok (), b)
  else
    let (status, b) := write sdk.write (.mask handle) desired b
    if status ≠ 0 then
      let (restore, b) := write sdk.write (.mask handle) original b
      (.error (.runtimeError ("skiq_write_rx_cal_type_mask" ++ c.calContext channel handle ++
        " failed, status " ++ toString status ++ "; rollback mask status " ++ toString restore)), b)
    else (.ok (), b)

/-- The mode write of `setDCOffsetMode`, with its compensation of both registers. -/
def writeDcMode (c : Channels) (sdk : CalibrationSdk) (channel : ℕ) (handle original desired : UInt32)
    (originalMode : CalMode) (b : Calibrations) : Except Exception Unit × Calibrations :=
  let (status, b) := write sdk.write (.mode handle) (CalMode.auto : CalMode) b
  if status ≠ 0 then
    let (modeRestore, b) := write sdk.write (.mode handle) originalMode b
    let (maskRestore, b) :=
      if desired = original then (0, b) else write sdk.write (.mask handle) original b
    (.error (.runtimeError ("skiq_write_rx_cal_mode" ++ c.calContext channel handle ++
      " failed, status " ++ toString status ++ "; rollback mode status " ++ toString modeRestore ++
      ", mask status " ++ toString maskRestore)), b)
  else (.ok (), b)

/-- The body of `setDCOffsetMode` for an available feature. -/
def changeDcOffset (c : Channels) (sdk : CalibrationSdk) (reads : CalReads) (channel : ℕ)
    (handle : UInt32) (automatic : Bool) (b : Calibrations) : Except Exception Unit × Calibrations :=
  if reads.mask ≠ 0 then
    (.error (.runtimeError ("skiq_read_rx_cal_type_mask" ++ c.calContext channel handle ++
      " failed, status " ++ toString reads.mask)), b)
  else
    let original := b.mask handle
    let desired := if automatic then original ||| sdk.dcOffset else original &&& ~~~sdk.dcOffset
    if automatic && reads.mode != 0 then
      (.error (.runtimeError ("skiq_read_rx_cal_mode" ++ c.calContext channel handle ++
        " failed, status " ++ toString reads.mode)), b)
    else
      let originalMode := if automatic then b.mode handle else .manual
      if originalMode ≠ .manual ∧ originalMode ≠ .auto then
        (.error (.runtimeError ("unsupported RX calibration mode" ++ c.calContext channel handle)), b)
      else
        match c.writeDcMask sdk channel handle original desired b with
        | (.error e, b) => (.error e, b)
        | (.ok (), b) =>
          if !automatic || originalMode == .auto then (.ok (), b)
          else c.writeDcMode sdk channel handle original desired originalMode b

def setDCOffsetMode (c : Channels) (sdk : CalibrationSdk) (reads : CalReads) (direction : ℤ)
    (channel : ℕ) (automatic : Bool) (b : Calibrations) : Except Exception Unit × Calibrations :=
  match c.validateChannel direction channel with
  | .error e => (.error e, b)
  | .ok () =>
    match c.hasDCOffsetMode sdk reads direction channel with
    | .error e => (.error e, b)
    | .ok false =>
      if automatic then
        (.error (.invalidArgument ("automatic DC-offset correction is unavailable (card " ++
          toString c.card ++ ", direction " ++ toString direction ++ ", channel " ++
          toString channel ++ ")")), b)
      else (.ok (), b)
    | .ok true =>
      match c.getRxHandle channel with
      | .error e => (.error e, b)
      | .ok handle => c.changeDcOffset sdk reads channel handle automatic b

def getDCOffsetMode (c : Channels) (sdk : CalibrationSdk) (reads : CalReads) (direction : ℤ)
    (channel : ℕ) (b : Calibrations) : Except Exception Bool :=
  match c.validateChannel direction channel with
  | .error e => .error e
  | .ok () =>
    match c.hasDCOffsetMode sdk reads direction channel with
    | .error e => .error e
    | .ok false => .ok false
    | .ok true =>
      match c.getRxHandle channel with
      | .error e => .error e
      | .ok handle =>
        if reads.mask ≠ 0 then
          .error (.runtimeError ("skiq_read_rx_cal_type_mask" ++ c.calContext channel handle ++
            " failed, status " ++ toString reads.mask))
        else if b.mask handle &&& sdk.dcOffset = 0 then .ok false
        else if reads.mode ≠ 0 then
          .error (.runtimeError ("skiq_read_rx_cal_mode" ++ c.calContext channel handle ++
            " failed, status " ++ toString reads.mode))
        else if b.mode handle ≠ .auto ∧ b.mode handle ≠ .manual then
          .error (.runtimeError ("unsupported RX calibration mode" ++ c.calContext channel handle))
        else .ok (b.mode handle == .auto)

end Channels
/-! ## The DC bit -/

theorem uint32_or_and_not (m d : UInt32) : (m ||| d) &&& ~~~d = m &&& ~~~d := by
  apply UInt32.toBitVec_inj.mp
  ext i hi
  simp only [UInt32.toBitVec_and, UInt32.toBitVec_or, UInt32.toBitVec_not, BitVec.getElem_and,
    BitVec.getElem_or, BitVec.getElem_not]
  cases m.toBitVec[i] <;> cases d.toBitVec[i] <;> rfl

theorem uint32_or_and_self (m d : UInt32) : (m ||| d) &&& d = d := by
  apply UInt32.toBitVec_inj.mp
  ext i hi
  simp only [UInt32.toBitVec_and, UInt32.toBitVec_or, BitVec.getElem_and, BitVec.getElem_or]
  cases m.toBitVec[i] <;> cases d.toBitVec[i] <;> rfl

theorem uint32_and_not_and_self (m d : UInt32) : (m &&& ~~~d) &&& d = 0 := by
  apply UInt32.toBitVec_inj.mp
  ext i hi
  simp only [UInt32.toBitVec_and, UInt32.toBitVec_not, BitVec.getElem_and, BitVec.getElem_not]
  cases m.toBitVec[i] <;> cases d.toBitVec[i] <;> simp

/-- The mask that `setDCOffsetMode` asks for. -/
def desiredMask (sdk : CalibrationSdk) (automatic : Bool) (original : UInt32) : UInt32 :=
  if automatic then original ||| sdk.dcOffset else original &&& ~~~sdk.dcOffset

theorem desiredMask_other (sdk : CalibrationSdk) (automatic : Bool) (original : UInt32) :
    desiredMask sdk automatic original &&& ~~~sdk.dcOffset = original &&& ~~~sdk.dcOffset := by
  cases automatic with
  | true => exact uint32_or_and_not original sdk.dcOffset
  | false =>
    show (original &&& ~~~sdk.dcOffset) &&& ~~~sdk.dcOffset = _
    rw [UInt32.and_assoc, UInt32.and_self]

theorem desiredMask_bit (sdk : CalibrationSdk) (automatic : Bool) (original : UInt32) :
    desiredMask sdk automatic original &&& sdk.dcOffset = if automatic then sdk.dcOffset else 0 := by
  cases automatic with
  | true => exact uint32_or_and_self original sdk.dcOffset
  | false => exact uint32_and_not_and_self original sdk.dcOffset

/-! ## The writes of one change -/

/-- The mask write, which is left out when the mask stays as it is. -/
def maskWrites (handle original desired : UInt32) : List CalWrite :=
  if desired = original then [] else [⟨.mask handle, desired⟩]

/-- The mode write, which is left out when the mode is not to change. -/
def modeWrites (handle : UInt32) (automatic : Bool) (originalMode : CalMode) : List CalWrite :=
  if !automatic || originalMode == .auto then [] else [⟨.mode handle, (CalMode.auto : CalMode)⟩]

/-- The writes of a change that succeeds. -/
def changeWrites (sdk : CalibrationSdk) (handle : UInt32) (automatic : Bool) (b : Calibrations) :
    List CalWrite :=
  maskWrites handle (b.mask handle) (desiredMask sdk automatic (b.mask handle)) ++
    modeWrites handle automatic (b.mode handle)

/-- How a change fails: `attempted` has succeeded, `failed` has not, and `restoring` are the writes
issued after it. -/
def FailedChange (sdk : CalibrationSdk) (b b' : Calibrations) : Prop :=
  ∃ (attempted : List CalWrite) (failed : CalWrite) (restoring : List CalWrite),
    Succeeded sdk.write b.writes.length attempted ∧
    (sdk.write (b.writes.length + attempted.length)).status ≠ 0 ∧
    b'.writes = b.writes ++ (attempted ++ failed :: restoring) ∧
    (Effective sdk.write (b.writes.length + (attempted.length + 1)) restoring → b'.value = b.value)

theorem FailedChange.intro {sdk : CalibrationSdk} {b : Calibrations} {attempted : List CalWrite}
    (failed : CalWrite) (restoring : List CalWrite)
    (hattempted : Succeeded sdk.write b.writes.length attempted)
    (hfailed : (sdk.write (b.writes.length + attempted.length)).status ≠ 0)
    (hold : ∀ w ∈ restoring, w.2 = b.value w.1)
    (hcover : ∀ w ∈ attempted ++ [failed], ∃ r ∈ restoring, r.1 = w.1) :
    FailedChange sdk b (writeAll sdk.write (attempted ++ failed :: restoring) b) := by
  refine ⟨attempted, failed, restoring, hattempted, hfailed, writeAll_writes _ _ _, fun h => ?_⟩
  rw [List.append_cons]
  exact compensated hold hcover (by simpa using h)

namespace Channels

theorem writeDcMask_cases (c : Channels) (sdk : CalibrationSdk) (channel : ℕ)
    (handle desired : UInt32) (b : Calibrations) :
    (c.writeDcMask sdk channel handle (b.mask handle) desired b =
        (.ok (), writeAll sdk.write (maskWrites handle (b.mask handle) desired) b) ∧
      Succeeded sdk.write b.writes.length (maskWrites handle (b.mask handle) desired)) ∨
    (∃ e, (c.writeDcMask sdk channel handle (b.mask handle) desired b).1 = .error e) ∧
      FailedChange sdk b (c.writeDcMask sdk channel handle (b.mask handle) desired b).2 := by
  by_cases hsame : desired = b.mask handle
  · refine Or.inl ?_
    simp [writeDcMask, maskWrites, hsame, writeAll]
  · by_cases hstatus : (write sdk.write (.mask handle) desired b).1 = 0
    · refine Or.inl ⟨?_, ?_⟩
      · simp only [writeDcMask, maskWrites, hsame, if_false, hstatus, ne_eq, not_true_eq_false,
          writeAll]
      · rw [maskWrites, if_neg hsame, succeeded_singleton]
        exact hstatus
    · simp only [writeDcMask, hsame, if_false, hstatus, ne_eq, not_false_eq_true, if_true]
      refine Or.inr ⟨⟨_, rfl⟩, ?_⟩
      refine FailedChange.intro ⟨.mask handle, desired⟩ [⟨.mask handle, b.mask handle⟩]
        (succeeded_nil _ _) hstatus ?_ ?_
      · intro w hw
        rw [List.mem_singleton.mp hw]
        rfl
      · intro w hw
        rw [List.nil_append, List.mem_singleton] at hw
        exact ⟨_, List.mem_singleton_self _, by rw [hw]⟩

end Channels
namespace Channels

/-- The mode write comes after a successful mask write, and its compensation covers both registers. -/
theorem writeDcMode_cases (c : Channels) (sdk : CalibrationSdk) (channel : ℕ)
    (handle desired : UInt32) (b b₁ : Calibrations)
    (hb₁ : b₁ = writeAll sdk.write (maskWrites handle (b.mask handle) desired) b)
    (hmask : Succeeded sdk.write b.writes.length (maskWrites handle (b.mask handle) desired)) :
    (c.writeDcMode sdk channel handle (b.mask handle) desired (b.mode handle) b₁ =
        (.ok (), writeAll sdk.write
          (maskWrites handle (b.mask handle) desired ++ [⟨.mode handle, (CalMode.auto : CalMode)⟩])
          b) ∧
      Succeeded sdk.write b.writes.length
        (maskWrites handle (b.mask handle) desired ++
          [⟨.mode handle, (CalMode.auto : CalMode)⟩])) ∨
    (∃ e, (c.writeDcMode sdk channel handle (b.mask handle) desired (b.mode handle) b₁).1 =
        .error e) ∧
      FailedChange sdk b
        (c.writeDcMode sdk channel handle (b.mask handle) desired (b.mode handle) b₁).2 := by
  have hnumber : b₁.writes.length =
      b.writes.length + (maskWrites handle (b.mask handle) desired).length := by
    rw [hb₁, writeAll_writes, List.length_append]
  by_cases hstatus : (write sdk.write (.mode handle) (CalMode.auto : CalMode) b₁).1 = 0
  · refine Or.inl ⟨?_, ?_⟩
    · simp only [writeDcMode, hstatus, ne_eq, not_true_eq_false, if_false]
      rw [writeAll_append, ← hb₁]
      rfl
    · rw [succeeded_append, succeeded_singleton, ← hnumber]
      exact ⟨hmask, hstatus⟩
  · simp only [writeDcMode, hstatus, ne_eq, not_false_eq_true, if_true]
    refine Or.inr ⟨⟨_, rfl⟩, ?_⟩
    have hstatus : (sdk.write (b.writes.length +
        (maskWrites handle (b.mask handle) desired).length)).status ≠ 0 := by
      rw [← hnumber]
      exact hstatus
    by_cases hsame : desired = b.mask handle
    · have hnone : maskWrites handle (b.mask handle) desired = [] := by rw [maskWrites, if_pos hsame]
      rw [hnone] at hb₁ hmask hstatus
      rw [if_pos hsame, hb₁]
      refine FailedChange.intro ⟨.mode handle, (CalMode.auto : CalMode)⟩
        [⟨.mode handle, b.mode handle⟩] hmask hstatus ?_ ?_
      · intro w hw
        rw [List.mem_singleton.mp hw]
        rfl
      · intro w hw
        rw [List.nil_append, List.mem_singleton] at hw
        exact ⟨_, List.mem_singleton_self _, by rw [hw]⟩
    · have hone : maskWrites handle (b.mask handle) desired = [⟨.mask handle, desired⟩] := by
        rw [maskWrites, if_neg hsame]
      rw [hone] at hb₁ hmask hstatus
      rw [if_neg hsame, hb₁]
      refine FailedChange.intro ⟨.mode handle, (CalMode.auto : CalMode)⟩
        [⟨.mode handle, b.mode handle⟩, ⟨.mask handle, b.mask handle⟩]
        hmask hstatus ?_ ?_
      · intro w hw
        simp only [List.mem_cons, List.not_mem_nil, or_false] at hw
        rcases hw with rfl | rfl <;> rfl
      · intro w hw
        simp only [List.singleton_append, List.mem_cons, List.not_mem_nil, or_false] at hw
        rcases hw with rfl | rfl
        · exact ⟨_, List.mem_cons_of_mem _ List.mem_cons_self, rfl⟩
        · exact ⟨_, List.mem_cons_self, rfl⟩

/-- Why `setDCOffsetMode` throws before its first write, once the channel has the feature. -/
def Unreadable (reads : CalReads) (automatic : Bool) (mode : CalMode) : Prop :=
  reads.mask ≠ 0 ∨ automatic = true ∧ (reads.mode ≠ 0 ∨ mode ≠ .manual ∧ mode ≠ .auto)

theorem changeDcOffset_unreadable (c : Channels) (sdk : CalibrationSdk) {reads : CalReads}
    (channel : ℕ) {handle : UInt32} {automatic : Bool} {b : Calibrations}
    (h : Unreadable reads automatic (b.mode handle)) :
    ∃ e, c.changeDcOffset sdk reads channel handle automatic b = (.error e, b) := by
  rw [changeDcOffset]
  by_cases hmask : reads.mask ≠ 0
  · rw [if_pos hmask]
    exact ⟨_, rfl⟩
  obtain ⟨rfl, hmode⟩ := h.resolve_left hmask
  rw [if_neg hmask]
  dsimp only
  by_cases hread : reads.mode ≠ 0
  · rw [if_pos (by simpa using hread)]
    exact ⟨_, rfl⟩
  · rw [if_neg (by simpa using hread), if_pos rfl, if_pos (hmode.resolve_left hread)]
    exact ⟨_, rfl⟩

theorem changeDcOffset_cases (c : Channels) (sdk : CalibrationSdk) {reads : CalReads} (channel : ℕ)
    {handle : UInt32} {automatic : Bool} {b : Calibrations}
    (h : ¬ Unreadable reads automatic (b.mode handle)) :
    (c.changeDcOffset sdk reads channel handle automatic b =
        (.ok (), writeAll sdk.write (changeWrites sdk handle automatic b) b) ∧
      Succeeded sdk.write b.writes.length (changeWrites sdk handle automatic b)) ∨
    (∃ e, (c.changeDcOffset sdk reads channel handle automatic b).1 = .error e) ∧
      FailedChange sdk b (c.changeDcOffset sdk reads channel handle automatic b).2 := by
  obtain ⟨hmaskRead, hmodeRead⟩ := not_or.mp h
  have hread : ¬ (automatic && reads.mode != 0) = true := by
    intro hboth
    rw [Bool.and_eq_true, bne_iff_ne] at hboth
    exact hmodeRead ⟨hboth.1, Or.inl hboth.2⟩
  have hsupported : ¬ ((if automatic = true then b.mode handle else CalMode.manual) ≠ .manual ∧
      (if automatic = true then b.mode handle else CalMode.manual) ≠ .auto) := by
    cases automatic with
    | true => exact fun hmode => hmodeRead ⟨rfl, Or.inr hmode⟩
    | false => simp
  rw [changeDcOffset, if_neg hmaskRead]
  dsimp only
  rw [if_neg hread, if_neg hsupported, ← desiredMask]
  have hfirst := c.writeDcMask_cases sdk channel handle
    (desiredMask sdk automatic (b.mask handle)) b
  generalize c.writeDcMask sdk channel handle (b.mask handle)
    (desiredMask sdk automatic (b.mask handle)) b = first at hfirst ⊢
  rcases hfirst with ⟨rfl, hmask⟩ | ⟨⟨e, he⟩, hfailed⟩
  · dsimp only
    by_cases hdone : (!automatic ||
        (if automatic = true then b.mode handle else CalMode.manual) == .auto) = true
    · -- the shared mode stays as it is
      rw [if_pos hdone]
      have hnone : modeWrites handle automatic (b.mode handle) = [] := by
        rw [modeWrites, if_pos]
        cases automatic <;> simp_all
      rw [changeWrites, hnone, List.append_nil]
      exact Or.inl ⟨rfl, hmask⟩
    · rw [if_neg hdone]
      obtain ⟨rfl, hmanual⟩ : automatic = true ∧ b.mode handle ≠ .auto := by
        cases automatic <;> simp_all
      have hone : modeWrites handle true (b.mode handle) =
          [⟨.mode handle, (CalMode.auto : CalMode)⟩] := by
        rw [modeWrites, if_neg (by simpa using hmanual)]
      rw [changeWrites, hone]
      exact c.writeDcMode_cases sdk channel handle _ b _ rfl hmask
  · obtain ⟨result, b'⟩ := first
    subst he
    exact Or.inr ⟨⟨e, rfl⟩, hfailed⟩

end Channels
/-! ## After a change -/

/-- The registers that a successful change leaves: only the two of its handle can differ. -/
def changedRegisters (sdk : CalibrationSdk) (handle : UInt32) (automatic : Bool) (b : Calibrations) :
    (r : CalRegister) → r.Value :=
  Function.update
    (Function.update b.value (.mask handle) (desiredMask sdk automatic (b.mask handle)))
    (.mode handle) (if automatic then (CalMode.auto : CalMode) else b.mode handle)

theorem changedRegisters_mask (sdk : CalibrationSdk) (handle : UInt32) (automatic : Bool)
    (b : Calibrations) : changedRegisters sdk handle automatic b (.mask handle) =
      desiredMask sdk automatic (b.mask handle) := by
  rw [changedRegisters, Function.update_of_ne (by simp), Function.update_self]

theorem changedRegisters_mode (sdk : CalibrationSdk) (handle : UInt32) (automatic : Bool)
    (b : Calibrations) : changedRegisters sdk handle automatic b (.mode handle) =
      if automatic then CalMode.auto else b.mode handle := by
  rw [changedRegisters, Function.update_self]

theorem changedRegisters_other {sdk : CalibrationSdk} {handle : UInt32} {automatic : Bool}
    {b : Calibrations} {r : CalRegister} (hmask : r ≠ .mask handle) (hmode : r ≠ .mode handle) :
    changedRegisters sdk handle automatic b r = b.value r := by
  rw [changedRegisters, Function.update_of_ne hmode, Function.update_of_ne hmask]

theorem changeWrites_value {sdk : CalibrationSdk} {handle : UInt32} {automatic : Bool}
    {b : Calibrations}
    (h : Succeeded sdk.write b.writes.length (changeWrites sdk handle automatic b)) :
    (writeAll sdk.write (changeWrites sdk handle automatic b) b).value =
      changedRegisters sdk handle automatic b := by
  funext r
  refine writeAll_restores _ ?_ h.effective ?_
  · intro w hw
    rcases List.mem_append.mp hw with hw | hw
    · rw [maskWrites] at hw
      split at hw
      · cases hw
      · rw [List.mem_singleton.mp hw]
        exact (changedRegisters_mask sdk handle automatic b).symm
    · rw [modeWrites] at hw
      split at hw
      · cases hw
      · rename_i hauto
        have hauto : automatic = true := by
          cases automatic <;> simp_all
        rw [List.mem_singleton.mp hw, changedRegisters_mode, if_pos hauto]
  · -- a register that is not written has its new value already
    by_cases hmode : r = .mode handle
    · subst hmode
      by_cases hskip : (!automatic || b.mode handle == .auto) = true
      · left
        rw [changedRegisters_mode]
        cases automatic with
        | false => rfl
        | true => exact (by simpa using hskip : b.mode handle = .auto)
      · right
        refine ⟨⟨.mode handle, (CalMode.auto : CalMode)⟩, List.mem_append_right _ ?_, rfl⟩
        rw [modeWrites, if_neg hskip]
        exact List.mem_cons_self
    by_cases hmask : r = .mask handle
    · subst hmask
      by_cases hsame : desiredMask sdk automatic (b.mask handle) = b.mask handle
      · left
        rw [changedRegisters_mask, hsame]
        rfl
      · right
        refine ⟨⟨.mask handle, desiredMask sdk automatic (b.mask handle)⟩,
          List.mem_append_left _ ?_, rfl⟩
        rw [maskWrites, if_neg hsame]
        exact List.mem_cons_self
    · exact Or.inl (changedRegisters_other hmask hmode).symm

namespace Channels

theorem hasDCOffsetMode_rx {c : Channels} {sdk : CalibrationSdk} {reads : CalReads} {channel : ℕ}
    (hchannel : channel < c.rxHandles.length) (hread : reads.available = 0) :
    c.hasDCOffsetMode sdk reads soapyRx channel =
      .ok (sdk.available (c.rxHandles.getD channel 0) &&& sdk.dcOffset != 0) := by
  have hvalid := validateChannel_rx.mpr hchannel
  rw [hasDCOffsetMode, hvalid]
  dsimp only
  rw [if_neg (by decide : ¬ soapyRx = soapyTx), getRxHandle_of_valid hvalid]
  simp only [hread, ne_eq, not_true_eq_false, if_false]

/-- The mode that reads back once the registers have changed. -/
theorem getDCOffsetMode_changed {c : Channels} {sdk : CalibrationSdk} {reads : CalReads}
    {channel : ℕ} {automatic : Bool} {b b' : Calibrations}
    (hchannel : channel < c.rxHandles.length)
    (havailable : (sdk.available (c.rxHandles.getD channel 0) &&& sdk.dcOffset != 0) = true)
    (hreads : reads = ⟨0, 0, 0⟩)
    (hvalue : b'.value = changedRegisters sdk (c.rxHandles.getD channel 0) automatic b) :
    c.getDCOffsetMode sdk reads soapyRx channel b' = .ok automatic := by
  have hvalid := validateChannel_rx.mpr hchannel
  have hmask : b'.mask (c.rxHandles.getD channel 0) =
      desiredMask sdk automatic (b.mask (c.rxHandles.getD channel 0)) := by
    rw [Calibrations.mask, hvalue, changedRegisters_mask]
  have hmode : b'.mode (c.rxHandles.getD channel 0) =
      if automatic then CalMode.auto else b.mode (c.rxHandles.getD channel 0) := by
    rw [Calibrations.mode, hvalue, changedRegisters_mode]
  rw [getDCOffsetMode, hvalid, hasDCOffsetMode_rx hchannel (by rw [hreads]), havailable,
    getRxHandle_of_valid hvalid]
  dsimp only
  rw [hmask, hmode, desiredMask_bit, hreads]
  cases automatic with
  | false => rfl
  | true =>
    have hbit := sdk.dcOffset_ne_zero
    simp [hbit]

/-! ## A change preserves everything else -/

/-- Why a request on an RX channel throws before its first write. -/
def DcRefused (c : Channels) (sdk : CalibrationSdk) (reads : CalReads) (channel : ℕ)
    (automatic : Bool) (b : Calibrations) : Prop :=
  c.rxHandles.length ≤ channel ∨ reads.available ≠ 0 ∨
    (if sdk.available (c.rxHandles.getD channel 0) &&& sdk.dcOffset = 0 then automatic = true
    else Unreadable reads automatic (b.mode (c.rxHandles.getD channel 0)))

/-- What a request on an RX channel leaves behind. -/
def DcOffsetChange (c : Channels) (sdk : CalibrationSdk) (reads : CalReads) (channel : ℕ)
    (automatic : Bool) (b : Calibrations) : Except Exception Unit × Calibrations → Prop
  | (.ok (), b') =>
    let handle := c.rxHandles.getD channel 0
    ¬ c.DcRefused sdk reads channel automatic b ∧
      if sdk.available handle &&& sdk.dcOffset = 0 then b' = b
      else
        b'.mask handle &&& ~~~sdk.dcOffset = b.mask handle &&& ~~~sdk.dcOffset ∧
        b'.mask handle &&& sdk.dcOffset = (if automatic then sdk.dcOffset else 0) ∧
        b'.mode handle = (if automatic then .auto else b.mode handle) ∧
        (∀ r, r ≠ .mask handle → r ≠ .mode handle → b'.value r = b.value r) ∧
        c.getDCOffsetMode sdk ⟨0, 0, 0⟩ soapyRx channel b' = .ok automatic
  | (.error _, b') =>
    (c.DcRefused sdk reads channel automatic b → b' = b) ∧
      (¬ c.DcRefused sdk reads channel automatic b → FailedChange sdk b b')

/-- Every request on an RX channel, on every calibration state. -/
theorem dc_offset_mode_preserves_the_rest (c : Channels) (sdk : CalibrationSdk) (reads : CalReads)
    (channel : ℕ) (automatic : Bool) (b : Calibrations) :
    c.DcOffsetChange sdk reads channel automatic b
      (c.setDCOffsetMode sdk reads soapyRx channel automatic b) := by
  by_cases hchannel : c.rxHandles.length ≤ channel
  · have hrefused : c.DcRefused sdk reads channel automatic b := Or.inl hchannel
    rw [setDCOffsetMode]
    cases hvalid : c.validateChannel soapyRx channel with
    | ok u => exact absurd (validateChannel_rx.mp hvalid) (by omega)
    | error e => exact ⟨fun _ => rfl, fun h => absurd hrefused h⟩
  have hlt : channel < c.rxHandles.length := by omega
  have hvalid := validateChannel_rx.mpr hlt
  by_cases hread : reads.available = 0
  · rw [setDCOffsetMode, hvalid, hasDCOffsetMode_rx hlt hread]
    dsimp only
    by_cases havailable : sdk.available (c.rxHandles.getD channel 0) &&& sdk.dcOffset = 0
    · have hrefused : c.DcRefused sdk reads channel automatic b ↔ automatic = true := by
        rw [DcRefused, if_pos havailable]
        simp [hchannel, hread]
      rw [havailable, bne_self_eq_false]
      dsimp only
      cases automatic with
      | true => exact ⟨fun _ => rfl, fun h => absurd (hrefused.mpr rfl) h⟩
      | false =>
        refine ⟨fun h => Bool.false_ne_true (hrefused.mp h), ?_⟩
        rw [if_pos havailable]
    · have hbit : (sdk.available (c.rxHandles.getD channel 0) &&& sdk.dcOffset != 0) = true := by
        simpa using havailable
      have hrefused : c.DcRefused sdk reads channel automatic b ↔
          Unreadable reads automatic (b.mode (c.rxHandles.getD channel 0)) := by
        rw [DcRefused, if_neg havailable]
        simp [hchannel, hread]
      rw [hbit, getRxHandle_of_valid hvalid]
      dsimp only
      by_cases hunreadable : Unreadable reads automatic (b.mode (c.rxHandles.getD channel 0))
      · obtain ⟨e, he⟩ := changeDcOffset_unreadable c sdk channel hunreadable
        rw [he]
        exact ⟨fun _ => rfl, fun h => absurd (hrefused.mpr hunreadable) h⟩
      · rcases changeDcOffset_cases c sdk channel hunreadable with
          ⟨hok, hsucceeded⟩ | ⟨⟨e, he⟩, hfailed⟩
        · have hvalue := changeWrites_value hsucceeded
          rw [hok]
          refine ⟨fun h => hunreadable (hrefused.mp h), ?_⟩
          rw [if_neg havailable]
          refine ⟨?_, ?_, ?_, fun r hmask hmode => ?_,
            getDCOffsetMode_changed hlt hbit rfl hvalue⟩
          · rw [Calibrations.mask, hvalue, changedRegisters_mask]
            exact desiredMask_other sdk automatic _
          · rw [Calibrations.mask, hvalue, changedRegisters_mask]
            exact desiredMask_bit sdk automatic _
          · rw [Calibrations.mode, hvalue, changedRegisters_mode]
          · rw [hvalue, changedRegisters_other hmask hmode]
        · rw [show c.changeDcOffset sdk reads channel (c.rxHandles.getD channel 0) automatic b =
            (.error e, (c.changeDcOffset sdk reads channel (c.rxHandles.getD channel 0) automatic
              b).2) from Prod.ext he rfl]
          exact ⟨fun h => absurd (hrefused.mp h) hunreadable, fun _ => hfailed⟩
  · have hrefused : c.DcRefused sdk reads channel automatic b := Or.inr (Or.inl hread)
    have herror : ∃ e, c.hasDCOffsetMode sdk reads soapyRx channel = .error e := by
      rw [hasDCOffsetMode, hvalid]
      dsimp only
      rw [if_neg (by decide : ¬ soapyRx = soapyTx), getRxHandle_of_valid hvalid]
      dsimp only
      rw [if_pos hread]
      exact ⟨_, rfl⟩
    obtain ⟨e, he⟩ := herror
    rw [setDCOffsetMode, hvalid, he]
    exact ⟨fun _ => rfl, fun h => absurd hrefused h⟩

end Channels

end SoapySidekiq
