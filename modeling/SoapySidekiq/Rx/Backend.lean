import SoapySidekiq.Rx.ReceiveLoop

/-! # The receive backend

`SidekiqRxBackend.cpp`: what `receive` makes of one return of `skiq_receive`. The status codes and the
size of a packet's header come from the SDK. A malformed packet is refused before its data is read, and
what is read lies inside the length that the SDK has reported. -/
set_option autoImplicit false

namespace SoapySidekiq

/-! ## From the source -/

/-- What the headers of the SDK define. -/
structure SdkReceiveCodes where
  success : ℤ
  noData : ℤ
  overrun : ℤ
  /-- `SKIQ_RX_HEADER_SIZE_IN_BYTES`. -/
  headerBytes : UInt32
  success_ne_noData : success ≠ noData
  success_ne_overrun : success ≠ overrun

/-- `skiq_rx_block_t`, with its flexible array of components. -/
structure SdkRxBlock where
  rfTimestamp : UInt64
  sysTimestamp : UInt64
  data : ℕ → Int16

/-- A return of `skiq_receive`: its status and what it has written. -/
structure SdkReceive where
  status : ℤ
  handle : UInt32
  block : Option SdkRxBlock
  length : UInt32

/-- `EINVAL`. -/
def invalidArgumentCode : ℤ := 22

namespace SidekiqRxBackend

theorem samples_le (length : UInt32) (codes : SdkReceiveCodes) :
    (length - codes.headerBytes).toNat / 4 ≤ (2 ^ 64 - 1) / 2 := by
  have hlt := (length - codes.headerBytes).toNat_lt
  omega

def receive (codes : SdkReceiveCodes) (r : SdkReceive) : RxReceiveResult Int16 :=
  if r.status = codes.noData then ⟨.noData, 0, ⟨[], by decide⟩, 0, 0, 0⟩
  else if r.status = codes.overrun then ⟨.overrun, 0, ⟨[], by decide⟩, 0, 0, 0⟩
  else
    match r.block with
    | none => refused
    | some block =>
      if r.status ≠ codes.success ∨ r.length < codes.headerBytes ∨
        (r.length - codes.headerBytes) % 4 ≠ 0 then refused
      else
        ⟨.success, r.handle,
          .ofPointer block.data ((r.length - codes.headerBytes).toNat / 4) (samples_le r.length codes),
          block.rfTimestamp, block.sysTimestamp, 0⟩
where
  /-- A failed call or a malformed packet. -/
  refused : RxReceiveResult Int16 :=
    ⟨.error, 0, ⟨[], by decide⟩, 0, 0,
      if r.status = codes.success then -invalidArgumentCode else r.status⟩

end SidekiqRxBackend

/-! ## Well-formed packets -/

/-- A packet of `blockSamples` pairs: the status, the block and exactly the bytes of the header and the
pairs. -/
structure SdkReceive.WellFormed (codes : SdkReceiveCodes) (blockSamples : ℕ) (r : SdkReceive)
    (block : SdkRxBlock) : Prop where
  status : r.status = codes.success
  block : r.block = some block
  length : r.length.toNat = codes.headerBytes.toNat + 4 * blockSamples

/-- The IQ pairs of a packet. -/
def SdkRxBlock.pairs (block : SdkRxBlock) (blockSamples : ℕ) : List (Int16 × Int16) :=
  (List.range blockSamples).map fun k => (block.data (2 * k), block.data (2 * k + 1))

theorem pairs_range (data : ℕ → Int16) (n : ℕ) :
    Interleaved.pairs ((List.range (n * 2)).map data) =
      (List.range n).map fun k => (data (2 * k), data (2 * k + 1)) := by
  induction n with
  | zero => simp
  | succ n ih =>
    have hsplit : (List.range ((n + 1) * 2)).map data =
        (List.range (n * 2)).map data ++ [data (2 * n), data (2 * n + 1)] := by
      rw [Nat.succ_mul, List.range_succ, List.range_succ]
      simp [Nat.mul_comm]
    rw [hsplit, Interleaved.pairs_append _ _ (by simp), ih, List.range_succ, List.map_append]
    rfl

namespace SidekiqRxBackend
variable {codes : SdkReceiveCodes} {r : SdkReceive}

theorem length_iff {length header : UInt32} {blockSamples : ℕ} :
    (¬length < header ∧ (length - header) % 4 = 0 ∧ (length - header).toNat / 4 = blockSamples) ↔
      length.toNat = header.toNat + 4 * blockSamples := by
  rw [UInt32.lt_iff_toNat_lt, ← UInt32.toNat_inj, UInt32.toNat_mod]
  have h4 : (4 : UInt32).toNat = 4 := rfl
  have h0 : (0 : UInt32).toNat = 0 := rfl
  rw [h4, h0]
  constructor
  · rintro ⟨hle, hmod, hdiv⟩
    rw [UInt32.toNat_sub_of_le _ _ (UInt32.le_iff_toNat_le.mpr (by omega))] at hmod hdiv
    omega
  · intro heq
    rw [UInt32.toNat_sub_of_le _ _ (UInt32.le_iff_toNat_le.mpr (by omega))]
    omega

/-- A block of the asked size comes from a well-formed packet, and carries its pairs. -/
theorem receive_success {blockSamples : ℕ} {block : SdkRxBlock}
    (h : r.WellFormed codes blockSamples block) :
    ∃ samples, receive codes r =
        ⟨.success, r.handle, samples, block.rfTimestamp, block.sysTimestamp, 0⟩ ∧
      samples.size = blockSamples * 2 ∧ samples.iqPairs = block.pairs blockSamples := by
  obtain ⟨hle, hmod, hdiv⟩ := length_iff.mpr h.length
  have hguard : ¬(r.status ≠ codes.success ∨ r.length < codes.headerBytes ∨
      (r.length - codes.headerBytes) % 4 ≠ 0) := by
    rw [not_or, not_or, not_not, not_not]
    exact ⟨h.status, hle, hmod⟩
  refine ⟨.ofPointer block.data ((r.length - codes.headerBytes).toNat / 4) (samples_le _ codes), ?_, ?_,
    ?_⟩
  · rw [receive, if_neg (h.status ▸ codes.success_ne_noData), if_neg (h.status ▸ codes.success_ne_overrun),
      h.block]
    simp only [if_neg hguard]
  · simp [SampleVector.size, SampleVector.ofPointer, hdiv]
  · rw [SampleVector.iqPairs, SampleVector.ofPointer, pairs_range, hdiv]
    rfl

theorem receive_wellFormed {blockSamples : ℕ} (hstatus : (receive codes r).status = .success)
    (hsize : (receive codes r).samples.size = blockSamples * 2) :
    ∃ block, r.WellFormed codes blockSamples block := by
  have hrefused : (receive.refused codes r).status ≠ .success := by simp [receive.refused]
  unfold receive at hstatus hsize
  split at hstatus
  · cases hstatus
  · split at hstatus
    · cases hstatus
    · next hnoData hoverrun =>
      rw [if_neg hnoData, if_neg hoverrun] at hsize
      split at hstatus
      · exact absurd hstatus hrefused
      · next block hblock =>
        split at hstatus
        · exact absurd hstatus hrefused
        · next hguard =>
          simp only [hblock, if_neg hguard] at hsize
          rw [not_or, not_or, not_not, not_not] at hguard
          refine ⟨block, hguard.1, hblock, length_iff.mp ⟨hguard.2.1, hguard.2.2, ?_⟩⟩
          simp only [SampleVector.size, SampleVector.ofPointer, List.length_map, List.length_range] at hsize
          omega

end SidekiqRxBackend

end SoapySidekiq
