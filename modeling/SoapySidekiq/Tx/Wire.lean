import Mathlib.Data.List.Basic
import SoapySidekiq.Tx.Device

/-! # The wire format

What a packet is meant to carry: the complex samples of the caller's input one after the other, CS16
as they are and CF32 converted component by component. The payload that a write fills a block with is
the wire form of the samples of that block. -/
set_option autoImplicit false

namespace SoapySidekiq

/-! ## Samples on the wire -/

/-- `short` for CS16, else CF32. -/
def sampleBytes (short : Bool) : ℕ := if short then 4 else 8

/-- The wire form of sample number `i`. -/
def wireSample (convert : UInt32 → Int16) (short : Bool) (input : Memory) (i : ℕ) : Bytes :=
  if short then copyBytes input (i * 4) 4
  else storeSample (convert (floatBits input (i * 8))) ++
    storeSample (convert (floatBits input (i * 8 + 4)))

/-- The wire form of the samples from `start` on. -/
def wireSamples (convert : UInt32 → Int16) (short : Bool) (input : Memory) (start count : ℕ) :
    Bytes :=
  (List.range count).flatMap fun i => wireSample convert short input (start + i)

variable {convert : UInt32 → Int16} {short : Bool} {input : Memory}

theorem wireSamples_append (start m n : ℕ) :
    wireSamples convert short input start (m + n) =
      wireSamples convert short input start m ++ wireSamples convert short input (start + m) n := by
  simp only [wireSamples, List.range_add, List.flatMap_append, List.flatMap_map, Nat.add_assoc]

/-- The packets of `size` samples each carry the samples without a gap. -/
theorem wireSamples_packets (size count : ℕ) :
    (List.range count).flatMap (fun j => wireSamples convert short input (j * size) size) =
      wireSamples convert short input 0 (count * size) := by
  induction count with
  | zero => simp [wireSamples]
  | succ count ih =>
    rw [List.range_succ, List.flatMap_append, ih, Nat.succ_mul, wireSamples_append]
    simp

/-- The input from sample `pos` on. -/
def Memory.drop (input : Memory) (short : Bool) (pos : ℕ) : Memory := fun i =>
  input (pos * sampleBytes short + i)

theorem wireSamples_drop (pos start count : ℕ) :
    wireSamples convert short (Memory.drop input short pos) start count =
      wireSamples convert short input (pos + start) count := by
  have hsample : ∀ i, wireSample convert short (Memory.drop input short pos) i =
      wireSample convert short input (pos + i) := by
    intro i
    cases short with
    | true =>
      simp only [wireSample, if_true, copyBytes, Memory.drop, sampleBytes]
      congr 1
      funext j
      congr 1
      omega
    | false =>
      have hbits : ∀ k, floatBits (Memory.drop input false pos) k = floatBits input (pos * 8 + k) := by
        intro k
        simp [floatBits, Memory.drop, sampleBytes, Nat.add_assoc]
      simp only [wireSample, hbits, Bool.false_eq_true, if_false]
      rw [show (pos + i) * 8 = pos * 8 + i * 8 by omega, Nat.add_assoc]
  simp only [wireSamples, hsample, Nat.add_assoc]

/-! ## The payload of a block -/

theorem copyBytes_append (input : Memory) (offset m n : ℕ) :
    copyBytes input offset (m + n) = copyBytes input offset m ++ copyBytes input (offset + m) n := by
  simp [copyBytes, List.range_add, Nat.add_assoc]

theorem copyBytes_samples (input : Memory) (start count : ℕ) :
    copyBytes input (start * 4) (count * 4) = wireSamples convert true input start count := by
  induction count with
  | zero => rfl
  | succ count ih =>
    rw [Nat.succ_mul, copyBytes_append, ih, wireSamples_append]
    simp [wireSamples, wireSample, Nat.add_mul]

theorem convertCf32ToCs16_samples (input : Memory) (start count : ℕ) :
    convertCf32ToCs16 convert input (start * 8) count = wireSamples convert false input start count := by
  induction count with
  | zero => rfl
  | succ count ih =>
    have hsplit : convertCf32ToCs16 convert input (start * 8) (count + 1) =
        convertCf32ToCs16 convert input (start * 8) count ++
          (storeSample (convert (floatBits input (start * 8 + count * 2 * 4))) ++
            storeSample (convert (floatBits input (start * 8 + (count * 2 + 1) * 4)))) := by
      rw [convertCf32ToCs16, Nat.succ_mul, List.range_succ, List.range_succ]
      simp [convertCf32ToCs16]
    rw [hsplit, ih, wireSamples_append]
    simp only [wireSamples, wireSample, List.range_one, List.flatMap_cons, List.flatMap_nil,
      Bool.false_eq_true, if_false, Nat.add_zero, List.append_nil]
    rw [show start * 8 + count * 2 * 4 = (start + count) * 8 by omega,
      show start * 8 + (count * 2 + 1) * 4 = (start + count) * 8 + 4 by omega]

/-- The payload of the block number `j` is the wire form of its samples. -/
theorem payload_samples (d : TxDevice) (memory : Memory) (j : ℕ) :
    d.payload memory (j * d.inputBlockBytes) =
      wireSamples d.config.convert d.txUseShort memory (j * d.config.currentTxBlockSize)
        d.config.currentTxBlockSize := by
  cases hshort : d.txUseShort with
  | true =>
    rw [← copyBytes_samples, TxDevice.payload, hshort, if_pos rfl]
    congr 1
    rw [TxDevice.inputBlockBytes, hshort, if_pos rfl, Nat.mul_assoc, Nat.mul_assoc]
  | false =>
    rw [← convertCf32ToCs16_samples, TxDevice.payload, hshort, if_neg (by decide)]
    congr 1
    rw [TxDevice.inputBlockBytes, hshort, if_neg (by decide), Nat.mul_assoc, Nat.mul_assoc]

end SoapySidekiq
