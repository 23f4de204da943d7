import SoapySidekiq.Exceptions
import Mathlib.Data.Int.Notation
import Mathlib.Data.Nat.Notation

/-! # Channels

`getNumChannels`, `validateChannel` and the mapping from channels to the handles of the card. -/
set_option autoImplicit false

namespace SoapySidekiq

def soapyTx : ℤ := 0

def soapyRx : ℤ := 1

/-- The card and the handles of its RX and TX channels. -/
structure Channels where
  card : UInt32
  rxHandles : List UInt32
  txHandles : List UInt32

namespace Channels

def getNumChannels (c : Channels) (direction : ℤ) : Except Exception ℕ :=
  if direction = soapyRx then .ok c.rxHandles.length
  else if direction = soapyTx then .ok c.txHandles.length
  else .error (.invalidArgument ("invalid stream direction " ++ toString direction))

def validateChannel (c : Channels) (direction : ℤ) (channel : ℕ) : Except Exception Unit :=
  match c.getNumChannels direction with
  | .error e => .error e
  | .ok count =>
    if count ≤ channel then
      .error (.outOfRange ((if direction = soapyRx then "RX" else "TX") ++ " channel " ++
        toString channel ++ " is unavailable; device has " ++ toString count ++ " channel(s)"))
    else .ok ()

/-- `param.rx_param[channel].handle`, read after `validateChannel`. -/
def getRxHandle (c : Channels) (channel : ℕ) : Except Exception UInt32 :=
  match c.validateChannel soapyRx channel with
  | .error e => .error e
  | .ok () => .ok (c.rxHandles.getD channel 0)

def getTxHandle (c : Channels) (channel : ℕ) : Except Exception UInt32 :=
  match c.validateChannel soapyTx channel with
  | .error e => .error e
  | .ok () => .ok (c.txHandles.getD channel 0)

theorem validateChannel_rx {c : Channels} {channel : ℕ} :
    c.validateChannel soapyRx channel = .ok () ↔ channel < c.rxHandles.length := by
  simp only [validateChannel, getNumChannels, if_true]
  split
  · exact iff_of_false nofun (by omega)
  · exact iff_of_true rfl (by omega)

theorem validateChannel_tx {c : Channels} {channel : ℕ} :
    c.validateChannel soapyTx channel = .ok () ↔ channel < c.txHandles.length := by
  have hne : soapyTx ≠ soapyRx := by decide
  simp only [validateChannel, getNumChannels, hne, if_false, if_true]
  split
  · exact iff_of_false nofun (by omega)
  · exact iff_of_true rfl (by omega)

theorem getRxHandle_of_valid {c : Channels} {channel : ℕ}
    (h : c.validateChannel soapyRx channel = .ok ()) :
    c.getRxHandle channel = .ok (c.rxHandles.getD channel 0) := by
  rw [getRxHandle, h]

end Channels

end SoapySidekiq
