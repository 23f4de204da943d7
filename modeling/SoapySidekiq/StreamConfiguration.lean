import SoapySidekiq.Exceptions
import Mathlib.Data.Nat.Notation

/-! # Stream requests

`StreamConfiguration.hpp` and `StreamConfiguration.cpp`: the validation of a setup request before any
side effect. -/
set_option autoImplicit false

namespace SoapySidekiq

inductive StreamDirection where
  | rx
  | tx
deriving DecidableEq, Repr

def StreamDirection.name : StreamDirection → String
  | .rx => "RX"
  | .tx => "TX"

inductive StreamFormat where
  | cs16
  | cf32
deriving DecidableEq, Repr

/-- The format and the channel of a valid request. -/
def validateStreamRequest (direction : StreamDirection) (format : String) (channels : List ℕ)
    (availableChannels : ℕ) (streamAlreadyConfigured : Bool) : Except Exception (StreamFormat × ℕ) :=
  if streamAlreadyConfigured then
    .error (.logicError ("only one " ++ direction.name ++
      " stream per device is currently supported"))
  else if channels.length > 1 then
    .error (.invalidArgument ("multi-channel " ++ direction.name ++
      " streams are not currently supported"))
  else
    let channel := channels.headD 0
    if channel ≥ availableChannels then
      .error (.outOfRange (direction.name ++ " stream channel " ++ toString channel ++
        " is unavailable; device has " ++ toString availableChannels ++ " channel(s)"))
    else if format = "CS16" then .ok (.cs16, channel)
    else if format = "CF32" then .ok (.cf32, channel)
    else .error (.invalidArgument ("unsupported stream format '" ++ format ++
      "'; expected CS16 or CF32"))

/-- A valid request is for a direction without a stream and names an available channel. -/
theorem validateStreamRequest_ok {direction : StreamDirection} {format : String}
    {channels : List ℕ} {availableChannels : ℕ} {streamAlreadyConfigured : Bool}
    {parsed : StreamFormat} {channel : ℕ}
    (h : validateStreamRequest direction format channels availableChannels
      streamAlreadyConfigured = .ok (parsed, channel)) :
    streamAlreadyConfigured = false ∧ channel < availableChannels := by
  unfold validateStreamRequest at h
  split at h
  · cases h
  rename_i hfree
  split at h
  · cases h
  simp only at h
  split at h
  · cases h
  rename_i hchannel
  refine ⟨Bool.eq_false_iff.mpr hfree, ?_⟩
  split at h
  · cases h; omega
  · split at h
    · cases h; omega
    · cases h

end SoapySidekiq
