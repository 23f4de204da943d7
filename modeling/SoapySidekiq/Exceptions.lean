import Mathlib.Init

/-! # Exceptions

The standard exceptions that the driver throws, with the text given to `what()`, and the values of
other types that a callback may throw. -/
set_option autoImplicit false

namespace SoapySidekiq

/-- What can be thrown: a `std::exception`, by class, or something else. -/
inductive Exception where
  | invalidArgument (what : String)
  | logicError (what : String)
  | outOfRange (what : String)
  | overflowError (what : String)
  | runtimeError (what : String)
  | badAlloc
  | systemError
  | foreign
deriving DecidableEq, Repr

end SoapySidekiq
