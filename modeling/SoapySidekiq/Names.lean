import Mathlib.Init

/-! # Names

Setting keys and source names are compared byte by byte after `std::tolower`. A byte is the character
with its number; in the "C" locale only the letters A to Z change. -/
set_option autoImplicit false

namespace SoapySidekiq

/-- Names are compared byte by byte after `std::tolower`. -/
def equalsIgnoreCase (a b : String) : Bool := a.toList.map Char.toLower == b.toList.map Char.toLower

theorem equalsIgnoreCase_iff {a b : String} :
    equalsIgnoreCase a b = true ↔ a.toList.map Char.toLower = b.toList.map Char.toLower :=
  beq_iff_eq

/-- A name that matches one key matches the keys that this key matches. -/
theorem equalsIgnoreCase_of_match {a b : String} (h : equalsIgnoreCase a b = true) (c : String) :
    equalsIgnoreCase a c = equalsIgnoreCase b c := by
  simp only [equalsIgnoreCase, equalsIgnoreCase_iff.mp h]

end SoapySidekiq
