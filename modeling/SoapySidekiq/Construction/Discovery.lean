import SoapySidekiq.Construction.Options

/-! # Discovery

`discoverDevices` of `DeviceDiscovery.cpp` and `makeQuery` of `Registration.cpp`. The card keyword of
a query is compared with the decimal text of each enumerated index, while the constructor reads the
same keyword as a number. -/
set_option autoImplicit false

namespace SoapySidekiq
open Decimal

/-! ## Devices, queries and the backend -/

structure DeviceDescriptor where
  card : UInt8
  serial : String
  available : Bool
deriving DecidableEq, Repr

structure DiscoveryQuery where
  /-- Takes precedence over the serial. -/
  card : Option String
  serial : Option String

structure DiscoveryError where
  card : Option UInt8
  operation : String
  message : String
deriving DecidableEq, Repr

structure DiscoveryResult where
  devices : List DeviceDescriptor
  errors : List DiscoveryError
deriving DecidableEq, Repr

/-- The hardware boundary; a call may throw an exception with the given text. -/
structure DiscoveryBackend where
  cardIds : Except String (List UInt8)
  serial : UInt8 → Except String String
  isAvailable : UInt8 → Except String Bool

/-! ## Discovery -/

def matchesQuery (device : DeviceDescriptor) (query : DiscoveryQuery) : Bool :=
  match query.card with
  | some card => card == toString device.card.toNat
  | none =>
    match query.serial with
    | some serial => serial == device.serial
    | none => true

def exceptionMessage (what : String) : String := if what.isEmpty then "unknown error" else what

/-- The descriptor of one card, unless its serial cannot be read, and the errors on the way. -/
def describeCard (backend : DiscoveryBackend) (card : UInt8) :
    Option DeviceDescriptor × List DiscoveryError :=
  match backend.serial card with
  | .error what => (none, [⟨some card, "read serial", exceptionMessage what⟩])
  | .ok serial =>
    match backend.isAvailable card with
    | .error what =>
      (some ⟨card, serial, false⟩, [⟨some card, "check availability", exceptionMessage what⟩])
    | .ok available => (some ⟨card, serial, available⟩, [])

/-- The loop over the enumerated cards. -/
def discoverCards (backend : DiscoveryBackend) (query : DiscoveryQuery) :
    List UInt8 → DiscoveryResult
  | [] => ⟨[], []⟩
  | card :: cards =>
    let rest := discoverCards backend query cards
    let (device, errors) := describeCard backend card
    ⟨(device.toList.filter fun device => matchesQuery device query) ++ rest.devices,
      errors ++ rest.errors⟩

def discoverDevices (backend : DiscoveryBackend) (query : DiscoveryQuery) : DiscoveryResult :=
  match backend.cardIds with
  | .error what => ⟨[], [⟨none, "enumerate cards", exceptionMessage what⟩]⟩
  | .ok cards => discoverCards backend query cards

def makeQuery (args : Kwargs) : DiscoveryQuery := ⟨args "card", args "serial"⟩

/-! ## The card keyword -/

/-- The constructor arguments that give nothing but the card. -/
def cardArguments (s : String) : Kwargs := fun key => if key = "card" then some s else none

/-- The number that the constructor reads from the card keyword. -/
theorem parse_cardArguments_iff {s : String} {o : DeviceOptions} :
    parseDeviceOptions (cardArguments s) = .ok o ↔
      o = ⟨o.card, none, 16380, 30000, none, none⟩ ∧ Denotes s o.card.toNat := by
  rw [parseDeviceOptions_ok_iff]
  obtain ⟨card, topology, size, count, clock, time⟩ := o
  constructor
  · rintro ⟨⟨s', hs', hcard⟩, htopology, hsize, hcount, hclock, htime⟩
    obtain rfl : s = s' := by simpa [cardArguments] using hs'
    simp only [cardArguments] at htopology hsize hcount hclock htime
    simp_all
  · rintro ⟨hfields, hdenotes⟩
    cases hfields
    exact ⟨⟨s, rfl, hdenotes⟩, rfl, rfl, rfl, rfl, rfl⟩

/-- Text and number of a card agree exactly when the text has no superfluous zeros. -/
theorem eq_toString_iff {s : String} {card : UInt8} :
    s = toString card.toNat ↔ Denotes s card.toNat ∧ Canonical s.toList := by
  rw [← String.toList_inj, show (toString card.toNat).toList = Nat.toDigits 10 card.toNat from
    Nat.toList_repr, eq_toDigits_iff, Denotes, and_assoc]

/-- With readable serials, the devices found for a card keyword are those whose text it is. -/
theorem discoverCards_card {backend : DiscoveryBackend} {query : DiscoveryQuery} {s : String}
    (hquery : query.card = some s) {cards : List UInt8}
    (hserials : ∀ card ∈ cards, ∃ serial, backend.serial card = .ok serial) :
    (discoverCards backend query cards).devices.map DeviceDescriptor.card =
      cards.filter fun card => s == toString card.toNat := by
  induction cards with
  | nil => rfl
  | cons card cards ih =>
    obtain ⟨serial, hserial⟩ := hserials card List.mem_cons_self
    have hrest := ih fun other hother => hserials other (List.mem_cons_of_mem _ hother)
    obtain ⟨available, errors, hdescribe⟩ : ∃ available errors,
        describeCard backend card = (some ⟨card, serial, available⟩, errors) := by
      rw [describeCard, hserial]
      cases backend.isAvailable card with
      | error what => exact ⟨_, _, rfl⟩
      | ok available => exact ⟨_, _, rfl⟩
    rw [discoverCards, hdescribe]
    simp only [Option.toList_some, matchesQuery, hquery, List.map_append, hrest, List.filter_cons]
    by_cases hmatch : (s == toString card.toNat) = true
    · rw [if_pos hmatch, if_pos hmatch]
      rfl
    · rw [if_neg hmatch, if_neg hmatch]
      rfl

/-! ## Discovery and construction -/

/-- Discovery with a card keyword finds the enumerated cards with the index that the constructor reads
from it, and nothing if the constructor rejects it. -/
def DiscoveryAgrees (backend : DiscoveryBackend) (cards : List UInt8) (args : Kwargs) (s : String) :
    Prop :=
  (discoverDevices backend (makeQuery args)).devices.map DeviceDescriptor.card =
    match parseDeviceOptions (cardArguments s) with
    | .ok o => cards.filter fun card => card == o.card
    | .error _ => []

theorem filter_eq_filter_iff {α : Type} {p q : α → Bool} {l : List α} (hpq : ∀ a, p a → q a) :
    l.filter p = l.filter q ↔ ∀ a ∈ l, q a → p a := by
  constructor
  · intro h a ha hq
    have hmem : a ∈ l.filter p := by
      rw [h]
      exact List.mem_filter.mpr ⟨ha, hq⟩
    exact (List.mem_filter.mp hmem).2
  · intro h
    exact List.filter_congr fun a ha => Bool.eq_iff_iff.mpr ⟨hpq a, h a ha⟩

/-- The two agree exactly when the keyword is written without superfluous zeros, or no enumerated card
has its index. -/
theorem discovery_agrees_iff (backend : DiscoveryBackend) (cards : List UInt8) (args : Kwargs)
    (s : String) (hcards : backend.cardIds = .ok cards)
    (hserials : ∀ card ∈ cards, ∃ serial, backend.serial card = .ok serial)
    (hcard : args "card" = some s) :
    DiscoveryAgrees backend cards args s ↔
      ∀ card ∈ cards, Denotes s card.toNat → Canonical s.toList := by
  rw [DiscoveryAgrees, discoverDevices, hcards]
  dsimp only
  rw [discoverCards_card hcard hserials]
  cases hparse : parseDeviceOptions (cardArguments s) with
  | ok o =>
    obtain ⟨-, hdenotes⟩ := parse_cardArguments_iff.mp hparse
    have hindex (card : UInt8) : card = o.card ↔ Denotes s card.toNat := by
      constructor
      · rintro rfl
        exact hdenotes
      · intro h
        exact UInt8.toNat_inj.mp (h.unique hdenotes)
    dsimp only
    rw [filter_eq_filter_iff]
    · simp only [beq_iff_eq, hindex, eq_toString_iff]
      exact forall₂_congr fun card hmem => imp_congr_right fun h => and_iff_right h
    · intro card htext
      rw [beq_iff_eq, hindex]
      exact (eq_toString_iff.mp (beq_iff_eq.mp htext)).1
  | error e =>
    have hrejected (card : UInt8) : ¬ Denotes s card.toNat := by
      intro h
      have hok := parse_cardArguments_iff (o := ⟨card, none, 16380, 30000, none, none⟩).mpr ⟨rfl, h⟩
      rw [hparse] at hok
      cases hok
    dsimp only
    rw [List.filter_eq_nil_iff]
    refine iff_of_true (fun card _ htext => ?_) fun card _ h => absurd h (hrejected card)
    exact hrejected card (eq_toString_iff.mp (beq_iff_eq.mp htext)).1

/-- One card with index 7. -/
def cardSeven : DiscoveryBackend where
  cardIds := .ok [7]
  serial := fun _ => .ok "abc"
  isAvailable := fun _ => .ok true

theorem discovery_agrees_iff_seven :
    cardSeven.cardIds = .ok [7] ∧ (∀ card ∈ [(7 : UInt8)], ∃ serial,
      cardSeven.serial card = .ok serial) ∧ cardArguments "7" "card" = some "7" ∧
      (DiscoveryAgrees cardSeven [7] (cardArguments "7") "7" ↔
        ∀ card ∈ [(7 : UInt8)], Denotes "7" card.toNat → Canonical "7".toList) :=
  ⟨rfl, fun _ _ => ⟨_, rfl⟩, rfl,
    discovery_agrees_iff cardSeven [7] (cardArguments "7") "7" rfl (fun _ _ => ⟨_, rfl⟩) rfl⟩

/-- The constructor opens card 7 for `007`, and discovery does not find it. -/
theorem discovery_misses_leading_zeros :
    ¬ ∀ (backend : DiscoveryBackend) (cards : List UInt8) (args : Kwargs) (s : String),
      backend.cardIds = .ok cards →
        (∀ card ∈ cards, ∃ serial, backend.serial card = .ok serial) → args "card" = some s →
          DiscoveryAgrees backend cards args s := by
  intro h
  have hagrees := h cardSeven [7] (cardArguments "007") "007" rfl (fun _ _ => ⟨_, rfl⟩) rfl
  have hparse : parseDeviceOptions (cardArguments "007") =
      .ok ⟨7, none, 16380, 30000, none, none⟩ := parse_cardArguments_iff.mpr ⟨rfl, by decide, rfl⟩
  rw [DiscoveryAgrees, hparse] at hagrees
  revert hagrees
  decide

end SoapySidekiq
