import Mathlib.Data.List.Perm.Basic
import Mathlib.Data.List.Nodup
import Mathlib.Data.Nat.Notation

/-! # Ledgers of resources

What has been acquired and what has been released, against what is still referenced. A balanced ledger
says that everything referenced has been acquired once and not been released, and everything else that
was acquired has been released once. -/
set_option autoImplicit false

structure ResourceLedger (ι : Type) where
  acquired : List ι
  released : List ι

namespace ResourceLedger
variable {ι : Type} {live live' : ι → Prop}

structure Balanced (live : ι → Prop) (l : ResourceLedger ι) : Prop where
  acquired : l.acquired.Nodup
  released : l.released.Nodup
  known : ∀ i ∈ l.released, i ∈ l.acquired
  live : ∀ i, live i ↔ i ∈ l.acquired ∧ i ∉ l.released

/-- What a step acquires and releases. -/
def post (l : ResourceLedger ι) (new old : List ι) : ResourceLedger ι :=
  ⟨l.acquired ++ new, l.released ++ old⟩

theorem balanced_empty (h : ∀ i, ¬ live i) : Balanced live ⟨[], []⟩ where
  acquired := List.nodup_nil
  released := List.nodup_nil
  known := by simp
  live i := iff_of_false (h i) (by simp)

/-- A step that acquires only what is new, and releases only what has lost its last reference. -/
theorem Balanced.post {l : ResourceLedger ι} (h : l.Balanced live) {new old : List ι} (hnew : new.Nodup)
    (hfresh : ∀ i ∈ new, i ∉ l.acquired) (hold : old.Nodup) (hlost : ∀ i ∈ old, live i)
    (hlive : ∀ i, live' i ↔ (live i ∨ i ∈ new) ∧ i ∉ old) : (l.post new old).Balanced live' where
  acquired := List.nodup_append.mpr ⟨h.acquired, hnew, fun i hi j hj hij => hfresh j hj (hij ▸ hi)⟩
  released := List.nodup_append.mpr ⟨h.released, hold, fun i hi j hj hij =>
    ((h.live j).mp (hlost j hj)).2 (hij ▸ hi)⟩
  known i hi := by
    rcases List.mem_append.mp hi with hi | hi
    · exact List.mem_append_left _ (h.known i hi)
    · exact List.mem_append_left _ ((h.live i).mp (hlost i hi)).1
  live i := by
    have hunreleased : i ∈ new → i ∉ l.released := fun hi hmem => hfresh i hi (h.known i hmem)
    simp only [hlive, h.live, ResourceLedger.post, List.mem_append, not_or]
    constructor
    · rintro ⟨⟨hmem, hnot⟩ | hmem, hkept⟩
      · exact ⟨.inl hmem, hnot, hkept⟩
      · exact ⟨.inr hmem, hunreleased hmem, hkept⟩
    · rintro ⟨hmem | hmem, hnot, hkept⟩
      · exact ⟨.inl ⟨hmem, hnot⟩, hkept⟩
      · exact ⟨.inr hmem, hkept⟩

/-- Without references everything has been released. -/
theorem Balanced.settled {l : ResourceLedger ι} (h : l.Balanced live) (hnone : ∀ i, ¬ live i) :
    l.released.Perm l.acquired := by
  refine (List.perm_ext_iff_of_nodup h.released h.acquired).mpr fun i => ⟨h.known i, fun hi => ?_⟩
  by_contra hnot
  exact hnone i ((h.live i).mpr ⟨hi, hnot⟩)

end ResourceLedger
