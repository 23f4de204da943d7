import Mathlib.Algebra.GroupWithZero.Nat
import Mathlib.Data.List.Flatten
import Mathlib.Algebra.BigOperators.Group.List.Basic
import Mathlib.Algebra.Order.Group.Nat

/-! # Ledgers of a lossy queue

What a queue that may discard its oldest items owes to the one who filled it: every item that went
in is, in order, in exactly one piece that was delivered, in exactly one piece that was discarded,
or still queued. The ledger records the items that went in and the pieces that left at the front;
it is balanced when these pieces and the contents are the items again. -/
set_option autoImplicit false

namespace LossyFifo
variable {α : Type}

/-- How a piece left the front of the queue. -/
inductive Fate where
  | delivered
  | discarded
deriving DecidableEq, Repr

/-- The items pushed, and the pieces that left, oldest first. -/
structure Ledger (α : Type) where
  pushed : List α
  pieces : List (Fate × List α)

namespace Ledger

def empty : Ledger α := ⟨[], []⟩

/-- Everything that left the queue, in the order in which it left. -/
def settled (l : Ledger α) : List α := l.pieces.flatMap Prod.snd

/-- The pieces of one fate, in order. -/
def ofFate (l : Ledger α) (fate : Fate) : List (List α) :=
  (l.pieces.filter fun piece => piece.1 = fate).map Prod.snd

def push (l : Ledger α) (items : List α) : Ledger α := { l with pushed := l.pushed ++ items }

def remove (l : Ledger α) (fate : Fate) (items : List α) : Ledger α :=
  { l with pieces := l.pieces ++ [(fate, items)] }

/-- The pieces and the queue's contents are the pushed items, in push order. -/
def Balanced (l : Ledger α) (contents : List α) : Prop := l.settled ++ contents = l.pushed

/-! ## The operations keep the balance -/

theorem balanced_empty : (empty : Ledger α).Balanced [] := rfl

@[simp] theorem settled_push (l : Ledger α) (items : List α) :
    (l.push items).settled = l.settled := rfl

@[simp] theorem settled_remove (l : Ledger α) (fate : Fate) (items : List α) :
    (l.remove fate items).settled = l.settled ++ items := by
  simp [settled, remove]

theorem Balanced.push {l : Ledger α} {contents : List α} (h : l.Balanced contents)
    (items : List α) : (l.push items).Balanced (contents ++ items) := by
  have h' : l.settled ++ contents = l.pushed := h
  change l.settled ++ (contents ++ items) = l.pushed ++ items
  rw [← h', List.append_assoc]

theorem Balanced.remove {l : Ledger α} {items rest : List α} (h : l.Balanced (items ++ rest))
    (fate : Fate) : (l.remove fate items).Balanced rest := by
  have h' : l.settled ++ (items ++ rest) = l.pushed := h
  change (l.remove fate items).settled ++ rest = l.pushed
  rw [settled_remove, List.append_assoc, h']

theorem Balanced.take {l : Ledger α} {contents : List α} (h : l.Balanced contents) (fate : Fate)
    (n : ℕ) : (l.remove fate (contents.take n)).Balanced (contents.drop n) :=
  Balanced.remove (by rwa [List.take_append_drop]) fate

/-! ## What a balanced ledger says -/

theorem Balanced.length {l : Ledger α} {contents : List α} (h : l.Balanced contents) :
    l.settled.length + contents.length = l.pushed.length := by
  have h' : l.settled ++ contents = l.pushed := h
  rw [← h', List.length_append]

theorem ofFate_sublist (l : Ledger α) (fate : Fate) :
    (l.ofFate fate).flatten.Sublist l.settled := by
  have h : (l.ofFate fate).flatten =
      (l.pieces.filter fun piece => piece.1 = fate).flatMap Prod.snd := by
    rw [ofFate, List.flatMap]
  rw [h]
  exact (List.filter_sublist).flatMap Prod.snd

/-- The delivered items are a subsequence of the pushed ones. -/
theorem Balanced.delivered_sublist {l : Ledger α} {contents : List α} (h : l.Balanced contents) :
    (l.ofFate .delivered).flatten.Sublist l.pushed := by
  have h' : l.settled ++ contents = l.pushed := h
  rw [← h']
  exact (l.ofFate_sublist .delivered).trans (List.sublist_append_left _ _)

theorem ofFate_remove_self (l : Ledger α) (fate : Fate) (items : List α) :
    (l.remove fate items).ofFate fate = l.ofFate fate ++ [items] := by
  simp [ofFate, remove, List.filter_append]

theorem ofFate_remove_other (l : Ledger α) {fate other : Fate} (h : fate ≠ other)
    (items : List α) : (l.remove fate items).ofFate other = l.ofFate other := by
  simp [ofFate, remove, List.filter_append, h]

end Ledger

/-! ## Positions in a sequence of blocks -/

/-- An item of a sequence of blocks lies in one block at one offset. -/
theorem position_unique {β : Type} (size : β → ℕ) :
    ∀ {before before' after after' : List β} {block block' : β} {k k' : ℕ},
      before ++ block :: after = before' ++ block' :: after' →
      (before.map size).sum + k = (before'.map size).sum + k' →
      k < size block → k' < size block' → before = before' ∧ block = block' ∧ k = k'
  | [], [], _, _, _, _, _, _, hl, hs, _, _ => by
    simp only [List.nil_append, List.cons.injEq] at hl
    simp only [List.map_nil, List.sum_nil, Nat.zero_add] at hs
    exact ⟨rfl, hl.1, hs⟩
  | [], b' :: before', _, _, _, _, _, _, hl, hs, hk, _ => by
    simp only [List.nil_append, List.cons_append, List.cons.injEq] at hl
    simp only [List.map_nil, List.sum_nil, List.map_cons, List.sum_cons, hl.1] at hs hk
    omega
  | b :: before, [], _, _, _, _, _, _, hl, hs, _, hk' => by
    simp only [List.nil_append, List.cons_append, List.cons.injEq] at hl
    simp only [List.map_nil, List.sum_nil, List.map_cons, List.sum_cons, ← hl.1] at hs hk'
    omega
  | b :: before, b' :: before', _, _, _, _, _, _, hl, hs, hk, hk' => by
    simp only [List.cons_append, List.cons.injEq] at hl
    simp only [List.map_cons, List.sum_cons, hl.1] at hs
    obtain ⟨h1, h2, h3⟩ := position_unique size hl.2 (by omega) hk hk'
    exact ⟨by rw [hl.1, h1], h2, h3⟩

end LossyFifo
