import Mathlib.Data.List.Basic
import Mathlib.Data.Nat.Notation

/-! Transfers cut into packets: full packets and one that is shorter than the reader allowed, by
which the reader knows where a transfer ends. -/
namespace VirtualCcid.Runs

/-- What a read returned, and how much it allowed. -/
structure Packet (α : Type*) where
  capacity : ℕ
  contents : List α
  deriving DecidableEq

variable {α : Type*}

namespace Packet

def IsShort (p : Packet α) : Prop := p.contents.length < p.capacity

def IsFull (p : Packet α) : Prop := p.contents.length = p.capacity

instance (p : Packet α) : Decidable p.IsShort :=
  inferInstanceAs (Decidable (p.contents.length < p.capacity))

end Packet

/-- The packets carry the contents: all but the last are full, and the last is short. -/
inductive IsTransfer : List α → List (Packet α) → Prop
  | last {p : Packet α} : p.IsShort → IsTransfer p.contents [p]
  | more {p : Packet α} {contents : List α} {packets : List (Packet α)} : p.IsFull →
      IsTransfer contents packets → IsTransfer (p.contents ++ contents) (p :: packets)

/-- The packets are transfers of the contents, one after the other. -/
inductive AreTransfers : List (List α) → List (Packet α) → Prop
  | nil : AreTransfers [] []
  | cons {contents : List α} {rest : List (List α)} {packets packets' : List (Packet α)} :
      IsTransfer contents packets → AreTransfers rest packets' →
      AreTransfers (contents :: rest) (packets ++ packets')

/-- Join the packets up to each short one. -/
def joinTransfers : List (Packet α) → List (List α)
  | [] => []
  | p :: packets =>
    if p.IsShort then p.contents :: joinTransfers packets
    else (p.contents ++ (joinTransfers packets).headD []) :: (joinTransfers packets).tail

theorem IsTransfer.join {contents : List α} {packets : List (Packet α)}
    (h : IsTransfer contents packets) (packets' : List (Packet α)) :
    joinTransfers (packets ++ packets') = contents :: joinTransfers packets' := by
  induction h with
  | last hshort => rw [List.singleton_append, joinTransfers, if_pos hshort]
  | @more p contents packets hfull _ ih =>
    have hlong : ¬ p.IsShort := by
      intro hshort
      exact absurd hfull (Nat.ne_of_lt hshort)
    rw [List.cons_append, joinTransfers, if_neg hlong, ih]
    rfl

/-- A reader recovers the contents from their transfers. -/
theorem AreTransfers.join {contents : List (List α)} {packets : List (Packet α)}
    (h : AreTransfers contents packets) : joinTransfers packets = contents := by
  induction h with
  | nil => rfl
  | cons htransfer _ ih => rw [htransfer.join, ih]

theorem IsTransfer.fits {contents : List α} {packets : List (Packet α)}
    (h : IsTransfer contents packets) : ∀ p ∈ packets, p.contents.length ≤ p.capacity := by
  induction h with
  | last hshort =>
    intro p hp
    obtain rfl := List.mem_singleton.mp hp
    exact Nat.le_of_lt hshort
  | more hfull _ ih =>
    intro p hp
    rcases List.mem_cons.mp hp with rfl | hp
    · exact Nat.le_of_eq hfull
    · exact ih p hp

theorem AreTransfers.fits {contents : List (List α)} {packets : List (Packet α)}
    (h : AreTransfers contents packets) : ∀ p ∈ packets, p.contents.length ≤ p.capacity := by
  induction h with
  | nil => simp
  | cons htransfer _ ih =>
    intro p hp
    rcases List.mem_append.mp hp with hp | hp
    · exact htransfer.fits p hp
    · exact ih p hp

theorem AreTransfers.prepend {p : Packet α} (hfull : p.IsFull) {first : List α}
    {rest : List (List α)} {packets : List (Packet α)}
    (h : AreTransfers (first :: rest) packets) :
    AreTransfers ((p.contents ++ first) :: rest) (p :: packets) := by
  cases h with
  | cons htransfer hrest => exact .cons (.more hfull htransfer) hrest

theorem AreTransfers.cons_short {p : Packet α} (hshort : p.IsShort) {rest : List (List α)}
    {packets : List (Packet α)} (h : AreTransfers rest packets) :
    AreTransfers (p.contents :: rest) (p :: packets) :=
  .cons (.last hshort) h

end VirtualCcid.Runs
