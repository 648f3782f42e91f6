import AisFeed.Error

/-!
# Channels

A channel holds items between the one who offers them and the one who takes them, first in,
first out. It may have a capacity; with capacity zero there is never room. Nothing can be
offered once no one attends to the other end. The places of a channel are numbered and laid out
when it is made, which bounds its capacity.
-/

set_option autoImplicit false

namespace AisFeed

/-- A first in, first out channel. -/
structure Channel (α : Type) where
  /-- The items, the oldest first. -/
  items : List α
  /-- How many items there is room for, if that is limited. -/
  capacity : Option Nat
  /-- Whether anyone can still take items. -/
  isAttended : Bool
  deriving DecidableEq, Repr

/-- What came of an offer. -/
inductive Offer where
  | taken
  | full
  | unattended
  deriving DecidableEq, Repr

namespace Channel

variable {α : Type}

/-- An empty channel. -/
def new (capacity : Option Nat) : Channel α :=
  ⟨[], capacity, true⟩

/-- How many places can be numbered: a number, a mark and at least one bit to count rounds share
sixty-four bits. -/
def mostNumbered : Nat := Nat.pow 2 62 - 1

/-- How many places fit into the memory that sixty-three bits can address, at 128 bytes each. -/
def mostAddressed : Nat := Nat.pow 2 56 - 1

/-- Why there cannot be a channel of a capacity, if there cannot. -/
def fault? (capacity : Option Nat) : Option Crash :=
  match capacity with
  | none => none
  | some n =>
    if mostNumbered < n then some .tooManyPlaces
    else if mostAddressed < n then some .outOfMemory
    else none

/-- Is there room for one more item? -/
def hasRoom (c : Channel α) : Bool :=
  match c.capacity with
  | none => true
  | some n => decide (c.items.length < n)

/-- Offer an item, which joins the end if it is taken. -/
def offer (c : Channel α) (a : α) : Channel α × Offer :=
  if !c.isAttended then (c, .unattended)
  else if c.hasRoom then ({ c with items := c.items ++ [a] }, .taken)
  else (c, .full)

/-- Take the oldest item, if there is one. -/
def take (c : Channel α) : Channel α × Option α :=
  match c.items with
  | [] => (c, none)
  | a :: rest => ({ c with items := rest }, some a)

end Channel

end AisFeed
