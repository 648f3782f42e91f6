import AisFeed.Queue.Distributor

/-!
# Runs of a distributor

What comes of registrations, publications, and what consumers do, in any order. Consumers go by
the tickets of their queues.
-/

set_option autoImplicit false

namespace AisFeed

/-- How a queue comes to a distributor: by a policy, or over a channel that its consumer made. -/
inductive Registration where
  | byPolicy (name : String) (policy : QueuePolicy)
  | byConsumer (name : String) (capacity : Option Nat)
  deriving DecidableEq, Repr

/-- What is done with a distributor and its queues. -/
inductive Move (α : Type) where
  | register (registration : Registration)
  | publish (item : α)
  /-- A consumer takes an item, if there is one. -/
  | take (ticket : Nat)
  /-- A consumer takes all items. -/
  | drain (ticket : Nat)
  /-- A consumer goes away. -/
  | leave (ticket : Nat)
  deriving DecidableEq, Repr

/-- A move, the items that its consumer got, if it did not crash, and the events of it. -/
structure Turn (α : Type) where
  move : Move α
  outcome : Except Crash (List α)
  events : List Event

namespace Distributor

variable {α : Type}

/-- Register a queue, if there can be one. -/
def enter (d : Distributor α) : Registration → Except Crash (Distributor α)
  | .byPolicy name policy => d.tryRegister name policy
  | .byConsumer name capacity => d.tryRegisterConsumer name capacity

/-- Make a move. A registration that crashes changes nothing. -/
def turn (d : Distributor α) (move : Move α) : Distributor α × Turn α :=
  match move with
  | .register registration =>
    match d.enter registration with
    | .error crash => (d, ⟨move, .error crash, []⟩)
    | .ok d => (d, ⟨move, .ok [], []⟩)
  | .publish a =>
    let (d, events) := d.publish a
    (d, ⟨move, .ok [], events⟩)
  | .take ticket =>
    let (d, item) := d.take ticket
    (d, ⟨move, .ok item.toList, []⟩)
  | .drain ticket =>
    let (d, items) := d.drain ticket
    (d, ⟨move, .ok items, []⟩)
  | .leave ticket => (d.leave ticket, ⟨move, .ok [], []⟩)

/-- Make moves one after the other. -/
def run (d : Distributor α) : List (Move α) → Distributor α × List (Turn α)
  | [] => (d, [])
  | move :: rest =>
    let (d, turn) := d.turn move
    let (d, turns) := d.run rest
    (d, turn :: turns)

end Distributor

end AisFeed
