import AisFeed.Queue.Basic

/-!
# Distributors

A distributor puts a copy of every item into every queue that is registered with it. A queue to
which no one attends any more leaves when the next item is published. Consumers name their
queues by tickets, which are given out in the order of registration.
-/

set_option autoImplicit false

namespace AisFeed

/-- Queues by their tickets, in the order of registration. -/
structure Distributor (α : Type) where
  queues : List (Nat × Queue α)
  /-- The ticket that is given out next. -/
  ticket : Nat
  deriving DecidableEq, Repr

namespace Distributor

variable {α : Type}

/-- No queues. -/
def empty : Distributor α :=
  ⟨[], 0⟩

/-- Register a queue under the next ticket. -/
def add (d : Distributor α) (q : Queue α) : Distributor α :=
  ⟨d.queues ++ [(d.ticket, q)], d.ticket + 1⟩

/-- Register a queue by a policy. -/
def register (d : Distributor α) (name : String) (policy : QueuePolicy) : Distributor α :=
  d.add (.ofPolicy name policy)

/-- Register a queue over a channel that the consumer made. -/
def registerConsumer (d : Distributor α) (name : String) (capacity : Option Nat) :
    Distributor α :=
  d.add (.ofConsumer name capacity)

/-- Register a queue by a policy, if there can be a channel of its capacity. -/
def tryRegister (d : Distributor α) (name : String) (policy : QueuePolicy) :
    Except Crash (Distributor α) :=
  match Channel.fault? policy.capacity? with
  | some crash => .error crash
  | none => .ok (d.register name policy)

/-- Register a queue over a channel that the consumer makes, if there can be one. -/
def tryRegisterConsumer (d : Distributor α) (name : String) (capacity : Option Nat) :
    Except Crash (Distributor α) :=
  match Channel.fault? capacity with
  | some crash => .error crash
  | none => .ok (d.registerConsumer name capacity)

/-- Put an item into each queue, without those to which no one attends. -/
def putAll (a : α) : List (Nat × Queue α) → List (Nat × Queue α) × List Event
  | [] => ([], [])
  | (ticket, q) :: rest =>
    let (q, isAttended, events) := q.put a
    let (queues, later) := putAll a rest
    if isAttended then ((ticket, q) :: queues, events ++ later)
    else (queues, events ++ .unregistered q.name :: later)

/-- Put an item into each queue. -/
def publish (d : Distributor α) (a : α) : Distributor α × List Event :=
  let (queues, events) := putAll a d.queues
  ({ d with queues }, events)

/-- Publish items one after the other. -/
def publishAll (d : Distributor α) : List α → Distributor α × List Event
  | [] => (d, [])
  | a :: rest =>
    let (d, events) := d.publish a
    let (d, later) := publishAll d rest
    (d, events ++ later)

/-- The queue of a ticket. -/
def queue? (d : Distributor α) (ticket : Nat) : Option (Queue α) :=
  (d.queues.find? fun q => q.1 = ticket).map Prod.snd

/-- Replace the queue of a ticket. -/
def setQueue (d : Distributor α) (ticket : Nat) (q : Queue α) : Distributor α :=
  { d with queues := d.queues.map fun p => if p.1 = ticket then (ticket, q) else p }

/-- Remove the queue of a ticket. -/
def remove (d : Distributor α) (ticket : Nat) : Distributor α :=
  { d with queues := d.queues.filter fun p => p.1 ≠ ticket }

/-- The consumer with a ticket takes an item. -/
def take (d : Distributor α) (ticket : Nat) : Distributor α × Option α :=
  match d.queue? ticket with
  | none => (d, none)
  | some q =>
    let (q, item) := q.take
    (d.setQueue ticket q, item)

/-- The consumer with a ticket takes all items. -/
def drain (d : Distributor α) (ticket : Nat) : Distributor α × List α :=
  match d.queue? ticket with
  | none => (d, [])
  | some q =>
    let (q, items) := q.drain
    (d.setQueue ticket q, items)

/-- The consumer with a ticket goes away. -/
def leave (d : Distributor α) (ticket : Nat) : Distributor α :=
  match d.queue? ticket with
  | none => d
  | some q => d.setQueue ticket q.leave

end Distributor

end AisFeed
