import AisFeed.Queue.Distributor

/-!
# Hubs

A hub is a distributor between stages that run side by side: its owner puts an item into one
queue after the other, and closes the queues one after the other, while consumers receive from
theirs. A put is a single operation, as it is on a queue without a capacity.
-/

set_option autoImplicit false

namespace AisFeed

/-- A distributor, some of whose queues may be closed. -/
structure Hub (α : Type) where
  queues : Distributor α
  /-- The tickets of the queues into which nothing comes any more. -/
  closed : List Nat
  deriving DecidableEq, Repr

namespace Hub

variable {α : Type}

/-- A hub over a distributor of which no queue is closed. -/
def ofDistributor (d : Distributor α) : Hub α :=
  ⟨d, []⟩

/-- The tickets of the queues, in the order in which items are put into them. -/
def tickets (h : Hub α) : List Nat :=
  h.queues.queues.map Prod.fst

/-- Put an item into the queue of a ticket, which is removed if no one attends to it. -/
def put (h : Hub α) (ticket : Nat) (a : α) : Hub α × List Event :=
  match h.queues.queue? ticket with
  | none => (h, [])
  | some q =>
    let (q, isAttended, events) := q.put a
    if isAttended then ({ h with queues := h.queues.setQueue ticket q }, events)
    else ({ h with queues := h.queues.remove ticket }, events ++ [.unregistered q.name])

/-- Close the queue of a ticket. What it holds can still be received. -/
def close (h : Hub α) (ticket : Nat) : Hub α :=
  { h with closed := ticket :: h.closed }

/-- The consumer with a ticket receives an item, or learns that there will be none. It must wait
while its queue is empty and not closed. -/
def receive (h : Hub α) (ticket : Nat) : Option (Hub α × Option α) :=
  match h.queues.take ticket with
  | (queues, some a) => some ({ h with queues }, some a)
  | (_, none) => if ticket ∈ h.closed then some (h, none) else none

/-- The consumer with a ticket goes away. -/
def leave (h : Hub α) (ticket : Nat) : Hub α :=
  { h with queues := h.queues.leave ticket }

end Hub

end AisFeed
