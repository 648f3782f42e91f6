import AisFeed.Queue.Distributor

/-!
# Publications in place

A distributor keeps its queues in one list and walks it by places while it puts an item into them. A
queue that is found unattended is taken out of the list on the way, and the queue that comes after
it then has its place. `Pass.run` is this walk.
-/

set_option autoImplicit false

namespace AisFeed

/-- A publication under way. -/
structure Pass (α : Type) where
  /-- The list as it is by now. -/
  queues : List (Nat × Queue α)
  /-- The place of the queue that is next. -/
  place : Nat
  /-- The tickets of the queues into which the item was put, one for each time. -/
  offered : List Nat
  events : List Event
  deriving DecidableEq, Repr

namespace Pass

variable {α : Type}

/-- The item was not put into any queue yet. -/
def start (queues : List (Nat × Queue α)) : Pass α :=
  ⟨queues, 0, [], []⟩

/-- Put the item into the queue that is next. -/
def step (a : α) (p : Pass α) (inside : p.place < p.queues.length) : Pass α :=
  let (ticket, q) := p.queues[p.place]
  let (q, isAttended, events) := q.put a
  if isAttended then
    { queues := p.queues.set p.place (ticket, q)
      place := p.place + 1
      offered := p.offered ++ [ticket]
      events := p.events ++ events }
  else
    { queues := p.queues.eraseIdx p.place
      place := p.place
      offered := p.offered ++ [ticket]
      events := p.events ++ events ++ [.unregistered q.name] }

/-- With every step one queue less is to come. -/
theorem step_decreases (a : α) (p : Pass α) (inside : p.place < p.queues.length) :
    (p.step a inside).queues.length - (p.step a inside).place <
      p.queues.length - p.place := by
  unfold step
  dsimp only
  split
  · dsimp only
    rw [List.length_set]
    omega
  · dsimp only
    rw [List.length_eraseIdx_of_lt inside]
    omega

/-- Put the item into the queues that are still to come. -/
def run (a : α) (p : Pass α) : Pass α :=
  if inside : p.place < p.queues.length then run a (p.step a inside) else p
termination_by p.queues.length - p.place
decreasing_by exact p.step_decreases a inside

end Pass

end AisFeed
