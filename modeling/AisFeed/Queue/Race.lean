import AisFeed.Queue.Basic

/-!
# Races for a queue

One party puts items into a queue while its consumer takes them. A put is not a single operation:
between the first offer, the making of room and the second offer, the consumer may take items, or
go away. A schedule says whose turn it is.
-/

set_option autoImplicit false

namespace AisFeed

/-- What the one who puts items into a queue is about. -/
inductive PutPhase (α : Type) where
  /-- Between two items. -/
  | idle
  /-- The queue was full when the item was offered, and room is to be made. -/
  | refused (a : α)
  /-- The item is to be offered again. -/
  | again (a : α)
  /-- The queue was found unattended. -/
  | gone
  deriving DecidableEq, Repr

/-- The item whose put has begun and not yet ended. -/
def PutPhase.underWay {α : Type} : PutPhase α → List α
  | idle | gone => []
  | refused a | again a => [a]

/-- A queue between the one who puts items and the one who takes them. -/
structure Race (α : Type) where
  queue : Queue α
  phase : PutPhase α
  /-- The items whose puts have begun. -/
  published : List α
  /-- The items that are to be put next. -/
  coming : List α
  /-- What the consumer has taken. -/
  received : List α
  events : List Event
  deriving DecidableEq, Repr

/-- Whose turn it is in a race. -/
inductive Racer where
  | producer
  | consumer
  /-- The consumer goes away. -/
  | leaver
  deriving DecidableEq, Repr

namespace Race

variable {α : Type}

/-- Items are to be put into a queue. -/
def new (queue : Queue α) (items : List α) : Race α :=
  ⟨queue, .idle, [], items, [], []⟩

/-- The next operation of the one who puts items: the first offer of an item, the making of room
after a refusal, or the second offer. -/
def put (r : Race α) : Race α :=
  match r.phase with
  | .idle =>
    match r.coming with
    | [] => r
    | a :: coming =>
      let begun := { r with published := r.published ++ [a], coming }
      match r.queue.channel.offer a with
      | (channel, .taken) => { begun with queue := { r.queue with channel } }
      | (_, .unattended) => { begun with phase := .gone }
      | (_, .full) => { begun with phase := .refused a }
  | .refused a =>
    let (queue, told) := r.queue.makeRoom
    { r with queue, phase := .again a, events := r.events ++ told }
  | .again a =>
    let (queue, isAttended, told) := r.queue.offerAgain a
    { r with queue, phase := if isAttended then .idle else .gone, events := r.events ++ told }
  | .gone => r

/-- The consumer takes the oldest item, if there is one. -/
def take (r : Race α) : Race α :=
  let (queue, item) := r.queue.take
  { r with queue, received := r.received ++ item.toList }

/-- The consumer goes away. -/
def leave (r : Race α) : Race α :=
  { r with queue := r.queue.leave }

/-- One turn. -/
def turn (r : Race α) : Racer → Race α
  | .producer => r.put
  | .consumer => r.take
  | .leaver => r.leave

/-- Turns in the order of a schedule. -/
def run (r : Race α) (schedule : List Racer) : Race α :=
  schedule.foldl turn r

end Race

end AisFeed
