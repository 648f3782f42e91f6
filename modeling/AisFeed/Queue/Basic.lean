import AisFeed.Event
import AisFeed.Queue.Channel

/-!
# Queues

A queue is a channel to one consumer. By its policy it grows without bound, or it holds at most
so many items and gives up the oldest for a new one; to do that it can take items itself, and so
it is never unattended. A queue whose channel the consumer made loses new items while it is
full. What `Queue.put` does are three separate operations on the channel: an offer,
`Queue.makeRoom`, and a second offer.
-/

set_option autoImplicit false

namespace AisFeed

/-- What a queue does when its consumer falls behind. -/
inductive QueuePolicy where
  | unbounded
  | dropOldest (capacity : Nat)
  deriving DecidableEq, Repr

/-- The capacity of the channel of a queue; there is always room for one item. -/
def QueuePolicy.capacity? : QueuePolicy → Option Nat
  | unbounded => none
  | dropOldest capacity => some (max 1 capacity)

/-- A queue to a consumer. -/
structure Queue (α : Type) where
  name : String
  channel : Channel α
  /-- Whether the queue can take items itself. -/
  takesOldest : Bool
  /-- How many items were lost so far. -/
  dropped : Nat
  deriving DecidableEq, Repr

namespace Queue

variable {α : Type}

/-- A queue by a policy. -/
def ofPolicy (name : String) (policy : QueuePolicy) : Queue α :=
  ⟨name, .new policy.capacity?, policy.capacity?.isSome, 0⟩

/-- A queue over a channel that the consumer made. -/
def ofConsumer (name : String) (capacity : Option Nat) : Queue α :=
  ⟨name, .new capacity, false, 0⟩

/-- Is the loss of the `n`th item worth an event? The first is, and every thousandth. -/
def isTold (n : Nat) : Bool :=
  decide (n = 1) || decide (n % 1000 = 0)

/-- Count an item that is lost. -/
def noteDrop (q : Queue α) : Queue α × List Event :=
  let n := q.dropped + 1
  ({ q with dropped := n }, if isTold n then [.dropped q.name n] else [])

/-- Give up the oldest item, if the queue can take items and holds any. -/
def makeRoom (q : Queue α) : Queue α × List Event :=
  if q.takesOldest then
    match q.channel.take with
    | (_, none) => (q, [])
    | (channel, some _) => { q with channel }.noteDrop
  else (q, [])

/-- The second offer of an item, lost if there is still no room. The flag tells whether anyone
attends to the queue. -/
def offerAgain (q : Queue α) (a : α) : Queue α × Bool × List Event :=
  match q.channel.offer a with
  | (channel, .taken) => ({ q with channel }, true, [])
  | (_, .unattended) => (q, false, [])
  | (_, .full) =>
    let (q, events) := q.noteDrop
    (q, true, events)

/-- Put an item into the queue: offer it, and if there is no room, make room and offer it
again. The flag tells whether anyone attends to the queue. -/
def put (q : Queue α) (a : α) : Queue α × Bool × List Event :=
  match q.channel.offer a with
  | (channel, .taken) => ({ q with channel }, true, [])
  | (_, .unattended) => (q, false, [])
  | (_, .full) =>
    let (q, made) := q.makeRoom
    let (q, isAttended, events) := q.offerAgain a
    (q, isAttended, made ++ events)

/-- The consumer takes an item. -/
def take (q : Queue α) : Queue α × Option α :=
  let (channel, item) := q.channel.take
  ({ q with channel }, item)

/-- The consumer takes all items. -/
def drain (q : Queue α) : Queue α × List α :=
  ({ q with channel := { q.channel with items := [] } }, q.channel.items)

/-- The consumer goes away. A queue that can take items itself stays attended. -/
def leave (q : Queue α) : Queue α :=
  { q with channel := { q.channel with isAttended := q.takesOldest } }

end Queue

end AisFeed
