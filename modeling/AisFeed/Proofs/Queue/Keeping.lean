import AisFeed.Queue.Basic

/-!
# What a queue keeps

A queue keeps all items, or the newest, or those for which there was room: `Keeping`. What a
publication does to a queue that is attended to is a function of this and of the items that wait
(`put_eq_of_keeps`): an item that finds room joins the end, and else either the oldest item is lost
or the new one.
-/

set_option autoImplicit false

namespace AisFeed

/-- What a queue keeps of the items that are published. -/
inductive Keeping where
  | all
  /-- So many of the newest, but at least one. -/
  | newest (capacity : Nat)
  /-- Those that come while fewer than so many wait. -/
  | first (capacity : Nat)
  deriving DecidableEq, Repr

namespace Keeping

/-- The capacity of the channel of such a queue. -/
def capacity? : Keeping → Option Nat
  | all => none
  | newest n => some (max 1 n)
  | first n => some n

/-- Does such a queue lose its oldest item for a new one? -/
def losesOldest : Keeping → Bool
  | newest _ => true
  | all | first _ => false

variable {α : Type}

/-- Is there room for one more item? -/
def HasRoom (k : Keeping) (queued : List α) : Prop :=
  ∀ n ∈ k.capacity?, queued.length < n

instance (k : Keeping) (queued : List α) : Decidable (k.HasRoom queued) :=
  inferInstanceAs (Decidable (∀ n ∈ k.capacity?, queued.length < n))

/-- What waits after a publication. -/
def push (k : Keeping) (queued : List α) (a : α) : List α :=
  if k.HasRoom queued then queued ++ [a]
  else if k.losesOldest then queued.tail ++ [a]
  else queued

end Keeping

/-- A queue that loses its oldest item for a new one has room for that. -/
theorem Keeping.pos_of_losesOldest {k : Keeping} (loses : k.losesOldest = true) {n : Nat}
    (limit : n ∈ k.capacity?) : 0 < n := by
  cases k with
  | all => cases loses
  | first m => cases loses
  | newest m =>
    cases limit
    exact Nat.lt_of_lt_of_le Nat.one_pos (Nat.le_max_left 1 m)

/-- A full queue that loses its oldest item holds one. -/
theorem Keeping.oldest_of_full {α : Type} {k : Keeping} {queued : List α}
    (loses : k.losesOldest = true) (full : ¬k.HasRoom queued) : ∃ a rest, queued = a :: rest := by
  cases queued with
  | nil => exact absurd (fun n limit => pos_of_losesOldest loses limit) full
  | cons a rest => exact ⟨a, rest, rfl⟩

namespace Queue

variable {α : Type}

/-- A queue that keeps what it should, and that its consumer attends to. -/
structure Keeps (k : Keeping) (q : Queue α) : Prop where
  capacity : q.channel.capacity = k.capacity?
  takesOldest : q.takesOldest = k.losesOldest
  isAttended : q.channel.isAttended = true
  bounded : ∀ n ∈ k.capacity?, q.channel.items.length ≤ n

variable {k : Keeping} {q : Queue α}

theorem Keeps.hasRoom_iff (keeps : q.Keeps k) :
    q.channel.hasRoom = true ↔ k.HasRoom q.channel.items := by
  unfold Channel.hasRoom Keeping.HasRoom
  rw [keeps.capacity]
  cases k.capacity? <;> simp

theorem Keeps.offer_of_room (keeps : q.Keeps k) (room : k.HasRoom q.channel.items) (a : α) :
    q.channel.offer a = ({ q.channel with items := q.channel.items ++ [a] }, .taken) := by
  have hasRoom := keeps.hasRoom_iff.2 room
  simp [Channel.offer, hasRoom, keeps.isAttended]

theorem Keeps.offer_of_full (keeps : q.Keeps k) (full : ¬k.HasRoom q.channel.items) (a : α) :
    q.channel.offer a = (q.channel, .full) := by
  have hasRoom := mt keeps.hasRoom_iff.1 full
  simp [Channel.offer, hasRoom, keeps.isAttended]

/-- The queue with other items and another count of what was lost. -/
def withItems (q : Queue α) (items : List α) (dropped : Nat) : Queue α :=
  { q with channel := { q.channel with items }, dropped }

theorem Keeps.withItems (keeps : q.Keeps k) {items : List α} (dropped : Nat)
    (bounded : ∀ n ∈ k.capacity?, items.length ≤ n) : (q.withItems items dropped).Keeps k :=
  ⟨keeps.capacity, keeps.takesOldest, keeps.isAttended, bounded⟩

theorem Keeps.append (keeps : q.Keeps k) (room : k.HasRoom q.channel.items) (a : α)
    (dropped : Nat) : (q.withItems (q.channel.items ++ [a]) dropped).Keeps k := by
  refine keeps.withItems dropped fun n limit => ?_
  rw [List.length_append, List.length_singleton]
  exact room n limit

theorem Keeps.drop (keeps : q.Keeps k) (n dropped : Nat) :
    (q.withItems (q.channel.items.drop n) dropped).Keeps k := by
  refine keeps.withItems dropped fun m limit => ?_
  rw [List.length_drop]
  exact Nat.le_trans (Nat.sub_le _ _) (keeps.bounded m limit)

/-- What is told when one more item is lost. -/
def told (q : Queue α) : List Event :=
  if isTold (q.dropped + 1) then [.dropped q.name (q.dropped + 1)] else []

/-- Making room in a full queue: the oldest item is lost, or nothing happens. -/
theorem Keeps.makeRoom (keeps : q.Keeps k) (full : ¬k.HasRoom q.channel.items) :
    if k.losesOldest then
      q.makeRoom = (q.withItems q.channel.items.tail (q.dropped + 1), q.told) ∧
        k.HasRoom q.channel.items.tail
    else q.makeRoom = (q, []) := by
  have takes := keeps.takesOldest
  unfold Queue.makeRoom
  split
  · rename_i loses
    rw [loses] at takes
    obtain ⟨oldest, rest, held⟩ := Keeping.oldest_of_full loses full
    rw [if_pos takes, Channel.take, held]
    refine ⟨rfl, fun n limit => ?_⟩
    have := keeps.bounded n limit
    rw [held, List.length_cons] at this
    exact this
  · rename_i keepsOldest
    rw [if_neg (by rwa [takes])]

/-- A queue after a publication, if it is attended to. -/
def passed (k : Keeping) (q : Queue α) (a : α) : Queue α :=
  q.withItems (k.push q.channel.items a)
    (if k.HasRoom q.channel.items then q.dropped else q.dropped + 1)

/-- What is told of a publication to a queue that is attended to. -/
def losses (k : Keeping) (q : Queue α) : List Event :=
  if k.HasRoom q.channel.items then [] else q.told

/-- A publication to a queue that is attended to: what waits is a function of what waited, and an
item that is lost is counted. -/
theorem put_eq_of_keeps (keeps : q.Keeps k) (a : α) :
    q.put a = (q.passed k a, true, q.losses k) := by
  unfold put passed losses Keeping.push
  by_cases room : k.HasRoom q.channel.items
  · rw [keeps.offer_of_room room, if_pos room, if_pos room, if_pos room]
    rfl
  · rw [keeps.offer_of_full room, if_neg room, if_neg room, if_neg room]
    have made := keeps.makeRoom room
    split at made
    · rename_i loses
      obtain ⟨made, free⟩ := made
      -- with its oldest item given up, the queue has room for the new one
      have lighter := keeps.drop 1 (q.dropped + 1)
      rw [List.drop_one] at lighter
      rw [made, if_pos loses]
      dsimp only [offerAgain]
      rw [lighter.offer_of_room free, List.append_nil]
      rfl
    · rename_i keepsOldest
      rw [made, if_neg keepsOldest]
      dsimp only [offerAgain]
      rw [keeps.offer_of_full room]
      rfl

/-- A publication leaves a queue within its capacity. -/
theorem Keeps.passed (keeps : q.Keeps k) (a : α) : (q.passed k a).Keeps k := by
  apply keeps.withItems
  intro n limit
  have bounded := keeps.bounded n limit
  unfold Keeping.push
  by_cases room : k.HasRoom q.channel.items
  · rw [if_pos room, List.length_append, List.length_singleton]
    exact room n limit
  · rw [if_neg room]
    split
    · rename_i loses
      have := Keeping.pos_of_losesOldest loses limit
      rw [List.length_append, List.length_tail, List.length_singleton]
      omega
    · exact bounded

/-- A publication to a queue that is attended to, without a word of what is told. -/
theorem put_of_keeps (keeps : q.Keeps k) (a : α) :
    ∃ q' events, q.put a = (q', true, events) ∧ q'.Keeps k ∧
      q'.channel.items = k.push q.channel.items a ∧
      q'.dropped = if k.HasRoom q.channel.items then q.dropped else q.dropped + 1 :=
  ⟨_, _, put_eq_of_keeps keeps a, keeps.passed a, rfl, rfl⟩

/-- A publication to a queue that is not attended to, however full it is. -/
theorem put_of_unattended (gone : q.channel.isAttended = false) (a : α) :
    q.put a = (q, false, []) := by
  rw [put, Channel.offer, gone]
  rfl

/-- What the consumer takes is the oldest item. -/
theorem take_eq (q : Queue α) :
    q.take = (q.withItems (q.channel.items.drop 1) q.dropped, q.channel.items.head?) := by
  obtain ⟨name, ⟨items, capacity, isAttended⟩, takesOldest, dropped⟩ := q
  cases items <;> rfl

theorem drain_eq (q : Queue α) :
    q.drain = (q.withItems (q.channel.items.drop q.channel.items.length) q.dropped,
      q.channel.items) := by
  rw [List.drop_length]
  rfl

end Queue

end AisFeed
