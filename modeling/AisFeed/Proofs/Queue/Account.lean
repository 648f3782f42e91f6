import AisFeed.Proofs.Places
import AisFeed.Proofs.Queue.Keeping
import AisFeed.Queue.Run

/-!
# The account of a queue

What a queue comes to can be told from the publications and from what its own consumer did,
without a look at other queues: `Account.ofMoves`. The account says which of the published items
were received, which wait, and at which places among them stood those that were lost.
`Account.sound_ofMoves` says what holds of every account: nothing is doubled, left out or put in
another order, and what is lost is lost as the queue should lose it.
-/

set_option autoImplicit false

namespace AisFeed

variable {α : Type}

/-! ## Accounts -/

/-- The item of a publication. -/
def Move.item? : Move α → Option α
  | publish a => some a
  | register _ | take _ | drain _ | leave _ => none

/-- The items that are published by moves. -/
def published (moves : List (Move α)) : List α :=
  moves.filterMap Move.item?

/-- What a queue should have come to. -/
structure Account (α : Type) where
  published : List α
  received : List α
  queued : List α
  /-- The places among the published items of those that were lost. -/
  lost : List Nat

/-- The place of the item that a publication loses, if there is no room. Of all that was published,
what waits came last. -/
def Keeping.loss (k : Keeping) (published queued : List α) : List Nat :=
  if k.HasRoom queued then []
  else if k.losesOldest then [published.length - queued.length]
  else [published.length]

namespace Account

/-- Nothing was published yet. -/
def empty : Account α := ⟨[], [], [], []⟩

/-- One more item is published. -/
def publish (k : Keeping) (b : Account α) (a : α) : Account α :=
  { b with
    published := b.published ++ [a]
    queued := k.push b.queued a
    lost := b.lost ++ k.loss b.published b.queued }

/-- The consumer takes so many items. -/
def take (b : Account α) (n : Nat) : Account α :=
  { b with received := b.received ++ b.queued.take n, queued := b.queued.drop n }

/-- The account of the queue with a ticket after a move. -/
def follow (k : Keeping) (ticket : Nat) (b : Account α) : Move α → Account α
  | .publish a => b.publish k a
  | .take t => if t = ticket then b.take 1 else b
  | .drain t => if t = ticket then b.take b.queued.length else b
  | .register _ | .leave _ => b

/-- The account of the queue with a ticket after moves. -/
def ofMoves (k : Keeping) (ticket : Nat) (moves : List (Move α)) : Account α :=
  moves.foldl (follow k ticket) empty

/-- What holds of an account. -/
structure Sound (k : Keeping) (b : Account α) : Prop where
  /-- Nothing is doubled, left out or put in another order. -/
  kept : b.received ++ b.queued = without b.lost b.published
  total : b.received.length + b.queued.length + b.lost.length = b.published.length
  ascending : b.lost.Pairwise (· < ·)
  inside : ∀ i ∈ b.lost, i < b.published.length
  bounded : ∀ n ∈ k.capacity?, b.queued.length ≤ n
  /-- Without a capacity nothing is lost. -/
  unlimited : k.capacity? = none → b.lost = []
  /-- What waits came last, and what is lost came as long before as the queue is long. -/
  newest : k.losesOldest = true →
    b.queued <:+ b.published ∧ ∀ n ∈ k.capacity?, ∀ i ∈ b.lost, i + n < b.published.length

theorem sound_empty (k : Keeping) : Sound k (empty : Account α) := by
  refine ⟨rfl, rfl, .nil, ?_, fun n _ => Nat.zero_le n, fun _ => rfl,
    fun _ => ⟨List.suffix_rfl, ?_⟩⟩
  · exact fun i mem => absurd mem List.not_mem_nil
  · exact fun n _ i mem => absurd mem List.not_mem_nil

theorem Sound.take {k : Keeping} {b : Account α} (sound : Sound k b) (n : Nat) :
    Sound k (b.take n) := by
  obtain ⟨kept, total, ascending, inside, bounded, unlimited, newest⟩ := sound
  refine ⟨?_, ?_, ascending, inside, fun m limit => ?_, unlimited, fun loses => ?_⟩
  · dsimp only [Account.take]
    rw [List.append_assoc, List.take_append_drop, kept]
  · have := congrArg List.length (List.take_append_drop n b.queued)
    rw [List.length_append] at this
    simp only [Account.take, List.length_append]
    omega
  · have := bounded m limit
    simp only [Account.take, List.length_drop]
    omega
  · obtain ⟨suffix, late⟩ := newest loses
    exact ⟨(List.drop_suffix n _).trans suffix, late⟩

/-- An item that finds room joins what waits. -/
theorem Sound.publish_of_room {k : Keeping} {b : Account α} (sound : Sound k b)
    (room : k.HasRoom b.queued) (a : α) : Sound k (b.publish k a) := by
  obtain ⟨kept, total, ascending, inside, bounded, unlimited, newest⟩ := sound
  simp only [publish, Keeping.push, Keeping.loss, if_pos room, List.append_nil]
  refine ⟨?_, ?_, ascending, fun i mem => ?_, fun n limit => ?_, unlimited, fun loses => ?_⟩
  · rw [← List.append_assoc, kept, ← without_append inside]
  · simp only [List.length_append, List.length_singleton]
    omega
  · rw [List.length_append, List.length_singleton]
    exact Nat.lt_succ_of_lt (inside i mem)
  · rw [List.length_append, List.length_singleton]
    exact room n limit
  · obtain ⟨suffix, late⟩ := newest loses
    refine ⟨?_, fun n limit i mem => ?_⟩
    · obtain ⟨early, split⟩ := suffix
      exact ⟨early, by rw [← List.append_assoc, split]⟩
    · rw [List.length_append, List.length_singleton]
      exact Nat.lt_succ_of_lt (late n limit i mem)

/-- An item that finds no room in a queue that keeps its oldest is lost itself. -/
theorem Sound.publish_of_full {k : Keeping} {b : Account α} (sound : Sound k b)
    (full : ¬k.HasRoom b.queued) (keepsOldest : ¬k.losesOldest = true) (a : α) :
    Sound k (b.publish k a) := by
  obtain ⟨kept, total, ascending, inside, bounded, unlimited, newest⟩ := sound
  simp only [publish, Keeping.push, Keeping.loss, if_neg full, if_neg keepsOldest]
  refine ⟨?_, ?_, ?_, fun i mem => ?_, bounded, fun none => ?_,
    fun loses => absurd loses keepsOldest⟩
  · rw [without_lose inside, List.append_nil, kept]
  · simp only [List.length_append, List.length_singleton]
    omega
  · refine List.pairwise_append.2 ⟨ascending, List.pairwise_singleton _ _, ?_⟩
    intro i mem j last
    rw [List.mem_singleton.1 last]
    exact inside i mem
  · rw [List.length_append, List.length_singleton]
    rcases List.mem_append.1 mem with mem | mem
    · exact Nat.lt_succ_of_lt (inside i mem)
    · rw [List.mem_singleton.1 mem]
      exact Nat.lt_succ_self _
  · exact absurd (fun n limit => by rw [none] at limit; cases limit) full

/-- An item that finds no room in a queue that loses its oldest takes the place of that. -/
theorem Sound.publish_of_oldest {k : Keeping} {b : Account α} (sound : Sound k b)
    (full : ¬k.HasRoom b.queued) (loses : k.losesOldest = true) (a : α) :
    Sound k (b.publish k a) := by
  obtain ⟨kept, total, ascending, inside, bounded, unlimited, newest⟩ := sound
  simp only [publish, Keeping.push, Keeping.loss, if_neg full, if_pos loses]
  obtain ⟨⟨early, split⟩, late⟩ := newest loses
  obtain ⟨oldest, rest, queued⟩ := Keeping.oldest_of_full loses full
  obtain ⟨n, limit, long⟩ : ∃ n ∈ k.capacity?, n ≤ b.queued.length := by
    simpa [Keeping.HasRoom] using full
  have short := bounded n limit
  have whole := congrArg List.length split
  rw [List.length_append] at whole
  -- the place of the oldest item that waits is the number of items before it
  have place : b.published.length - b.queued.length = early.length := by omega
  have before : ∀ i ∈ b.lost, i < early.length := by
    intro i mem
    have := late n limit i mem
    omega
  have received : b.received = without b.lost early := by
    rw [← split, without_append before] at kept
    exact List.append_cancel_right kept
  rw [place]
  rw [queued] at split whole short long total ⊢
  rw [List.tail_cons]
  rw [List.length_cons] at whole short long total
  refine ⟨?_, ?_, ?_, fun i mem => ?_, fun m limit' => ?_, fun none => ?_, fun _ => ⟨?_, ?_⟩⟩
  · rw [← split, List.append_assoc, List.cons_append, without_lose before, received]
  · simp only [List.length_append, List.length_singleton]
    omega
  · refine List.pairwise_append.2 ⟨ascending, List.pairwise_singleton _ _, ?_⟩
    intro i mem j last
    rw [List.mem_singleton.1 last]
    exact before i mem
  · rw [List.length_append, List.length_singleton]
    rcases List.mem_append.1 mem with mem | mem
    · exact Nat.lt_succ_of_lt (inside i mem)
    · rw [List.mem_singleton.1 mem]
      omega
  · cases Option.mem_unique limit limit'
    rw [List.length_append, List.length_singleton]
    omega
  · rw [none] at limit
    cases limit
  · refine ⟨early ++ [oldest], ?_⟩
    rw [← split]
    simp
  · intro m limit' i mem
    cases Option.mem_unique limit limit'
    rw [List.length_append, List.length_singleton]
    rcases List.mem_append.1 mem with mem | mem
    · exact Nat.lt_succ_of_lt (late n limit i mem)
    · rw [List.mem_singleton.1 mem]
      omega

theorem Sound.publish {k : Keeping} {b : Account α} (sound : Sound k b) (a : α) :
    Sound k (b.publish k a) := by
  by_cases room : k.HasRoom b.queued
  · exact sound.publish_of_room room a
  · by_cases loses : k.losesOldest = true
    · exact sound.publish_of_oldest room loses a
    · exact sound.publish_of_full room loses a

theorem Sound.follow {k : Keeping} {b : Account α} (sound : Sound k b) (ticket : Nat)
    (move : Move α) : Sound k (b.follow k ticket move) := by
  cases move with
  | register registration => exact sound
  | publish a => exact sound.publish a
  | take t =>
    rw [Account.follow]
    split
    · exact sound.take 1
    · exact sound
  | drain t =>
    rw [Account.follow]
    split
    · exact sound.take _
    · exact sound
  | leave t => exact sound

/-- Every account is sound. -/
theorem sound_ofMoves (k : Keeping) (ticket : Nat) (moves : List (Move α)) :
    Sound k (ofMoves k ticket moves) := by
  have run (b : Account α) (sound : Sound k b) :
      Sound k (moves.foldl (Account.follow k ticket) b) := by
    induction moves generalizing b with
    | nil => exact sound
    | cons move rest ih => exact ih _ (sound.follow ticket move)
  exact run empty (sound_empty k)

theorem follow_published (k : Keeping) (ticket : Nat) (b : Account α) (move : Move α) :
    (b.follow k ticket move).published = b.published ++ move.item?.toList := by
  cases move with
  | publish a => rfl
  | register registration => exact (List.append_nil _).symm
  | take t =>
    rw [follow]
    split <;> exact (List.append_nil _).symm
  | drain t =>
    rw [follow]
    split <;> exact (List.append_nil _).symm
  | leave t => exact (List.append_nil _).symm

theorem published_ofMoves (k : Keeping) (ticket : Nat) (moves : List (Move α)) :
    (ofMoves k ticket moves).published = AisFeed.published moves := by
  have run (b : Account α) : (moves.foldl (Account.follow k ticket) b).published =
      b.published ++ AisFeed.published moves := by
    induction moves generalizing b with
    | nil => exact (List.append_nil _).symm
    | cons move rest ih =>
      rw [List.foldl_cons, ih, follow_published, List.append_assoc]
      cases move <;> rfl
  rw [ofMoves, run]
  rfl

/-- Nothing waits if nothing was published. -/
theorem queued_of_silent (k : Keeping) (ticket : Nat) {moves : List (Move α)}
    (silent : AisFeed.published moves = []) : (ofMoves k ticket moves).queued = [] := by
  have kept := (sound_ofMoves k ticket moves).kept
  rw [published_ofMoves, silent] at kept
  exact (List.append_eq_nil_iff.1 kept).2

/-! ## Single items -/

/-- The item that was published last waits at the end, unless there was no room for it. -/
theorem getLast?_publish {k : Keeping} (loses : k.losesOldest = true) (b : Account α) (a : α) :
    (b.publish k a).queued.getLast? = some a := by
  rw [publish, Keeping.push, if_pos loses]
  split <;> exact List.getLast?_concat

section KeepsOldest

variable {k : Keeping} (keepsOldest : ¬k.losesOldest = true) (ticket : Nat)
include keepsOldest

/-- Where the oldest items are kept, an item is lost when it is published or never. -/
theorem mem_lost_follow {b : Account α} {i : Nat} (old : i < b.published.length)
    (move : Move α) : i ∈ (b.follow k ticket move).lost ↔ i ∈ b.lost := by
  cases move with
  | register registration => rfl
  | publish a =>
    simp only [follow, publish, Keeping.loss, if_neg keepsOldest, List.mem_append,
      or_iff_left_iff_imp]
    split
    · exact fun mem => absurd mem List.not_mem_nil
    · exact fun mem => absurd old (Nat.not_lt.2 (Nat.le_of_eq (List.mem_singleton.1 mem).symm))
  | take t =>
    rw [follow]
    split <;> rfl
  | drain t =>
    rw [follow]
    split <;> rfl
  | leave t => rfl

theorem mem_lost_foldl {b : Account α} {i : Nat} (old : i < b.published.length)
    (moves : List (Move α)) :
    i ∈ (moves.foldl (follow k ticket) b).lost ↔ i ∈ b.lost := by
  induction moves generalizing b with
  | nil => rfl
  | cons move rest ih =>
    have older : i < (b.follow k ticket move).published.length := by
      rw [follow_published, List.length_append]
      exact Nat.lt_add_right _ old
    rw [List.foldl_cons, ih older, mem_lost_follow keepsOldest ticket old]

/-- Where the oldest items are kept, an item is lost exactly if there is no room for it when it is
published. -/
theorem mem_lost_iff (earlier : List (Move α)) (a : α) (later : List (Move α)) :
    (AisFeed.published earlier).length ∈
        (ofMoves k ticket (earlier ++ .publish a :: later)).lost ↔
      ¬k.HasRoom (ofMoves k ticket earlier).queued := by
  have sound := sound_ofMoves k ticket earlier
  rw [← published_ofMoves k ticket]
  rw [ofMoves, List.foldl_append, ← ofMoves, List.foldl_cons]
  rw [mem_lost_foldl keepsOldest ticket (by simp [follow, publish])]
  simp only [follow, publish, Keeping.loss, if_neg keepsOldest, List.mem_append]
  have new : (ofMoves k ticket earlier).published.length ∉ (ofMoves k ticket earlier).lost :=
    fun mem => Nat.lt_irrefl _ (sound.inside _ mem)
  split
  · rename_i room
    simp [new, room]
  · rename_i full
    simp [full]

end KeepsOldest

end Account

end AisFeed
