import AisFeed.Proofs.Queue.Race

/-!
# What a queue keeps in a race, and what it gives up

Every put ends with its item behind all others (`Race.PutsNewest`), however often the consumer takes
items in between. That the queue is full is seen at the first offer of an item, and its oldest item
is given up only then, in an operation of its own. What the consumer takes in between is not seen:
the queue then misses as many items as were taken since (`takesSince`), and gives one up all the
same, unless it was emptied. `Race.run_keeps_newest` draws the conclusions.
-/

set_option autoImplicit false

namespace AisFeed

variable {α : Type}

/-- How many turns the consumer has had since the one who puts items, after one more turn. -/
def Racer.since (taken : Nat) : Racer → Nat
  | producer => 0
  | consumer => taken + 1
  | leaver => taken

/-- How many turns the consumer has had since the last operation of the one who puts items. -/
def takesSince (schedule : List Racer) : Nat :=
  schedule.foldl Racer.since 0

/-- While room is to be made, a queue is full but for what was taken since it refused an item. -/
def Race.IsFullBut (n taken : Nat) (r : Race α) : Prop :=
  ∀ a, r.phase = .refused a → r.queue.channel.items.length = max 1 n - taken

namespace Race

/-- The item that is being put, or else the one that is put next. -/
def current? (r : Race α) : Option α :=
  (r.phase.underWay ++ r.coming).head?

/-- What the next operation does of the one who puts items into a queue for the `n` newest. -/
structure PutsNewest (n : Nat) (r : Race α) : Prop where
  /-- The first offer: the item joins the end, unless the queue is full. -/
  first : ∀ a rest, r.phase = .idle → r.coming = a :: rest →
    r.put.published = r.published ++ [a] ∧ r.put.coming = rest ∧
      r.put.queue.dropped = r.queue.dropped ∧
      if r.queue.channel.items.length < max 1 n then
        r.put.phase = .idle ∧ r.put.queue.channel.items = r.queue.channel.items ++ [a]
      else r.put.phase = .refused a ∧ r.put.queue.channel.items = r.queue.channel.items
  /-- The making of room: the oldest of the items that wait is lost, if any do. -/
  makesRoom : ∀ a, r.phase = .refused a → r.put.phase = .again a ∧
    r.put.queue.channel.items = r.queue.channel.items.tail ∧
    r.put.queue.dropped = r.queue.dropped + min 1 r.queue.channel.items.length
  /-- The second offer: there is room, and the item joins the end. -/
  second : ∀ a, r.phase = .again a → (r.queue.channel.offer a).2 = .taken ∧
    r.put.phase = .idle ∧ r.put.queue.channel.items = r.queue.channel.items ++ [a] ∧
    r.put.queue.dropped = r.queue.dropped
  /-- Whichever operation ends a put, the item is behind all others then. -/
  ends : ∀ a, r.current? = some a → r.put.phase = .idle →
    r.put.queue.channel.items = r.queue.channel.items ++ [a]
  /-- A put that nobody disturbs takes at most three operations. -/
  alone : ∀ a rest, r.phase = .idle → r.coming = a :: rest → ∃ turns ≤ 3,
    let next := r.run (List.replicate turns .producer)
    next.phase = .idle ∧ next.published = r.published ++ [a] ∧ next.coming = rest ∧
      next.queue = (r.queue.put a).1 ∧ next.queue.channel.items.getLast? = some a
  /-- Nobody else has a part in it. -/
  others : ∀ racer, racer ≠ .producer → (r.turn racer).phase = r.phase ∧
    (r.turn racer).published = r.published ∧ (r.turn racer).coming = r.coming

section Orderly

variable {n taken : Nat} {items early : List α} {lost : List Nat} {r : Race α}

theorem Orderly.puts_first (orderly : r.Orderly n items early lost) {a : α} {rest : List α}
    (idle : r.phase = .idle) (next : r.coming = a :: rest) :
    r.put.published = r.published ++ [a] ∧ r.put.coming = rest ∧
      r.put.queue.dropped = r.queue.dropped ∧
      if r.queue.channel.items.length < max 1 n then
        r.put.phase = .idle ∧ r.put.queue.channel.items = r.queue.channel.items ++ [a]
      else r.put.phase = .refused a ∧ r.put.queue.channel.items = r.queue.channel.items := by
  by_cases room : (Keeping.newest n).HasRoom r.queue.channel.items
  · rw [put_of_room orderly.keeps idle next room, if_pos (Keeping.hasRoom_newest_iff.1 room)]
    exact ⟨rfl, rfl, rfl, idle, rfl⟩
  · rw [put_of_full orderly.keeps idle next room, if_neg (mt Keeping.hasRoom_newest_iff.2 room)]
    exact ⟨rfl, rfl, rfl, rfl, rfl⟩

theorem Orderly.puts_second (orderly : r.Orderly n items early lost) {a : α}
    (again : r.phase = .again a) :
    (r.queue.channel.offer a).2 = .taken ∧ r.put.phase = .idle ∧
      r.put.queue.channel.items = r.queue.channel.items ++ [a] ∧
      r.put.queue.dropped = r.queue.dropped := by
  have room := orderly.room a again
  rw [put_of_again orderly.keeps again room, orderly.keeps.offer_of_room room]
  exact ⟨rfl, rfl, rfl, rfl⟩

theorem Orderly.puts_alone (orderly : r.Orderly n items early lost) {a : α} {rest : List α}
    (idle : r.phase = .idle) (next : r.coming = a :: rest) :
    ∃ turns ≤ 3, let after := r.run (List.replicate turns .producer)
      after.phase = .idle ∧ after.published = r.published ++ [a] ∧ after.coming = rest ∧
        after.queue = (r.queue.put a).1 ∧ after.queue.channel.items.getLast? = some a := by
  obtain ⟨queue, phase, published, coming, received, events⟩ := r
  cases idle
  cases next
  obtain ⟨turns, -, few, done⟩ := put_alone queue a published rest received events
  refine ⟨turns, few, ?_⟩
  rw [done, Queue.put_eq_of_keeps orderly.keeps]
  refine ⟨rfl, rfl, rfl, rfl, ?_⟩
  -- whether there was room or the oldest item was lost, the new one comes last
  show (Keeping.push (.newest n) queue.channel.items a).getLast? = some a
  unfold Keeping.push
  split
  · exact List.getLast?_concat
  · exact List.getLast?_concat

/-- The one who puts items, at any point of a race. -/
theorem Orderly.putsNewest (orderly : r.Orderly n items early lost) : r.PutsNewest n where
  first _ _ := orderly.puts_first
  makesRoom a refused := by
    obtain ⟨told, made⟩ := put_of_refused orderly.keeps refused
    rw [made]
    exact ⟨rfl, rfl, rfl⟩
  second _ := orderly.puts_second
  ends a current ends := by
    unfold current? at current
    cases phase : r.phase with
    | idle =>
      rw [phase] at current
      obtain ⟨rest, next⟩ : ∃ rest, r.coming = a :: rest := List.head?_eq_some_iff.1 current
      obtain ⟨-, -, -, offered⟩ := orderly.puts_first phase next
      split at offered
      · exact offered.2
      · rw [offered.1] at ends
        cases ends
    | refused b =>
      obtain ⟨told, made⟩ := put_of_refused orderly.keeps phase
      rw [made] at ends
      cases ends
    | again b =>
      rw [phase] at current
      cases current
      exact (orderly.puts_second phase).2.2.1
    | gone => exact absurd phase orderly.stays
  alone _ _ := orderly.puts_alone
  others racer other := by
    cases racer with
    | producer => exact absurd rfl other
    | consumer => exact ⟨rfl, rfl, rfl⟩
    | leaver => exact ⟨rfl, rfl, rfl⟩

/-! ## What is given up -/

theorem isFullBut_new (n : Nat) (q : Queue α) (items : List α) : (new q items).IsFullBut n 0 :=
  fun _ refused => nomatch refused

/-- The one who puts items makes the next operation. -/
theorem Orderly.isFullBut_put (orderly : r.Orderly n items early lost) : r.put.IsFullBut n 0 := by
  intro a refused
  cases phase : r.phase with
  | idle =>
    cases next : r.coming with
    | nil =>
      rw [put_of_nil phase next, phase] at refused
      cases refused
    | cons b rest =>
      obtain ⟨-, -, -, offered⟩ := orderly.puts_first phase next
      split at offered
      · rw [offered.1] at refused
        cases refused
      · rename_i full
        have bounded : r.queue.channel.items.length ≤ max 1 n := orderly.keeps.bounded _ rfl
        rw [offered.2, Nat.sub_zero]
        omega
  | refused b =>
    rw [(orderly.putsNewest.makesRoom b phase).1] at refused
    cases refused
  | again b =>
    rw [(orderly.puts_second phase).2.1] at refused
    cases refused
  | gone => exact absurd phase orderly.stays

/-- One turn. -/
theorem Orderly.isFullBut_turn (orderly : r.Orderly n items early lost)
    (fullBut : r.IsFullBut n taken) (racer : Racer) :
    (r.turn racer).IsFullBut n (racer.since taken) := by
  cases racer with
  | producer => exact orderly.isFullBut_put
  | consumer =>
    intro a refused
    have before : r.queue.channel.items.length = max 1 n - taken := fullBut a refused
    show r.queue.take.1.channel.items.length = max 1 n - (taken + 1)
    rw [Queue.take_eq]
    show (r.queue.channel.items.drop 1).length = max 1 n - (taken + 1)
    rw [List.length_drop]
    omega
  | leaver =>
    rw [Race.turn, orderly.leave]
    exact fullBut

/-- Turns in the order of any schedule. -/
theorem Orderly.isFullBut_run (orderly : r.Orderly n items early lost)
    (fullBut : r.IsFullBut n taken) (schedule : List Racer) :
    (r.run schedule).IsFullBut n (schedule.foldl Racer.since taken) := by
  induction schedule generalizing r early lost taken with
  | nil => exact fullBut
  | cons racer rest ih =>
    obtain ⟨early', lost', orderly', -⟩ := orderly.turn racer
    exact ih orderly' (orderly.isFullBut_turn fullBut racer)

/-- Only the making of room in a queue that is not empty gives up an item. -/
theorem Orderly.dropped_turn (orderly : r.Orderly n items early lost) (racer : Racer) :
    (r.turn racer).queue.dropped = r.queue.dropped ∨
      racer = .producer ∧ ∃ a oldest rest, r.phase = .refused a ∧
        r.queue.channel.items = oldest :: rest := by
  cases racer with
  | consumer =>
    left
    show r.queue.take.1.dropped = r.queue.dropped
    rw [Queue.take_eq]
    rfl
  | leaver => exact .inl rfl
  | producer =>
    cases phase : r.phase with
    | idle =>
      left
      cases next : r.coming with
      | nil => rw [Race.turn, put_of_nil phase next]
      | cons a rest => exact (orderly.puts_first phase next).2.2.1
    | refused a =>
      have lost := (orderly.putsNewest.makesRoom a phase).2.2
      cases held : r.queue.channel.items with
      | nil =>
        left
        rwa [held] at lost
      | cons oldest rest => exact .inr ⟨rfl, a, oldest, rest, rfl, rfl⟩
    | again a => exact .inl (orderly.puts_second phase).2.2.2
    | gone => exact absurd phase orderly.stays

end Orderly

/-- **A queue that keeps the newest items keeps them in any race.** Items are put into a queue for
the `n` newest, at least one, while its consumer takes items, or goes away, between any two
operations of the puts. At every point the queue is within its capacity. A second offer is always
taken, and whenever a put ends its item is behind all others. What was received, what waits and what
is under way are the published items in their order, without those at the places that were lost;
there are as many of these as were counted, and between two puts nothing else is missing. However
the race goes on from there, it loses no more items than it publishes. So long as no more items were
published than the queue can hold, none is lost. Only the one who puts items loses any, one at a
time, while it makes room for an item that was refused: the oldest of those that wait, which with
the turns that the consumer has had since the refusal make up the capacity. -/
theorem run_keeps_newest (name : String) (n : Nat) (items : List α) (schedule : List Racer) :
    let r := (new (.ofPolicy name (.dropOldest n)) items).run schedule
    let queued := r.queue.channel.items
    r.published ++ r.coming = items ∧ r.phase ≠ .gone ∧ queued.length ≤ max 1 n ∧
      r.PutsNewest n ∧
      (∃ lost : List Nat, lost.Pairwise (· < ·) ∧ (∀ i ∈ lost, i < r.published.length) ∧
        lost.length = r.queue.dropped ∧
        r.received ++ queued ++ r.phase.underWay = without lost r.published) ∧
      (r.received ++ queued).Sublist r.published ∧
      (r.phase = .idle →
        r.received.length + queued.length + r.queue.dropped = r.published.length ∧
        ∀ later, (r.run later).queue.dropped + r.published.length ≤
          r.queue.dropped + (r.run later).published.length) ∧
      (r.published.length ≤ max 1 n →
        r.queue.dropped = 0 ∧ r.received ++ queued = r.published) ∧
      ∀ racer, (r.turn racer).queue.dropped = r.queue.dropped ∨
        racer = .producer ∧ (r.turn racer).queue.dropped = r.queue.dropped + 1 ∧
          ∃ a early oldest rest, r.phase = .refused a ∧ queued = oldest :: rest ∧
            (r.turn racer).queue.channel.items = rest ∧
            r.published = early ++ oldest :: (rest ++ [a]) ∧
            queued.length + takesSince schedule = max 1 n := by
  have start := orderly_new name n items
  obtain ⟨early, lost, orderly, -⟩ := start.run schedule
  have fullBut := start.isFullBut_run (isFullBut_new n _ items) schedule
  generalize (new (.ofPolicy name (.dropOldest n)) items).run schedule = r at orderly fullBut
  dsimp only
  have kept : r.received ++ r.queue.channel.items ++ r.phase.underWay =
      without lost r.published := by
    rw [orderly.order, List.append_assoc early, without_append orderly.inside, ← orderly.received,
      List.append_assoc]
  have inside (i : Nat) (mem : i ∈ lost) : i < r.published.length := by
    rw [orderly.order, List.append_assoc, List.length_append]
    exact Nat.lt_add_right _ (orderly.inside i mem)
  refine ⟨orderly.script, orderly.stays, orderly.keeps.bounded _ rfl, orderly.putsNewest,
    ⟨lost, orderly.ascending, inside, orderly.dropped.symm, kept⟩, ?_, fun idle => ⟨?_, ?_⟩,
    fun few => ?_, fun racer => ?_⟩
  · exact (List.sublist_append_left _ _).trans (kept ▸ without_sublist lost r.published)
  · have whole := congrArg List.length orderly.order
    rw [idle] at whole
    simp only [PutPhase.underWay, List.append_nil, List.length_append] at whole
    have total := orderly.total
    have dropped := orderly.dropped
    omega
  · intro later
    obtain ⟨_, _, _, bound⟩ := orderly.run later
    rw [idle] at bound
    simp only [PutPhase.risk] at bound
    omega
  · have calm : ¬(r.phase ≠ .idle ∨ lost ≠ []) := fun busy =>
      absurd (orderly.crowded busy) (Nat.not_lt.2 few)
    obtain ⟨idle, none⟩ := not_or.1 calm
    rw [not_not] at idle none
    rw [idle, none, without_nil] at kept
    refine ⟨by rw [orderly.dropped, none]; rfl, ?_⟩
    rw [← kept]
    exact (List.append_nil _).symm
  · rcases orderly.dropped_turn racer with same | ⟨rfl, a, oldest, rest, refused, held⟩
    · exact .inl same
    · obtain ⟨-, left, lost⟩ := orderly.putsNewest.makesRoom a refused
      have missing := fullBut a refused
      have order := orderly.order
      rw [held] at left lost missing order
      rw [List.length_cons] at lost missing
      refine .inr ⟨rfl, by rw [turn, lost]; omega, a, early, oldest, rest, refused, held, left,
        ?_, ?_⟩
      · rw [order, refused]
        simp [PutPhase.underWay]
      · rw [takesSince, held, List.length_cons]
        omega

/-- A queue for one item gives up all but the last, and one for two items, of which the consumer has
taken one since the third was refused, gives up the other, while it has room for one. -/
theorem run_keeps_newest_of_three :
    let one := new (.ofPolicy "one" (.dropOldest 1)) [1, 2, 3]
    let two := new (.ofPolicy "two" (.dropOldest 2)) [1, 2, 3]
    let whole := List.replicate 7 Racer.producer
    let refusal := [Racer.producer, .producer, .producer, .consumer]
    ((one.run whole).queue.channel.items = [3] ∧ (one.run whole).queue.dropped = 2 ∧
      (one.run whole).phase = .idle ∧ (one.run whole).published = [1, 2, 3] ∧
      ∀ later, ((one.run whole).run later).queue.dropped + 3 ≤
        2 + ((one.run whole).run later).published.length) ∧
    (two.run refusal).phase = .refused 3 ∧ (two.run refusal).queue.channel.items = [2] ∧
      ((two.run refusal).run [.producer, .producer]).queue.channel.items = [3] ∧
      ((two.run refusal).run [.producer, .producer]).received = [1] ∧
      ((two.run refusal).run [.producer, .producer]).queue.dropped = 1 ∧
      (two.run (refusal ++ [.producer])).PutsNewest 2 := by
  intro one two whole refusal
  obtain ⟨-, -, -, -, -, -, between, -⟩ := run_keeps_newest "one" 1 [1, 2, 3] whole
  obtain ⟨-, -, -, puts, -⟩ := run_keeps_newest "two" 2 [1, 2, 3] (refusal ++ [.producer])
  have idle : (one.run whole).phase = .idle := by decide
  exact ⟨⟨by decide, by decide, idle, by decide, (between idle).2⟩, by decide, by decide, by decide,
    by decide, by decide, puts⟩

end Race

end AisFeed
