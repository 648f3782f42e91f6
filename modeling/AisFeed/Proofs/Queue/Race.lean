import AisFeed.Proofs.Places
import AisFeed.Proofs.Queue.Keeping
import AisFeed.Queue.Race

/-!
# A race for a queue that keeps the newest items

A queue that keeps the newest items gives up its oldest for a new one, and the consumer may take
items between the refusal of the new one and the second offer. Each operation of a put has its
equation (`Race.put_of_room`, `Race.put_of_full`, `Race.put_of_refused`, `Race.put_of_again`).
`Race.Orderly` says what holds whoever's turn it is: of the published items the first were received
or lost, the next ones wait, and the last one may be under way. It is kept by every turn
(`Race.Orderly.turn`), and a turn loses no more than the put that is under way may still lose.
-/

set_option autoImplicit false

namespace AisFeed

variable {α : Type}

theorem without_sublist (places : List Nat) (items : List α) :
    (without places items).Sublist items := by
  have kept : (((items.zipIdx 0).filter fun p => p.2 ∉ places).map Prod.fst).Sublist
      ((items.zipIdx 0).map Prod.fst) :=
    List.filter_sublist.map Prod.fst
  rwa [List.zipIdx_map_fst] at kept

theorem Keeping.hasRoom_newest_iff {n : Nat} {queued : List α} :
    (Keeping.newest n).HasRoom queued ↔ queued.length < max 1 n := by
  constructor
  · exact fun room => room _ rfl
  · rintro fewer m limit
    cases limit
    exact fewer

namespace Queue

variable {q : Queue α}

/-- A queue that can take items itself gives up its oldest, if it holds any. -/
theorem makeRoom_of_takesOldest (takes : q.takesOldest = true) :
    ∃ told, q.makeRoom =
      (q.withItems q.channel.items.tail (q.dropped + min 1 q.channel.items.length), told) := by
  obtain ⟨name, ⟨items, capacity, isAttended⟩, takesOldest, dropped⟩ := q
  cases takes
  cases items with
  | nil => exact ⟨[], rfl⟩
  | cons oldest rest =>
    have one : min 1 (oldest :: rest).length = 1 := Nat.min_eq_left (by simp)
    rw [one]
    exact ⟨_, rfl⟩

/-- A queue that can take items itself stays attended when its consumer goes away. -/
theorem leave_of_takesOldest (takes : q.takesOldest = true)
    (attended : q.channel.isAttended = true) : q.leave = q := by
  obtain ⟨name, ⟨items, capacity, isAttended⟩, takesOldest, dropped⟩ := q
  cases takes
  cases attended
  rfl

end Queue

/-- How many items the put that is under way may still lose. -/
def PutPhase.risk : PutPhase α → Nat
  | refused _ => 1
  | idle | again _ | gone => 0

namespace Race

/-! ## A put that nobody disturbs -/

/-- A put that nobody disturbs does in one to three turns what `Queue.put` does. -/
theorem put_alone (q : Queue α) (a : α) (published coming received : List α)
    (events : List Event) :
    ∃ turns, 0 < turns ∧ turns ≤ 3 ∧
      run ⟨q, .idle, published, a :: coming, received, events⟩ (List.replicate turns .producer) =
        ⟨(q.put a).1, if (q.put a).2.1 then .idle else .gone, published ++ [a], coming, received,
          events ++ (q.put a).2.2⟩ := by
  rw [Queue.put]
  cases offered : q.channel.offer a with
  | mk channel outcome =>
    cases outcome with
    | taken =>
      refine ⟨1, by decide, by decide, ?_⟩
      simp [run, turn, put, offered]
    | unattended =>
      refine ⟨1, by decide, by decide, ?_⟩
      simp [run, turn, put, offered]
    | full =>
      refine ⟨3, by decide, by decide, ?_⟩
      simp [run, turn, put, offered]

/-! ## One operation -/

section Operations

variable {n : Nat} {r : Race α} {a : α} {rest : List α}

/-- Nothing is to be put. -/
theorem put_of_nil (idle : r.phase = .idle) (none : r.coming = []) : r.put = r := by
  rw [put, idle, none]

/-- The first offer of an item to a queue that has room: it joins the end. -/
theorem put_of_room (keeps : r.queue.Keeps (.newest n)) (idle : r.phase = .idle)
    (next : r.coming = a :: rest) (room : (Keeping.newest n).HasRoom r.queue.channel.items) :
    r.put = { r with
      queue := r.queue.withItems (r.queue.channel.items ++ [a]) r.queue.dropped
      published := r.published ++ [a]
      coming := rest } := by
  rw [put, idle, next]
  dsimp only
  rw [keeps.offer_of_room room]
  rfl

/-- The first offer of an item to a full queue: it is refused. -/
theorem put_of_full (keeps : r.queue.Keeps (.newest n)) (idle : r.phase = .idle)
    (next : r.coming = a :: rest) (full : ¬(Keeping.newest n).HasRoom r.queue.channel.items) :
    r.put = { r with
      phase := .refused a
      published := r.published ++ [a]
      coming := rest } := by
  rw [put, idle, next]
  dsimp only
  rw [keeps.offer_of_full full]

/-- Room is made after a refusal: the oldest item is lost, unless the consumer has taken all. -/
theorem put_of_refused (keeps : r.queue.Keeps (.newest n)) (refused : r.phase = .refused a) :
    ∃ told, r.put = { r with
      queue := r.queue.withItems r.queue.channel.items.tail
        (r.queue.dropped + min 1 r.queue.channel.items.length)
      phase := .again a
      events := r.events ++ told } := by
  obtain ⟨told, made⟩ := Queue.makeRoom_of_takesOldest keeps.takesOldest
  refine ⟨told, ?_⟩
  rw [put, refused]
  dsimp only
  rw [made]

/-- The second offer of an item to a queue that has room: it joins the end. -/
theorem put_of_again (keeps : r.queue.Keeps (.newest n)) (again : r.phase = .again a)
    (room : (Keeping.newest n).HasRoom r.queue.channel.items) :
    r.put = { r with
      queue := r.queue.withItems (r.queue.channel.items ++ [a]) r.queue.dropped
      phase := .idle } := by
  rw [put, again]
  dsimp only
  rw [Queue.offerAgain, keeps.offer_of_room room]
  dsimp only
  rw [List.append_nil]
  rfl

end Operations

/-! ## What holds throughout -/

/-- A race for a queue that keeps the `n` newest items: of the published items those of `early`
were received, or lost at the places `lost`, the next ones wait, and the last is under way while
its put is. -/
structure Orderly (n : Nat) (items early : List α) (lost : List Nat) (r : Race α) : Prop where
  keeps : r.queue.Keeps (.newest n)
  script : r.published ++ r.coming = items
  order : r.published = early ++ r.queue.channel.items ++ r.phase.underWay
  received : r.received = without lost early
  ascending : lost.Pairwise (· < ·)
  inside : ∀ i ∈ lost, i < early.length
  total : r.received.length + lost.length = early.length
  dropped : r.queue.dropped = lost.length
  /-- Before the second offer there is room. -/
  room : ∀ a, r.phase = .again a → (Keeping.newest n).HasRoom r.queue.channel.items
  /-- A put is under way, or an item was lost, only once there were too many items. -/
  crowded : r.phase ≠ .idle ∨ lost ≠ [] → max 1 n < r.published.length
  stays : r.phase ≠ .gone

section Orderly

variable {n : Nat} {items early : List α} {lost : List Nat} {r : Race α}

theorem orderly_new (name : String) (n : Nat) (items : List α) :
    (new (.ofPolicy name (.dropOldest n)) items).Orderly n items [] [] where
  keeps := ⟨rfl, rfl, rfl, fun _ _ => Nat.zero_le _⟩
  script := rfl
  order := rfl
  received := rfl
  ascending := .nil
  inside := fun _ mem => absurd mem List.not_mem_nil
  total := rfl
  dropped := rfl
  room := fun _ phase => nomatch phase
  crowded := by simp [new]
  stays := fun phase => nomatch phase

/-- What was published before a put is received, lost or waits. -/
theorem Orderly.order_of_idle (orderly : r.Orderly n items early lost) (idle : r.phase = .idle) :
    r.published = early ++ r.queue.channel.items := by
  have order := orderly.order
  rwa [idle, PutPhase.underWay, List.append_nil] at order

/-- The first offer of an item to a queue that has room. -/
theorem Orderly.put_room (orderly : r.Orderly n items early lost) (idle : r.phase = .idle) {a : α}
    {rest : List α} (next : r.coming = a :: rest)
    (room : (Keeping.newest n).HasRoom r.queue.channel.items) :
    r.put.Orderly n items early lost ∧
      r.put.queue.dropped + r.put.phase.risk + r.published.length ≤
        r.queue.dropped + r.put.published.length := by
  have script : r.published ++ [a] ++ rest = items := by rw [← orderly.script, next]; simp
  have joined : r.published ++ [a] = early ++ (r.queue.channel.items ++ [a]) ++ [] := by
    rw [orderly.order_of_idle idle]
    simp
  have crowded : r.phase ≠ .idle ∨ lost ≠ [] → max 1 n < (r.published ++ [a]).length := by
    intro busy
    have := orderly.crowded busy
    rw [List.length_append]
    omega
  rw [put_of_room orderly.keeps idle next room]
  refine ⟨{ orderly with
    keeps := orderly.keeps.append room a r.queue.dropped
    script := script
    order := ?_
    room := fun b again => ?_
    crowded := crowded }, ?_⟩
  · rw [idle]
    exact joined
  · rw [idle] at again
    cases again
  · simp only [idle, PutPhase.risk, Queue.withItems, List.length_append, List.length_singleton]
    omega

/-- The first offer of an item to a full queue. -/
theorem Orderly.put_full (orderly : r.Orderly n items early lost) (idle : r.phase = .idle) {a : α}
    {rest : List α} (next : r.coming = a :: rest)
    (noRoom : ¬(Keeping.newest n).HasRoom r.queue.channel.items) :
    r.put.Orderly n items early lost ∧
      r.put.queue.dropped + r.put.phase.risk + r.published.length ≤
        r.queue.dropped + r.put.published.length := by
  have order := orderly.order_of_idle idle
  have script : r.published ++ [a] ++ rest = items := by rw [← orderly.script, next]; simp
  -- the new item comes after all that wait
  have full : max 1 n ≤ r.queue.channel.items.length := by
    rwa [Keeping.hasRoom_newest_iff, Nat.not_lt] at noRoom
  have crowded : max 1 n < (r.published ++ [a]).length := by
    rw [order]
    simp only [List.length_append, List.length_singleton]
    omega
  rw [put_of_full orderly.keeps idle next noRoom]
  refine ⟨{ orderly with
    script := script
    order := congrArg (· ++ [a]) order
    room := nofun
    crowded := fun _ => crowded
    stays := nofun }, ?_⟩
  simp only [PutPhase.risk, List.length_append, List.length_singleton]
  omega

/-- The first offer of an item: it joins the end, or a full queue refuses it. -/
theorem Orderly.put_idle (orderly : r.Orderly n items early lost) (idle : r.phase = .idle) :
    r.put.Orderly n items early lost ∧
      r.put.queue.dropped + r.put.phase.risk + r.published.length ≤
        r.queue.dropped + r.put.published.length := by
  cases next : r.coming with
  | nil =>
    rw [put_of_nil idle next, idle]
    exact ⟨orderly, Nat.le_refl _⟩
  | cons a rest =>
    by_cases room : (Keeping.newest n).HasRoom r.queue.channel.items
    · exact orderly.put_room idle next room
    · exact orderly.put_full idle next room

/-- What was lost, when the oldest of the items that wait is lost too. -/
theorem Orderly.lose (orderly : r.Orderly n items early lost) (oldest : α) :
    r.received = without (lost ++ [early.length]) (early ++ [oldest]) ∧
      (lost ++ [early.length]).Pairwise (· < ·) ∧
      (∀ i ∈ lost ++ [early.length], i < (early ++ [oldest]).length) ∧
      r.received.length + (lost ++ [early.length]).length = (early ++ [oldest]).length := by
  have total := orderly.total
  refine ⟨?received, ?ascending, ?inside, ?total⟩
  case received => rw [without_lose orderly.inside, List.append_nil, orderly.received]
  case ascending =>
    refine List.pairwise_append.2 ⟨orderly.ascending, List.pairwise_singleton _ _, ?_⟩
    intro i mem j last
    rw [List.mem_singleton.1 last]
    exact orderly.inside i mem
  case inside =>
    intro i mem
    rw [List.length_append, List.length_singleton]
    rcases List.mem_append.1 mem with mem | mem
    · exact Nat.lt_succ_of_lt (orderly.inside i mem)
    · rw [List.mem_singleton.1 mem]
      exact Nat.lt_succ_self _
  case total =>
    simp only [List.length_append, List.length_singleton]
    omega

/-- Room is made after a refusal: the oldest item is lost, unless the consumer has taken all. -/
theorem Orderly.put_refused (orderly : r.Orderly n items early lost) {a : α}
    (refused : r.phase = .refused a) :
    ∃ early' lost', r.put.Orderly n items early' lost' ∧
      r.put.queue.dropped + r.put.phase.risk + r.published.length ≤
        r.queue.dropped + 1 + r.put.published.length := by
  obtain ⟨told, made⟩ := put_of_refused orderly.keeps refused
  have crowded : max 1 n < r.published.length :=
    orderly.crowded (.inl (by rw [refused]; nofun))
  have order := orderly.order
  have lighter := orderly.keeps.drop 1
    (r.queue.dropped + min 1 r.queue.channel.items.length)
  rw [List.drop_one] at lighter
  have room : (Keeping.newest n).HasRoom r.queue.channel.items.tail := by
    have bounded := orderly.keeps.bounded _ rfl
    rw [Keeping.hasRoom_newest_iff, List.length_tail]
    omega
  rw [refused] at order
  rw [made]
  cases held : r.queue.channel.items with
  | nil =>
    rw [held] at lighter room order
    refine ⟨early, lost, { orderly with
      keeps := lighter
      order := order
      room := fun _ _ => room
      crowded := fun _ => crowded
      stays := nofun }, ?_⟩
    simp only [PutPhase.risk, Queue.withItems, List.length_nil]
    omega
  | cons oldest rest =>
    have one : min 1 (oldest :: rest).length = 1 := Nat.min_eq_left (by simp)
    rw [held, one] at lighter
    rw [held] at room order
    obtain ⟨received, ascending, inside, total⟩ := orderly.lose oldest
    rw [one]
    refine ⟨early ++ [oldest], lost ++ [early.length], { orderly with
      keeps := lighter
      order := ?order
      received := received
      ascending := ascending
      inside := inside
      total := total
      dropped := ?dropped
      room := fun _ _ => room
      crowded := fun _ => crowded
      stays := nofun }, ?_⟩
    case order =>
      rw [order]
      simp [Queue.withItems, PutPhase.underWay]
    case dropped =>
      simp only [Queue.withItems, List.length_append, List.length_singleton, orderly.dropped]
    · simp only [Queue.withItems, PutPhase.risk]
      omega

/-- The second offer of an item: it joins the end. -/
theorem Orderly.put_again (orderly : r.Orderly n items early lost) {a : α}
    (again : r.phase = .again a) :
    r.put.Orderly n items early lost ∧
      r.put.queue.dropped + r.put.phase.risk + r.published.length ≤
        r.queue.dropped + r.put.published.length := by
  have room := orderly.room a again
  have crowded := orderly.crowded (.inl (by rw [again]; nofun))
  have order := orderly.order
  rw [again] at order
  have joined : r.published = early ++ (r.queue.channel.items ++ [a]) ++ [] := by
    rw [order]
    simp [PutPhase.underWay]
  rw [put_of_again orderly.keeps again room]
  exact ⟨{ orderly with
    keeps := orderly.keeps.append room a r.queue.dropped
    order := joined
    room := nofun
    crowded := fun _ => crowded
    stays := nofun }, Nat.le_refl _⟩

/-- The one who puts items makes the next operation. -/
theorem Orderly.put (orderly : r.Orderly n items early lost) :
    ∃ early' lost', r.put.Orderly n items early' lost' ∧
      r.put.queue.dropped + r.put.phase.risk + r.published.length ≤
        r.queue.dropped + r.phase.risk + r.put.published.length := by
  cases phase : r.phase with
  | idle => exact ⟨early, lost, orderly.put_idle phase⟩
  | refused a => exact orderly.put_refused phase
  | again a => exact ⟨early, lost, orderly.put_again phase⟩
  | gone => exact absurd phase orderly.stays

/-- The consumer takes an item. -/
theorem Orderly.take (orderly : r.Orderly n items early lost) :
    ∃ early', r.take.Orderly n items early' lost := by
  obtain ⟨queue, phase, published, coming, got, events⟩ := r
  obtain ⟨keeps, script, order, received, ascending, inside, total, dropped, room, crowded,
    stays⟩ := orderly
  dsimp only at *
  have lighter := keeps.drop 1 queue.dropped
  simp only [Race.take, Queue.take_eq]
  cases held : queue.channel.items with
  | nil =>
    rw [held] at lighter
    refine ⟨early, lighter, script, ?_, ?_, ascending, inside, ?_, dropped, fun a again => ?_,
      crowded, stays⟩
    · simp [order, held, Queue.withItems]
    · simp [received]
    · simpa using total
    · have := room a again
      rwa [held] at this
  | cons oldest rest =>
    rw [held, List.drop_one, List.tail_cons] at lighter
    refine ⟨early ++ [oldest], lighter, script, ?_, ?_, ascending, fun i mem => ?_, ?_, dropped,
      fun a again m limit => ?_, crowded, stays⟩
    · simp [order, held, Queue.withItems]
    · rw [without_append inside, received]
      rfl
    · rw [List.length_append]
      exact Nat.lt_add_right _ (inside i mem)
    · simp only [List.head?_cons, Option.toList_some, List.length_append, List.length_singleton]
      omega
    · have := room a again m limit
      rw [held, List.length_cons] at this
      exact Nat.lt_of_succ_lt this

theorem Orderly.leave (orderly : r.Orderly n items early lost) : r.leave = r := by
  rw [Race.leave, Queue.leave_of_takesOldest orderly.keeps.takesOldest orderly.keeps.isAttended]

/-- One turn: what is lost is at most what the put under way may lose, or what begins to be put. -/
theorem Orderly.turn (orderly : r.Orderly n items early lost) (racer : Racer) :
    ∃ early' lost', (r.turn racer).Orderly n items early' lost' ∧
      (r.turn racer).queue.dropped + (r.turn racer).phase.risk + r.published.length ≤
        r.queue.dropped + r.phase.risk + (r.turn racer).published.length := by
  cases racer with
  | producer => exact orderly.put
  | consumer =>
    obtain ⟨early', orderly'⟩ := orderly.take
    exact ⟨early', lost, orderly', Nat.le_refl _⟩
  | leaver =>
    refine ⟨early, lost, ?_⟩
    rw [Race.turn, orderly.leave]
    exact ⟨orderly, Nat.le_refl _⟩

/-- Turns in the order of any schedule. -/
theorem Orderly.run (orderly : r.Orderly n items early lost) (schedule : List Racer) :
    ∃ early' lost', (r.run schedule).Orderly n items early' lost' ∧
      (r.run schedule).queue.dropped + (r.run schedule).phase.risk + r.published.length ≤
        r.queue.dropped + r.phase.risk + (r.run schedule).published.length := by
  induction schedule generalizing r early lost with
  | nil => exact ⟨early, lost, orderly, Nat.le_refl _⟩
  | cons racer rest ih =>
    obtain ⟨early', lost', orderly', first⟩ := orderly.turn racer
    obtain ⟨early'', lost'', orderly'', later⟩ := ih orderly'
    refine ⟨early'', lost'', orderly'', ?_⟩
    rw [Race.run, List.foldl_cons, ← Race.run]
    omega

end Orderly

end Race

end AisFeed
