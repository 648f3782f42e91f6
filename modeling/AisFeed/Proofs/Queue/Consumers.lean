import AisFeed.Proofs.Queue.Account

/-!
# Every consumer sees its own queue

A distributor puts each item into all of its queues, in one list from which queues are removed as
their consumers go away. For a consumer that stays, none of that matters: after any moves its
queue holds what the queue's own account says, and it has received what the account says
(`run_follows_account`). The three kinds of queues differ only in what their accounts lose.
-/

set_option autoImplicit false

namespace AisFeed

variable {α : Type}

/-- What a queue by a policy keeps. -/
def QueuePolicy.keeping : QueuePolicy → Keeping
  | unbounded => .all
  | dropOldest n => .newest n

namespace Registration

/-- What a queue keeps that is registered in this way. -/
def keeping : Registration → Keeping
  | byPolicy _ policy => policy.keeping
  | byConsumer _ none => .all
  | byConsumer _ (some n) => .first n

/-- The queue that is registered. -/
def queue : Registration → Queue α
  | byPolicy name policy => .ofPolicy name policy
  | byConsumer name capacity => .ofConsumer name capacity

theorem keeps_queue (r : Registration) : (r.queue : Queue α).Keeps r.keeping := by
  cases r with
  | byPolicy name policy =>
    cases policy <;> exact ⟨rfl, rfl, rfl, fun n _ => Nat.zero_le n⟩
  | byConsumer name capacity =>
    cases capacity <;> exact ⟨rfl, rfl, rfl, fun n _ => Nat.zero_le n⟩

theorem queue_items (r : Registration) : (r.queue : Queue α).channel.items = [] := by
  cases r <;> rfl

theorem queue_dropped (r : Registration) : (r.queue : Queue α).dropped = 0 := by
  cases r <;> rfl

end Registration

/-- Does the consumer with a ticket take items? -/
def Move.isTakenBy (ticket : Nat) : Move α → Bool
  | take t | drain t => t = ticket
  | register _ | publish _ | leave _ => false

/-- The items that the consumer with a ticket got in a turn. -/
def Turn.gotBy (ticket : Nat) (turn : Turn α) : List α :=
  if turn.move.isTakenBy ticket then turn.outcome.toOption.getD [] else []

/-- The items that the consumer with a ticket received. -/
def received (ticket : Nat) (turns : List (Turn α)) : List α :=
  turns.flatMap (Turn.gotBy ticket)

namespace Distributor

/-! ## The queue of a ticket -/

/-- A queue is registered if there can be a channel of its capacity. -/
theorem enter_eq (d : Distributor α) (r : Registration) :
    d.enter r =
      match Channel.fault? r.keeping.capacity? with
      | some crash => .error crash
      | none => .ok (d.add r.queue) := by
  cases r with
  | byPolicy name policy => cases policy <;> rfl
  | byConsumer name capacity => cases capacity <;> rfl

theorem enter_eq_ok {d d' : Distributor α} {r : Registration} (entered : d.enter r = .ok d') :
    d' = d.add r.queue := by
  rw [enter_eq] at entered
  split at entered
  · cases entered
  · cases entered
    rfl

/-- The queues with a ticket: one, or none. -/
def queuesOf (d : Distributor α) (ticket : Nat) : List (Nat × Queue α) :=
  d.queues.filter fun p => p.1 = ticket

theorem queue?_eq_head? (d : Distributor α) (ticket : Nat) :
    d.queue? ticket = (d.queuesOf ticket).head?.map Prod.snd := by
  rw [queue?, queuesOf, List.head?_filter]

theorem queuesOf_add {d : Distributor α} {ticket : Nat} (given : ticket < d.ticket) (q : Queue α) :
    (d.add q).queuesOf ticket = d.queuesOf ticket := by
  rw [queuesOf, add, List.filter_append, queuesOf]
  simp [Nat.ne_of_gt given]

/-- An item comes to the queues of a ticket as if there were no others. -/
theorem filter_putAll (a : α) (queues : List (Nat × Queue α)) (ticket : Nat) :
    (putAll a queues).1.filter (fun p => p.1 = ticket) =
      (putAll a (queues.filter fun p => p.1 = ticket)).1 := by
  induction queues with
  | nil => rfl
  | cons p rest ih =>
    obtain ⟨t, q⟩ := p
    simp only [putAll]
    by_cases same : t = ticket
    · rw [List.filter_cons_of_pos (by simpa using same)]
      simp only [putAll]
      split
      · rw [List.filter_cons_of_pos (by simpa using same), ih]
      · exact ih
    · rw [List.filter_cons_of_neg (by simpa using same)]
      split
      · rw [List.filter_cons_of_neg (by simpa using same), ih]
      · exact ih

theorem queuesOf_publish (d : Distributor α) (a : α) (ticket : Nat) :
    (d.publish a).1.queuesOf ticket = (putAll a (d.queuesOf ticket)).1 :=
  filter_putAll a d.queues ticket

theorem queuesOf_setQueue (d : Distributor α) (other : Nat) (q : Queue α) (ticket : Nat) :
    (d.setQueue other q).queuesOf ticket =
      (d.queuesOf ticket).map fun p => if p.1 = other then (other, q) else p := by
  simp only [queuesOf, setQueue, List.filter_map]
  congr 1
  apply List.filter_congr
  intro p _
  by_cases same : p.1 = other
  · simp [same]
  · simp [same]

theorem queuesOf_remove (d : Distributor α) (other ticket : Nat) :
    (d.remove other).queuesOf ticket = (d.queuesOf ticket).filter fun p => p.1 ≠ other := by
  simp only [queuesOf, remove, List.filter_filter, Bool.and_comm]

/-- A distributor has the ticket given to one queue. -/
structure Holds (d : Distributor α) (ticket : Nat) (q : Queue α) : Prop where
  given : ticket < d.ticket
  queues : d.queuesOf ticket = [(ticket, q)]

namespace Holds

variable {d : Distributor α} {ticket : Nat} {q : Queue α}

theorem queue? (holds : d.Holds ticket q) : d.queue? ticket = some q := by
  rw [queue?_eq_head?, holds.queues]
  rfl

theorem add (holds : d.Holds ticket q) (new : Queue α) : (d.add new).Holds ticket q :=
  ⟨Nat.lt_succ_of_lt holds.given, (queuesOf_add holds.given new).trans holds.queues⟩

theorem setQueue (holds : d.Holds ticket q) (q' : Queue α) :
    (d.setQueue ticket q').Holds ticket q' := by
  refine ⟨holds.given, ?_⟩
  rw [queuesOf_setQueue, holds.queues]
  simp

theorem setQueue_of_ne (holds : d.Holds ticket q) {other : Nat} (ne : other ≠ ticket)
    (q' : Queue α) : (d.setQueue other q').Holds ticket q := by
  refine ⟨holds.given, ?_⟩
  rw [queuesOf_setQueue, holds.queues]
  simp [Ne.symm ne]

theorem take_of_ne (holds : d.Holds ticket q) {other : Nat} (ne : other ≠ ticket) :
    (d.take other).1.Holds ticket q := by
  unfold Distributor.take
  split
  · exact holds
  · exact holds.setQueue_of_ne ne _

theorem drain_of_ne (holds : d.Holds ticket q) {other : Nat} (ne : other ≠ ticket) :
    (d.drain other).1.Holds ticket q := by
  unfold Distributor.drain
  split
  · exact holds
  · exact holds.setQueue_of_ne ne _

theorem leave_of_ne (holds : d.Holds ticket q) {other : Nat} (ne : other ≠ ticket) :
    (d.leave other).Holds ticket q := by
  unfold Distributor.leave
  split
  · exact holds
  · exact holds.setQueue_of_ne ne _

theorem remove_of_ne (holds : d.Holds ticket q) {other : Nat} (ne : other ≠ ticket) :
    (d.remove other).Holds ticket q := by
  refine ⟨holds.given, ?_⟩
  rw [queuesOf_remove, holds.queues]
  simp [Ne.symm ne]

/-- A queue that is attended to gets an item, and stays. -/
theorem publish (holds : d.Holds ticket q) {a : α} {q' : Queue α} {events : List Event}
    (put : q.put a = (q', true, events)) : (d.publish a).1.Holds ticket q' := by
  refine ⟨holds.given, ?_⟩
  rw [queuesOf_publish, holds.queues]
  simp [putAll, put]

end Holds

/-- All tickets in use were given out. -/
def IsNumbered (d : Distributor α) : Prop :=
  ∀ p ∈ d.queues, p.1 < d.ticket

theorem IsNumbered.holds_add {d : Distributor α} (numbered : d.IsNumbered) (q : Queue α) :
    (d.add q).Holds d.ticket q := by
  have none : d.queuesOf d.ticket = [] := by
    rw [queuesOf, List.filter_eq_nil_iff]
    intro p mem same
    exact Nat.lt_irrefl d.ticket ((of_decide_eq_true same) ▸ numbered p mem)
  refine ⟨Nat.lt_succ_self _, ?_⟩
  rw [queuesOf, add, List.filter_append]
  rw [queuesOf] at none
  rw [none]
  simp

theorem isNumbered_empty : (empty : Distributor α).IsNumbered :=
  fun _ mem => nomatch mem

theorem IsNumbered.add {d : Distributor α} (numbered : d.IsNumbered) (q : Queue α) :
    (d.add q).IsNumbered := by
  intro p mem
  rcases List.mem_append.1 mem with mem | mem
  · exact Nat.lt_succ_of_lt (numbered p mem)
  · rw [List.mem_singleton.1 mem]
    exact Nat.lt_succ_self _

theorem fst_mem_of_mem_putAll {a : α} {queues : List (Nat × Queue α)} {p : Nat × Queue α}
    (mem : p ∈ (putAll a queues).1) : ∃ p' ∈ queues, p'.1 = p.1 := by
  induction queues with
  | nil => cases mem
  | cons p' rest ih =>
    obtain ⟨t, q⟩ := p'
    simp only [putAll] at mem
    split at mem
    · rcases List.mem_cons.1 mem with rfl | mem
      · exact ⟨_, List.mem_cons_self, rfl⟩
      · obtain ⟨p', mem, same⟩ := ih mem
        exact ⟨p', List.mem_cons_of_mem _ mem, same⟩
    · obtain ⟨p', mem, same⟩ := ih mem
      exact ⟨p', List.mem_cons_of_mem _ mem, same⟩

theorem IsNumbered.setQueue {d : Distributor α} (numbered : d.IsNumbered) (ticket : Nat)
    (q : Queue α) : (d.setQueue ticket q).IsNumbered := by
  intro p mem
  obtain ⟨p', mem', rfl⟩ := List.mem_map.1 mem
  have := numbered p' mem'
  split
  · rename_i same
    rwa [same] at this
  · exact this

theorem IsNumbered.turn {d : Distributor α} (numbered : d.IsNumbered) (move : Move α) :
    (d.turn move).1.IsNumbered := by
  cases move with
  | register r =>
    rw [Distributor.turn]
    split
    · exact numbered
    · rename_i d' entered
      rw [enter_eq_ok entered]
      exact numbered.add _
  | publish a =>
    intro p mem
    obtain ⟨p', mem, same⟩ := fst_mem_of_mem_putAll mem
    exact same ▸ numbered p' mem
  | take t =>
    simp only [Distributor.turn, Distributor.take]
    split
    · exact numbered
    · exact numbered.setQueue t _
  | drain t =>
    simp only [Distributor.turn, Distributor.drain]
    split
    · exact numbered
    · exact numbered.setQueue t _
  | leave t =>
    simp only [Distributor.turn, Distributor.leave]
    split
    · exact numbered
    · exact numbered.setQueue t _

theorem isNumbered_run {d : Distributor α} (numbered : d.IsNumbered) (moves : List (Move α)) :
    (d.run moves).1.IsNumbered := by
  induction moves generalizing d with
  | nil => exact numbered
  | cons move rest ih => exact ih (numbered.turn move)

/-! ## Following the account -/

/-- The queue of a ticket holds what an account says. -/
structure Follows (k : Keeping) (ticket : Nat) (d : Distributor α) (q : Queue α) (b : Account α) :
    Prop where
  holds : d.Holds ticket q
  keeps : q.Keeps k
  queued : q.channel.items = b.queued
  dropped : q.dropped = b.lost.length

section Follows

variable {k : Keeping} {ticket : Nat} {d : Distributor α} {q : Queue α} {b : Account α}

theorem Follows.publish (follows : Follows k ticket d q b) (a : α) :
    ∃ q', Follows k ticket (d.publish a).1 q' (b.publish k a) := by
  obtain ⟨holds, keeps, queued, dropped⟩ := follows
  obtain ⟨q', events, put, keeps', items, count⟩ := Queue.put_of_keeps keeps a
  refine ⟨q', holds.publish put, keeps', by rw [items, queued]; rfl, ?_⟩
  rw [count, queued, dropped, Account.publish, Keeping.loss]
  dsimp only
  rw [List.length_append]
  split
  · rfl
  · split <;> rfl

theorem Follows.take (follows : Follows k ticket d q b) (n : Nat) :
    Follows k ticket (d.setQueue ticket (q.withItems (q.channel.items.drop n) q.dropped))
      (q.withItems (q.channel.items.drop n) q.dropped) (b.take n) := by
  obtain ⟨holds, keeps, queued, dropped⟩ := follows
  refine ⟨holds.setQueue _, keeps.drop n q.dropped, ?_, dropped⟩
  rw [Account.take, ← queued]
  rfl

/-- One move, other than that the consumer goes away: the queue goes on as its account says, and
the consumer gets what the account says. -/
theorem Follows.turn (follows : Follows k ticket d q b) {move : Move α}
    (stays : move ≠ .leave ticket) :
    ∃ q', Follows k ticket (d.turn move).1 q' (b.follow k ticket move) ∧
      (b.follow k ticket move).received = b.received ++ (d.turn move).2.gotBy ticket := by
  have ⟨holds, keeps, queued, dropped⟩ := follows
  cases move with
  | register r =>
    rw [Distributor.turn]
    split
    · exact ⟨q, follows, (List.append_nil _).symm⟩
    · rename_i d' entered
      rw [enter_eq_ok entered]
      exact ⟨q, ⟨holds.add _, keeps, queued, dropped⟩, (List.append_nil _).symm⟩
  | publish a =>
    obtain ⟨q', follows⟩ := follows.publish a
    exact ⟨q', follows, (List.append_nil _).symm⟩
  | take t =>
    by_cases same : t = ticket
    · subst same
      simp only [Distributor.turn, Distributor.take, holds.queue?, Account.follow, if_true,
        Queue.take_eq]
      refine ⟨_, follows.take 1, ?_⟩
      rw [Account.take, ← queued, List.take_one]
      simp [Turn.gotBy, Move.isTakenBy, Except.toOption]
    · rw [Account.follow, if_neg same]
      refine ⟨q, ⟨holds.take_of_ne same, keeps, queued, dropped⟩, ?_⟩
      simp [Distributor.turn, Turn.gotBy, Move.isTakenBy, same]
  | drain t =>
    by_cases same : t = ticket
    · subst same
      simp only [Distributor.turn, Distributor.drain, holds.queue?, Account.follow, if_true,
        Queue.drain_eq]
      rw [← queued]
      refine ⟨_, follows.take _, ?_⟩
      rw [Account.take, ← queued, List.take_length]
      simp [Turn.gotBy, Move.isTakenBy, Except.toOption]
    · rw [Account.follow, if_neg same]
      refine ⟨q, ⟨holds.drain_of_ne same, keeps, queued, dropped⟩, ?_⟩
      simp [Distributor.turn, Turn.gotBy, Move.isTakenBy, same]
  | leave t =>
    have ne : t ≠ ticket := fun same => stays (by rw [same])
    exact ⟨q, ⟨holds.leave_of_ne ne, keeps, queued, dropped⟩, (List.append_nil _).symm⟩

/-- Moves without the one that the consumer goes away. -/
theorem Follows.run (follows : Follows k ticket d q b) {moves : List (Move α)}
    (stays : .leave ticket ∉ moves) :
    ∃ q', Follows k ticket (d.run moves).1 q' (moves.foldl (Account.follow k ticket) b) ∧
      (moves.foldl (Account.follow k ticket) b).received =
        b.received ++ received ticket (d.run moves).2 := by
  induction moves generalizing d q b with
  | nil => exact ⟨q, follows, (List.append_nil _).symm⟩
  | cons move rest ih =>
    obtain ⟨here, later⟩ := List.ne_and_not_mem_of_not_mem_cons stays
    obtain ⟨q', follows, got⟩ := follows.turn (Ne.symm here)
    obtain ⟨last, follows, more⟩ := ih follows later
    refine ⟨last, follows, ?_⟩
    rw [List.foldl_cons, more, got, List.append_assoc]
    rfl

end Follows

/-- From its registration on, a queue follows its account. -/
theorem follows_ofMoves {start d : Distributor α} (numbered : start.IsNumbered)
    {registration : Registration} (entered : start.enter registration = .ok d)
    {moves : List (Move α)} (stays : .leave start.ticket ∉ moves) :
    ∃ q, Follows registration.keeping start.ticket (d.run moves).1 q
        (Account.ofMoves registration.keeping start.ticket moves) ∧
      (Account.ofMoves registration.keeping start.ticket moves).received =
        received start.ticket (d.run moves).2 := by
  have fresh : Follows registration.keeping start.ticket d registration.queue Account.empty := by
    rw [enter_eq_ok entered]
    exact ⟨numbered.holds_add _, registration.keeps_queue, registration.queue_items,
      registration.queue_dropped⟩
  obtain ⟨q, follows, got⟩ := fresh.run stays
  exact ⟨q, follows, got⟩

/-- **Every consumer sees its own queue.** Let a queue be registered with a distributor that has
been through any moves, and let any moves follow among which its consumer does not go away. Then
the consumer received, and the queue holds, what the account of the queue says, which tells of no
other queue: the items published since, without those at the places that were lost. A queue that
keeps all items loses none. One that keeps the newest holds the last of them, no more than its
capacity, ends with an item just published, and loses an item only once so many later ones have
been published. One that keeps the first loses an item exactly if the queue is full when the item
is published. -/
theorem run_follows_account (before : List (Move α)) {registration : Registration}
    {d : Distributor α}
    (entered : ((empty : Distributor α).run before).1.enter registration = .ok d)
    (after : List (Move α))
    (stays : .leave ((empty : Distributor α).run before).1.ticket ∉ after) :
    let ticket := ((empty : Distributor α).run before).1.ticket
    let taken := received ticket (d.run after).2
    let account := Account.ofMoves registration.keeping ticket after
    ∃ q, (d.run after).1.queue? ticket = some q ∧
      taken = account.received ∧ q.channel.items = account.queued ∧
      q.dropped = account.lost.length ∧
      account.lost.Pairwise (· < ·) ∧ (∀ i ∈ account.lost, i < (published after).length) ∧
      taken ++ q.channel.items = without account.lost (published after) ∧
      taken.length + q.channel.items.length + q.dropped = (published after).length ∧
      (registration.keeping = .all → taken ++ q.channel.items = published after) ∧
      (∀ n, registration.keeping = .newest n →
        q.channel.items <:+ published after ∧ q.channel.items.length ≤ max 1 n ∧
        (∀ i ∈ account.lost, i + max 1 n < (published after).length) ∧
        ∀ earlier a, after = earlier ++ [.publish a] → q.channel.items.getLast? = some a) ∧
      (∀ n, registration.keeping = .first n →
        q.channel.items.length ≤ n ∧
        ∀ earlier a later, after = earlier ++ .publish a :: later →
          ∃ held, (d.run earlier).1.queue? ticket = some held ∧
            ((published earlier).length ∈ account.lost ↔ n ≤ held.channel.items.length)) := by
  have numbered := isNumbered_run isNumbered_empty before
  have sound := Account.sound_ofMoves registration.keeping
    ((empty : Distributor α).run before).1.ticket after
  have run {moves : List (Move α)} (stays : _ ∉ moves) := follows_ofMoves numbered entered stays
  generalize registration.keeping = k at sound run
  obtain ⟨q, ⟨holds, -, queued, dropped⟩, got⟩ := run stays
  obtain ⟨kept, total, ascending, inside, bounded, unlimited, newest⟩ := sound
  rw [Account.published_ofMoves] at kept total inside newest
  rw [got, ← queued] at kept total
  rw [← dropped] at total
  rw [← queued] at bounded newest
  refine ⟨q, holds.queue?, got.symm, queued, dropped, ascending, inside, kept, total, ?_, ?_, ?_⟩
  · rintro rfl
    rw [kept, unlimited rfl, without_nil]
  · rintro n rfl
    obtain ⟨suffix, late⟩ := newest rfl
    refine ⟨suffix, bounded _ rfl, late _ rfl, fun earlier a split => ?_⟩
    rw [queued, split, Account.ofMoves, List.foldl_append]
    exact Account.getLast?_publish rfl _ a
  · rintro n rfl
    refine ⟨bounded _ rfl, fun earlier a later split => ?_⟩
    have stays' : .leave ((empty : Distributor α).run before).1.ticket ∉ earlier := by
      intro mem
      rw [split] at stays
      exact stays (List.mem_append_left _ mem)
    obtain ⟨full, ⟨holds, -, queued, -⟩, -⟩ := run stays'
    refine ⟨full, holds.queue?, ?_⟩
    rw [queued, split, Account.mem_lost_iff (k := .first n) Bool.false_ne_true]
    simp [Keeping.HasRoom, Keeping.capacity?]

/-- A queue for the two newest items, beside a full one and one whose consumer goes away. -/
theorem run_follows_account_slow :
    let before : List (Move Nat) := [.register (.byConsumer "full" (some 0)), .publish 0,
      .register (.byPolicy "leaving" .unbounded)]
    let start := ((empty : Distributor Nat).run before).1
    let after : List (Move Nat) := [.publish 1, .publish 2, .publish 3, .take 2, .leave 1,
      .publish 4, .take 1, .drain 0, .publish 5]
    ∃ d q, start.enter (.byPolicy "slow" (.dropOldest 2)) = .ok d ∧ start.ticket = 2 ∧
      (d.run after).1.queue? 2 = some q ∧ received 2 (d.run after).2 = [2] ∧
      q.channel.items = [4, 5] ∧ q.dropped = 2 ∧ q.channel.items <:+ [1, 2, 3, 4, 5] := by
  intro before start after
  have stays : .leave start.ticket ∉ after := by decide
  obtain ⟨q, holds, -, -, -, -, -, -, -, -, newest, -⟩ :=
    @run_follows_account Nat before (.byPolicy "slow" (.dropOldest 2)) _ rfl after stays
  obtain ⟨suffix, -⟩ := newest 2 rfl
  cases holds
  exact ⟨_, _, rfl, rfl, rfl, rfl, rfl, rfl, suffix⟩

end Distributor

end AisFeed
