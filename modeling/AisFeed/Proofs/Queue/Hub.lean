import AisFeed.Proofs.Queue.Consumers
import AisFeed.Queue.Hub
import Mathlib.Data.List.Nodup

/-!
# What waits in the queues of a hub

`Distributor.Carries` says what waits in the queue of a ticket: what is published joins it, its
consumer takes the oldest item, and nothing else changes it. On a hub the same is done one
operation at a time. If no one else interferes, putting an item into one queue after the other is
publishing it, with the same events (`Hub.putEach_tickets`).
-/

set_option autoImplicit false

namespace AisFeed

variable {α : Type}

namespace Distributor

/-- In the queue of a ticket, which is attended to and keeps what it should, these items wait. -/
def Carries (d : Distributor α) (k : Keeping) (ticket : Nat) (waiting : List α) : Prop :=
  ∃ q, d.Holds ticket q ∧ q.Keeps k ∧ q.channel.items = waiting

variable {d : Distributor α} {k : Keeping} {ticket other : Nat} {waiting : List α} {a : α}

theorem carries_register (numbered : d.IsNumbered) (name : String) (policy : QueuePolicy) :
    (d.register name policy).Carries policy.keeping d.ticket [] :=
  ⟨_, numbered.holds_add _, (Registration.byPolicy name policy).keeps_queue,
    (Registration.byPolicy name policy).queue_items⟩

/-- From its registration on, a queue carries what its account says. -/
theorem carries_ofMoves {start : Distributor α} (numbered : start.IsNumbered)
    {registration : Registration} (entered : start.enter registration = .ok d)
    {moves : List (Move α)} (stays : .leave start.ticket ∉ moves) :
    (d.run moves).1.Carries registration.keeping start.ticket
      (Account.ofMoves registration.keeping start.ticket moves).queued := by
  obtain ⟨q, ⟨holds, keeps, queued, -⟩, -⟩ := follows_ofMoves numbered entered stays
  exact ⟨q, holds, keeps, queued⟩

theorem Carries.add (carries : d.Carries k ticket waiting) (q : Queue α) :
    (d.add q).Carries k ticket waiting := by
  obtain ⟨q, holds, keeps, items⟩ := carries
  exact ⟨q, holds.add _, keeps, items⟩

/-- Queues that are registered later change nothing. -/
theorem Carries.foldl_register {β : Type} (carries : d.Carries k ticket waiting)
    (name : β → String) (policy : QueuePolicy) (consumers : List β) :
    (consumers.foldl (fun d b => d.register (name b) policy) d).Carries k ticket waiting := by
  induction consumers generalizing d with
  | nil => exact carries
  | cons b rest ih => exact ih (carries.add _)

/-- Each of the queues that are registered in a row is empty. -/
theorem carries_foldl_register {β : Type} (numbered : d.IsNumbered) (name : β → String)
    (policy : QueuePolicy) (consumers : List β) {n : Nat} (inside : n < consumers.length) :
    (consumers.foldl (fun d b => d.register (name b) policy) d).Carries policy.keeping
      (n + d.ticket) [] := by
  induction consumers generalizing d n with
  | nil => cases inside
  | cons b rest ih =>
    cases n with
    | zero =>
      rw [Nat.zero_add]
      exact (carries_register numbered (name b) policy).foldl_register name policy rest
    | succ n =>
      rw [Nat.succ_add_eq_add_succ]
      exact ih (numbered.add _) (Nat.lt_of_succ_lt_succ inside)

theorem Carries.publish (carries : d.Carries k ticket waiting) (a : α) :
    (d.publish a).1.Carries k ticket (k.push waiting a) := by
  obtain ⟨q, holds, keeps, rfl⟩ := carries
  obtain ⟨q', events, put, keeps', items, -⟩ := Queue.put_of_keeps keeps a
  exact ⟨q', holds.publish put, keeps', items⟩

theorem Carries.publishAll (carries : d.Carries k ticket waiting) (items : List α) :
    (d.publishAll items).1.Carries k ticket (items.foldl k.push waiting) := by
  induction items generalizing d waiting with
  | nil => exact carries
  | cons a rest ih => exact ih (carries.publish a)

theorem Carries.take_nil (carries : d.Carries k ticket []) : (d.take ticket).2 = none := by
  obtain ⟨q, holds, -, items⟩ := carries
  rw [Distributor.take, holds.queue?]
  dsimp only
  rw [Queue.take_eq, items]
  rfl

theorem Carries.take_cons (carries : d.Carries k ticket (a :: waiting)) :
    (d.take ticket).2 = some a ∧ (d.take ticket).1.Carries k ticket waiting := by
  obtain ⟨q, holds, keeps, items⟩ := carries
  have lighter := keeps.drop 1 q.dropped
  rw [items] at lighter
  rw [Distributor.take, holds.queue?]
  dsimp only
  rw [Queue.take_eq, items]
  exact ⟨rfl, _, holds.setQueue _, lighter, rfl⟩

theorem Carries.take_of_ne (carries : d.Carries k ticket waiting) (ne : other ≠ ticket) :
    (d.take other).1.Carries k ticket waiting := by
  obtain ⟨q, holds, keeps, items⟩ := carries
  exact ⟨q, holds.take_of_ne ne, keeps, items⟩

theorem Carries.drain (carries : d.Carries k ticket waiting) : (d.drain ticket).2 = waiting := by
  obtain ⟨q, holds, -, items⟩ := carries
  rw [Distributor.drain, holds.queue?]
  exact items

theorem Carries.drain_of_ne (carries : d.Carries k ticket waiting) (ne : other ≠ ticket) :
    (d.drain other).1.Carries k ticket waiting := by
  obtain ⟨q, holds, keeps, items⟩ := carries
  exact ⟨q, holds.drain_of_ne ne, keeps, items⟩

theorem Carries.leave_of_ne (carries : d.Carries k ticket waiting) (ne : other ≠ ticket) :
    (d.leave other).Carries k ticket waiting := by
  obtain ⟨q, holds, keeps, items⟩ := carries
  exact ⟨q, holds.leave_of_ne ne, keeps, items⟩

/-- Each ticket in use stands once among the tickets. -/
theorem Carries.count_tickets (carries : d.Carries k ticket waiting) :
    (d.queues.map Prod.fst).count ticket = 1 := by
  obtain ⟨q, holds, -, -⟩ := carries
  have one := holds.queues
  rw [queuesOf] at one
  rw [List.count, List.countP_map, List.countP_eq_length_filter]
  have same : d.queues.filter ((· == ticket) ∘ Prod.fst) = d.queues.filter fun p => p.1 = ticket :=
    List.filter_congr fun p _ => beq_eq_decide p.1 ticket
  rw [same, one]
  rfl

end Distributor

namespace Hub

variable {h : Hub α} {k : Keeping} {ticket other : Nat} {waiting : List α} {a : α}

theorem put_of_carries (carries : h.queues.Carries k ticket waiting) (a : α) :
    (h.put ticket a).1.queues.Carries k ticket (k.push waiting a) := by
  obtain ⟨q, holds, keeps, rfl⟩ := carries
  obtain ⟨q', events, put, keeps', items, -⟩ := Queue.put_of_keeps keeps a
  rw [Hub.put, holds.queue?]
  dsimp only
  rw [put]
  exact ⟨q', holds.setQueue q', keeps', items⟩

theorem put_of_ne (carries : h.queues.Carries k ticket waiting) (ne : other ≠ ticket) (a : α) :
    (h.put other a).1.queues.Carries k ticket waiting := by
  obtain ⟨q, holds, keeps, items⟩ := carries
  rw [Hub.put]
  split
  · exact ⟨q, holds, keeps, items⟩
  · dsimp only
    split
    · exact ⟨q, holds.setQueue_of_ne ne _, keeps, items⟩
    · exact ⟨q, holds.remove_of_ne ne, keeps, items⟩

theorem closed_put (h : Hub α) (ticket : Nat) (a : α) : (h.put ticket a).1.closed = h.closed := by
  rw [Hub.put]
  split
  · rfl
  · dsimp only
    split <;> rfl

theorem receive_nil (carries : h.queues.Carries k ticket []) :
    h.receive ticket = if ticket ∈ h.closed then some (h, none) else none := by
  have none := carries.take_nil
  rw [receive]
  split
  · rename_i took
    rw [took] at none
    cases none
  · rfl

theorem receive_cons (carries : h.queues.Carries k ticket (a :: waiting)) :
    h.receive ticket = some ({ h with queues := (h.queues.take ticket).1 }, some a) := by
  have some := carries.take_cons.1
  rw [receive]
  split
  · rename_i took
    rw [took] at some ⊢
    cases some
    rfl
  · rename_i took
    rw [took] at some
    cases some

/-! ## Puts into all queues -/

/-- Put an item into queues, one after the other. -/
def putEach (h : Hub α) (a : α) : List Nat → Hub α × List Event
  | [] => (h, [])
  | ticket :: rest =>
    let (h, told) := h.put ticket a
    let (h, later) := h.putEach a rest
    (h, told ++ later)

section PutEach

variable {before after : List (Nat × Queue α)} {next : Nat} {closed : List Nat}

/-- A put reaches the one queue with its ticket, wherever it stands. -/
theorem put_at (q : Queue α) (a : α) (fresh : ∀ p ∈ before ++ after, p.1 ≠ ticket) :
    Hub.put ⟨⟨before ++ (ticket, q) :: after, next⟩, closed⟩ ticket a =
      (⟨⟨before ++ (if (q.put a).2.1 then (ticket, (q.put a).1) :: after else after), next⟩,
          closed⟩,
        (q.put a).2.2 ++ if (q.put a).2.1 then [] else [.unregistered (q.put a).1.name]) := by
  have early : ∀ p ∈ before, p.1 ≠ ticket := fun p mem => fresh p (List.mem_append_left _ mem)
  have late : ∀ p ∈ after, p.1 ≠ ticket := fun p mem => fresh p (List.mem_append_right _ mem)
  have found : Distributor.queue? ⟨before ++ (ticket, q) :: after, next⟩ ticket = some q := by
    rw [Distributor.queue?, List.find?_append, List.find?_eq_none.2 (by simpa using early)]
    simp
  have unset (l : List (Nat × Queue α)) (q' : Queue α) (other : ∀ p ∈ l, p.1 ≠ ticket) :
      l.map (fun p => if p.1 = ticket then (ticket, q') else p) = l :=
    (List.map_congr_left fun p mem => if_neg (other p mem)).trans (List.map_id l)
  have unfiltered (l : List (Nat × Queue α)) (other : ∀ p ∈ l, p.1 ≠ ticket) :
      l.filter (fun p => decide (p.1 ≠ ticket)) = l :=
    List.filter_eq_self.2 fun p mem => decide_eq_true (other p mem)
  rw [put, found]
  dsimp only
  split
  · rw [Distributor.setQueue]
    dsimp only
    rw [List.map_append, List.map_cons, unset before _ early, unset after _ late]
    simp
  · rw [Distributor.remove]
    dsimp only
    rw [List.filter_append, List.filter_cons_of_neg (by simp), unfiltered before early,
      unfiltered after late]

theorem putEach_append (a : α) (nodup : ((before ++ after).map Prod.fst).Nodup) :
    putEach ⟨⟨before ++ after, next⟩, closed⟩ a (after.map Prod.fst) =
      (⟨⟨before ++ (Distributor.putAll a after).1, next⟩, closed⟩,
        (Distributor.putAll a after).2) := by
  -- `before` are the queues that have got the item: one that keeps it joins them, and one to which
  -- no one attends goes away
  induction after generalizing before with
  | nil => rfl
  | cons p rest ih =>
    obtain ⟨ticket, q⟩ := p
    have moved := nodup
    rw [List.map_append, List.map_cons, List.nodup_middle, ← List.map_append] at moved
    obtain ⟨fresh, others⟩ := List.nodup_cons.1 moved
    have other (p : Nat × Queue α) (mem : p ∈ before ++ rest) : p.1 ≠ ticket :=
      fun same => fresh (List.mem_map.2 ⟨p, mem, same⟩)
    rw [List.map_cons, putEach, put_at q a other, Distributor.putAll]
    dsimp only
    by_cases attended : (q.put a).2.1 = true
    · have stays : ((before ++ [(ticket, (q.put a).1)] ++ rest).map Prod.fst).Nodup := by
        simpa using nodup
      have later := ih stays
      rw [List.append_assoc, List.append_assoc, List.singleton_append,
        List.singleton_append] at later
      rw [if_pos attended, if_pos attended, if_pos attended, later, List.append_nil]
    · rw [if_neg attended, if_neg attended, if_neg attended, ih others]
      simp

/-- **Putting an item into one queue after the other publishes it.** -/
theorem putEach_tickets (nodup : h.tickets.Nodup) (a : α) :
    h.putEach a h.tickets =
      ({ h with queues := (h.queues.publish a).1 }, (h.queues.publish a).2) := by
  obtain ⟨⟨queues, next⟩, closed⟩ := h
  exact @putEach_append α [] queues next closed a nodup

end PutEach

end Hub

end AisFeed
