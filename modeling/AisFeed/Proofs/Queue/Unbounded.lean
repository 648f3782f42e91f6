import AisFeed.Proofs.Queue.Hub

/-!
# What a hub without capacities brings to its consumers

A queue without a capacity loses nothing. Of all items that are meant for a consumer of a hub, it
has taken some, some wait in its queue, and the others are still to come, in this order:
`Hub.Serves`. A put moves the next item into the queue, and a receipt moves it on to the consumer.
What other consumers do, and what is put into their queues, changes nothing.
-/

set_option autoImplicit false

namespace AisFeed

variable {α : Type}

theorem Keeping.push_all (queued : List α) (a : α) : Keeping.all.push queued a = queued ++ [a] := by
  simp [push, HasRoom, capacity?]

/-- All that is published to such a queue joins what waits. -/
theorem Distributor.Carries.publishAll_all {d : Distributor α} {ticket : Nat} {waiting : List α}
    (carries : d.Carries .all ticket waiting) (items : List α) :
    (d.publishAll items).1.Carries .all ticket (waiting ++ items) := by
  have all : items.foldl Keeping.all.push waiting = waiting ++ items := by
    induction items generalizing d waiting with
    | nil => exact (List.append_nil waiting).symm
    | cons a rest ih =>
      rw [List.foldl_cons, ih (carries.publish a), Keeping.push_all, List.append_assoc]
      rfl
  rw [← all]
  exact carries.publishAll items

namespace Hub

/-- A consumer is on its way to all items that are meant for it. -/
structure Serves (h : Hub α) (ticket : Nat) (taken coming all : List α) : Prop where
  queue : ∃ waiting, h.queues.Carries .all ticket waiting ∧ taken ++ waiting ++ coming = all
  closed : ticket ∈ h.closed → coming = []

theorem serves_ofDistributor {d : Distributor α} {ticket : Nat} (carries : d.Carries .all ticket [])
    (all : List α) : (ofDistributor d).Serves ticket [] all all :=
  ⟨⟨[], carries, rfl⟩, fun mem => nomatch mem⟩

variable {h h' : Hub α} {ticket other : Nat} {taken coming all : List α} {a : α}

/-- An item that is to be put into all queues comes once to each consumer. -/
theorem Serves.replicate_tickets (serves : h.Serves ticket taken (a :: coming) all) :
    h.Serves ticket taken (List.replicate (h.tickets.count ticket) a ++ coming) all := by
  obtain ⟨waiting, carries, -⟩ := serves.queue
  rw [tickets, carries.count_tickets]
  exact serves

/-- More items may be meant for a consumer so long as its queue is not closed. -/
theorem Serves.extend (serves : h.Serves ticket taken coming all) (isOpen : ticket ∉ h.closed)
    (more : List α) : h.Serves ticket taken (coming ++ more) (all ++ more) := by
  obtain ⟨⟨waiting, carries, total⟩, -⟩ := serves
  exact ⟨⟨waiting, carries, by simp [← total]⟩, fun mem => absurd mem isOpen⟩

theorem Serves.put (serves : h.Serves ticket taken (a :: coming) all) :
    (h.put ticket a).1.Serves ticket taken coming all := by
  obtain ⟨⟨waiting, carries, total⟩, closed⟩ := serves
  refine ⟨⟨waiting ++ [a], ?_, ?_⟩, ?_⟩
  · rw [← Keeping.push_all]
    exact put_of_carries carries a
  · rw [← total]
    simp
  · rw [closed_put]
    exact fun mem => absurd (closed mem) (List.cons_ne_nil _ _)

theorem Serves.put_of_ne (serves : h.Serves ticket taken coming all) (ne : other ≠ ticket) :
    (h.put other a).1.Serves ticket taken coming all := by
  obtain ⟨⟨waiting, carries, total⟩, closed⟩ := serves
  exact ⟨⟨waiting, Hub.put_of_ne carries ne a, total⟩, (closed_put h other a).symm ▸ closed⟩

/-- A put into one of several queues: the item has still to be put into the others. -/
theorem Serves.put_next {tickets : List Nat}
    (serves : h.Serves ticket taken
      (List.replicate ((other :: tickets).count ticket) a ++ coming) all) :
    (h.put other a).1.Serves ticket taken
      (List.replicate (tickets.count ticket) a ++ coming) all := by
  by_cases same : other = ticket
  · subst same
    rw [List.count_cons_self, List.replicate_succ, List.cons_append] at serves
    exact serves.put
  · rw [List.count_cons_of_ne same] at serves
    exact serves.put_of_ne same

/-- A queue is closed once all items were put into it. -/
theorem Serves.close (serves : h.Serves ticket taken [] all) (other : Nat) :
    (h.close other).Serves ticket taken [] all :=
  ⟨serves.queue, fun _ => rfl⟩

theorem Serves.leave_of_ne (serves : h.Serves ticket taken coming all) (ne : other ≠ ticket) :
    (h.leave other).Serves ticket taken coming all := by
  obtain ⟨⟨waiting, carries, total⟩, closed⟩ := serves
  exact ⟨⟨waiting, carries.leave_of_ne ne, total⟩, closed⟩

theorem Serves.receive_of_ne (serves : h.Serves ticket taken coming all) (ne : other ≠ ticket)
    {item : Option α} (got : h.receive other = some (h', item)) :
    h'.Serves ticket taken coming all := by
  obtain ⟨⟨waiting, carries, total⟩, closed⟩ := serves
  have later := carries.take_of_ne ne
  unfold Hub.receive at got
  split at got
  · rename_i took
    rw [took] at later
    cases got
    exact ⟨⟨waiting, later, total⟩, closed⟩
  · split at got
    · cases got
      exact ⟨⟨waiting, carries, total⟩, closed⟩
    · cases got

/-- What a consumer receives is the next item that is meant for it. -/
theorem Serves.receive (serves : h.Serves ticket taken coming all)
    (got : h.receive ticket = some (h', some a)) : h'.Serves ticket (taken ++ [a]) coming all := by
  obtain ⟨⟨waiting, carries, total⟩, closed⟩ := serves
  cases waiting with
  | nil =>
    rw [receive_nil carries] at got
    split at got <;> cases got
  | cons b rest =>
    rw [receive_cons carries] at got
    cases got
    refine ⟨⟨rest, carries.take_cons.2, ?_⟩, closed⟩
    rw [← total]
    simp

/-- Only a queue that is closed lets its consumer learn that nothing more will come. -/
theorem mem_closed_of_receive_none (got : h.receive ticket = some (h', none)) :
    ticket ∈ h.closed := by
  unfold Hub.receive at got
  split at got
  · cases got
  · split at got
    · assumption
    · cases got

theorem closed_receive {item : Option α} (got : h.receive ticket = some (h', item)) :
    h'.closed = h.closed := by
  unfold Hub.receive at got
  split at got
  · cases got
    rfl
  · split at got <;> cases got
    rfl

/-- A consumer that learns that nothing more will come has taken all items. -/
theorem Serves.receive_none (serves : h.Serves ticket taken coming all)
    (got : h.receive ticket = some (h', none)) : h' = h ∧ taken = all := by
  obtain ⟨⟨waiting, carries, total⟩, closed⟩ := serves
  cases waiting with
  | nil =>
    rw [receive_nil carries] at got
    split at got
    · rename_i mem
      cases got
      refine ⟨rfl, ?_⟩
      rw [← total, closed mem, List.append_nil, List.append_nil]
    · cases got
  | cons b rest =>
    rw [receive_cons carries] at got
    cases got

end Hub

end AisFeed
