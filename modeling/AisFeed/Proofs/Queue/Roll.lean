import AisFeed.Proofs.Queue.Consumers
import AisFeed.Proofs.Queue.Passing
import Mathlib.Data.List.Forall2
import Mathlib.Data.List.Nodup

/-!
# Who is registered

Who is registered with a distributor can be told from what was done with it, without a look at the
queues: `Roll.ofMoves` enters each registration, marks the members whose receivers are gone, and
strikes off at each publication those of them whose queues cannot take items themselves. A
distributor has the queues of its roll, in the same order (`Lists`), and a publication serves each
of them on its own (`putAll_of_listed`). So `publish_strikes_off` says which queues a publication
removes, what comes of all others, and what is told.
-/

set_option autoImplicit false

namespace AisFeed

variable {α : Type}

/-- The name of a queue. -/
def Registration.name : Registration → String
  | byPolicy name _ => name
  | byConsumer name _ => name

/-- A queue that is registered. -/
structure Member where
  ticket : Nat
  registration : Registration
  /-- Whether the receiver of the consumer is gone. -/
  isGone : Bool
  deriving DecidableEq, Repr

namespace Member

/-- What the queue keeps. -/
def keeping (m : Member) : Keeping :=
  m.registration.keeping

/-- Does nothing take items from the queue any more? A queue that loses its oldest items takes them
itself. -/
def isDead (m : Member) : Bool :=
  m.isGone && !m.keeping.losesOldest

/-- The member after the consumer with a ticket has gone away. -/
def leave (ticket : Nat) (m : Member) : Member :=
  if m.ticket = ticket then { m with isGone := true } else m

theorem ticket_leave (ticket : Nat) (m : Member) : (m.leave ticket).ticket = m.ticket := by
  unfold leave
  split <;> rfl

end Member

/-- Who is registered with a distributor. -/
structure Roll where
  members : List Member
  /-- How many queues were registered so far. -/
  entered : Nat
  /-- The names of those that were unregistered again. -/
  struckOff : List String
  deriving DecidableEq, Repr

namespace Roll

/-- Nobody was registered yet. -/
def empty : Roll :=
  ⟨[], 0, []⟩

/-- The roll after a move. A registration that crashes is none. -/
def follow (b : Roll) : Move α → Roll
  | .register r =>
    if (Channel.fault? r.keeping.capacity?).isNone then
      { b with members := b.members ++ [⟨b.entered, r, false⟩], entered := b.entered + 1 }
    else b
  | .publish _ =>
    { b with
      members := b.members.filter fun m => !m.isDead
      struckOff := b.struckOff ++
        (b.members.filter Member.isDead).map fun m => m.registration.name }
  | .leave ticket => { b with members := b.members.map (Member.leave ticket) }
  | .take _ | .drain _ => b

/-- The roll after moves. -/
def ofMoves (moves : List (Move α)) : Roll :=
  moves.foldl follow empty

/-- Everyone who was entered is a member or was struck off. -/
def IsBalanced (b : Roll) : Prop :=
  b.members.length + b.struckOff.length = b.entered

theorem IsBalanced.follow {b : Roll} (balanced : b.IsBalanced) (move : Move α) :
    (b.follow move).IsBalanced := by
  unfold IsBalanced at *
  cases move with
  | register r =>
    rw [Roll.follow]
    split
    · simp only [List.length_append, List.length_singleton]
      omega
    · exact balanced
  | publish a =>
    have parts := List.length_eq_length_filter_add (l := b.members) Member.isDead
    simp only [Roll.follow, List.length_append, List.length_map]
    omega
  | take ticket => exact balanced
  | drain ticket => exact balanced
  | leave ticket =>
    simp only [Roll.follow, List.length_map]
    exact balanced

theorem isBalanced_ofMoves (moves : List (Move α)) : (ofMoves moves).IsBalanced := by
  have run (b : Roll) (balanced : b.IsBalanced) : (moves.foldl Roll.follow b).IsBalanced := by
    induction moves generalizing b with
    | nil => exact balanced
    | cons move rest ih => exact ih (b.follow move) (balanced.follow move)
  exact run empty rfl

end Roll

/-! ## The queues of the members -/

namespace Member

/-- The queue of a member. -/
structure Owns (m : Member) (p : Nat × Queue α) : Prop where
  ticket : p.1 = m.ticket
  name : p.2.name = m.registration.name
  capacity : p.2.channel.capacity = m.keeping.capacity?
  takesOldest : p.2.takesOldest = m.keeping.losesOldest
  /-- A queue is unattended exactly if its member is dead. -/
  isAttended : p.2.channel.isAttended = !m.isDead
  bounded : ∀ n ∈ m.keeping.capacity?, p.2.channel.items.length ≤ n

variable {m : Member} {p : Nat × Queue α}

theorem owns_queue (ticket : Nat) (r : Registration) :
    Owns ⟨ticket, r, false⟩ (ticket, (r.queue : Queue α)) := by
  have keeps := r.keeps_queue (α := α)
  refine ⟨rfl, ?_, keeps.capacity, keeps.takesOldest, keeps.isAttended, keeps.bounded⟩
  cases r <;> rfl

theorem Owns.keeps (owns : m.Owns p) (live : m.isDead = false) : p.2.Keeps m.keeping := by
  refine ⟨owns.capacity, owns.takesOldest, ?_, owns.bounded⟩
  rw [owns.isAttended, live]
  rfl

theorem Owns.withItems (owns : m.Owns p) {items : List α} (dropped : Nat)
    (bounded : ∀ n ∈ m.keeping.capacity?, items.length ≤ n) :
    m.Owns (p.1, p.2.withItems items dropped) :=
  ⟨owns.ticket, owns.name, owns.capacity, owns.takesOldest, owns.isAttended, bounded⟩

/-- The consumer takes items. -/
theorem Owns.drop (owns : m.Owns p) (n : Nat) :
    m.Owns (p.1, p.2.withItems (p.2.channel.items.drop n) p.2.dropped) := by
  apply owns.withItems
  intro limit given
  rw [List.length_drop]
  exact Nat.le_trans (Nat.sub_le _ _) (owns.bounded limit given)

/-- The consumer goes away. -/
theorem Owns.leave (owns : m.Owns p) (ticket : Nat) :
    (m.leave ticket).Owns (if p.1 = ticket then (p.1, p.2.leave) else p) := by
  by_cases same : m.ticket = ticket
  · rw [Member.leave, if_pos same, if_pos (owns.ticket.trans same)]
    refine ⟨owns.ticket, owns.name, owns.capacity, owns.takesOldest, ?_, owns.bounded⟩
    show p.2.takesOldest = !(true && !m.keeping.losesOldest)
    rw [owns.takesOldest, Bool.true_and, Bool.not_not]
  · rw [Member.leave, if_neg same, if_neg fun its => same (owns.ticket.symm.trans its)]
    exact owns

/-- What a publication leaves of a member's queue. -/
def serve (a : α) (owned : Member × Nat × Queue α) : Option (Nat × Queue α) :=
  let (m, ticket, q) := owned
  if m.isDead then none else some (ticket, q.passed m.keeping a)

/-- What is told of a publication to a member's queue. -/
def tell (owned : Member × Nat × Queue α) : List Event :=
  let (m, _, q) := owned
  if m.isDead then [.unregistered m.registration.name] else q.losses m.keeping

theorem serve_of_dead (dead : m.isDead = true) (a : α) : serve a (m, p) = none :=
  if_pos dead

theorem serve_of_live (live : m.isDead = false) (a : α) :
    serve a (m, p) = some (p.1, p.2.passed m.keeping a) :=
  if_neg (Bool.eq_false_iff.1 live)

theorem tell_of_dead (dead : m.isDead = true) :
    tell (m, p) = [.unregistered m.registration.name] :=
  if_pos dead

theorem tell_of_live (live : m.isDead = false) : tell (m, p) = p.2.losses m.keeping :=
  if_neg (Bool.eq_false_iff.1 live)

/-- A publication to the queue of a member that is not dead. -/
theorem Owns.put_of_live (owns : m.Owns p) (live : m.isDead = false) (a : α) :
    p.2.put a = (p.2.passed m.keeping a, true, p.2.losses m.keeping) :=
  Queue.put_eq_of_keeps (owns.keeps live) a

/-- A publication to the queue of a dead member, however full it is. -/
theorem Owns.put_of_dead (owns : m.Owns p) (dead : m.isDead = true) (a : α) :
    p.2.put a = (p.2, false, []) := by
  apply Queue.put_of_unattended
  rw [owns.isAttended, dead]
  rfl

/-- A queue is still that of its member after a publication. -/
theorem Owns.passed (owns : m.Owns p) (live : m.isDead = false) (a : α) :
    m.Owns (p.1, p.2.passed m.keeping a) :=
  owns.withItems _ ((owns.keeps live).passed a).bounded

end Member

/-- The name of a queue that is told to be unregistered. -/
def Event.unregistered? : Event → Option String
  | unregistered consumer => some consumer
  | _ => none

/-- The names of the queues that are told to be unregistered in turns. -/
def unregistered (turns : List (Turn α)) : List String :=
  turns.flatMap fun turn => turn.events.filterMap Event.unregistered?

/-- Is a queue registered in a turn? -/
def Turn.registers (turn : Turn α) : Bool :=
  match turn.move, turn.outcome with
  | .register _, .ok _ => true
  | _, _ => false

/-- A publication to a queue that has room. -/
theorem Queue.passed_of_room {k : Keeping} {q : Queue α} (room : k.HasRoom q.channel.items)
    (a : α) : q.passed k a = q.withItems (q.channel.items ++ [a]) q.dropped := by
  rw [passed, Keeping.push, if_pos room, if_pos room]

theorem Queue.filterMap_losses (k : Keeping) (q : Queue α) :
    (q.losses k).filterMap Event.unregistered? = [] := by
  unfold losses told
  split
  · rfl
  · split <;> rfl

section Listed

variable {members : List Member} {queues : List (Nat × Queue α)}
  (listed : List.Forall₂ Member.Owns members queues)
include listed

theorem map_fst_of_listed : queues.map Prod.fst = members.map Member.ticket := by
  induction listed with
  | nil => rfl
  | cons owns _ ih => rw [List.map_cons, List.map_cons, ih, owns.ticket]

/-- A publication serves each queue as if there were no others: the queues that stay keep their
order, and the events of each come after those of the queues before it. -/
theorem putAll_of_listed (a : α) :
    Distributor.putAll a queues =
      ((members.zip queues).filterMap (Member.serve a),
        (members.zip queues).flatMap Member.tell) := by
  induction listed with
  | nil => rfl
  | @cons m p members queues owns _ ih =>
    obtain ⟨ticket, q⟩ := p
    rw [Distributor.putAll, ih, List.zip_cons_cons, List.flatMap_cons]
    cases dead : m.isDead with
    | true =>
      rw [List.filterMap_cons_none (Member.serve_of_dead dead a), Member.tell_of_dead dead,
        owns.put_of_dead dead a, ← owns.name]
      rfl
    | false =>
      rw [List.filterMap_cons_some (Member.serve_of_live dead a), Member.tell_of_live dead,
        owns.put_of_live dead a]
      rfl

theorem listed_serve (a : α) :
    List.Forall₂ Member.Owns (members.filter fun m => !m.isDead)
      ((members.zip queues).filterMap (Member.serve a)) := by
  induction listed with
  | nil => exact .nil
  | @cons m p members queues owns _ ih =>
    rw [List.zip_cons_cons]
    cases dead : m.isDead with
    | true =>
      rw [List.filter_cons_of_neg (by simp [dead]),
        List.filterMap_cons_none (Member.serve_of_dead dead a)]
      exact ih
    | false =>
      rw [List.filter_cons_of_pos (by simp [dead]),
        List.filterMap_cons_some (Member.serve_of_live dead a)]
      exact .cons (owns.passed dead a) ih

/-- Of each dead member it is told once that its queue is unregistered, and of no other. -/
theorem unregistered_tell :
    ((members.zip queues).flatMap Member.tell).filterMap Event.unregistered? =
      (members.filter Member.isDead).map fun m => m.registration.name := by
  induction listed with
  | nil => rfl
  | @cons m p members queues owns _ ih =>
    rw [List.zip_cons_cons, List.flatMap_cons, List.filterMap_append, ih]
    cases dead : m.isDead with
    | true =>
      rw [List.filter_cons_of_pos dead, Member.tell_of_dead dead]
      rfl
    | false =>
      rw [List.filter_cons_of_neg (by simp [dead]), Member.tell_of_live dead,
        Queue.filterMap_losses]
      rfl

end Listed

namespace Distributor

/-- A distributor has the queues of its roll, in the order of registration. -/
structure Lists (b : Roll) (d : Distributor α) : Prop where
  listed : List.Forall₂ Member.Owns b.members d.queues
  ticket : d.ticket = b.entered
  ascending : (b.members.map Member.ticket).Pairwise (· < ·)
  given : ∀ m ∈ b.members, m.ticket < b.entered

section Lists

variable {b : Roll} {d : Distributor α}

theorem lists_empty : Lists .empty (empty : Distributor α) :=
  ⟨.nil, rfl, .nil, fun _ mem => absurd mem List.not_mem_nil⟩

theorem Lists.add (lists : Lists b d) (r : Registration) :
    Lists { b with members := b.members ++ [⟨b.entered, r, false⟩], entered := b.entered + 1 }
      (d.add r.queue) := by
  obtain ⟨listed, ticket, ascending, given⟩ := lists
  refine ⟨?_, ?_, ?_, ?_⟩
  · apply List.rel_append listed
    rw [ticket]
    exact .cons (Member.owns_queue b.entered r) .nil
  · show d.ticket + 1 = b.entered + 1
    rw [ticket]
  · rw [List.map_append, List.pairwise_append]
    refine ⟨ascending, List.pairwise_singleton _ _, ?_⟩
    intro t early t' last
    obtain ⟨m, mem, rfl⟩ := List.mem_map.1 early
    rw [List.mem_singleton.1 last]
    exact given m mem
  · intro m mem
    rcases List.mem_append.1 mem with mem | mem
    · exact Nat.lt_succ_of_lt (given m mem)
    · rw [List.mem_singleton.1 mem]
      exact Nat.lt_succ_self _

/-- What a consumer does changes the queue of its ticket and no other. -/
theorem Lists.queues_update (lists : Lists b d) (ticket : Nat) (change : Queue α → Queue α) :
    (match d.queue? ticket with
      | none => d
      | some q => d.setQueue ticket (change q)).queues =
      d.queues.map fun p => if p.1 = ticket then (p.1, change p.2) else p := by
  have distinct : (d.queues.map Prod.fst).Nodup := by
    rw [map_fst_of_listed lists.listed]
    exact lists.ascending.imp Nat.ne_of_lt
  cases found : d.queue? ticket with
  | none =>
    rw [queue?, Option.map_eq_none_iff, List.find?_eq_none] at found
    have unchanged : ∀ p ∈ d.queues,
        (if p.1 = ticket then (p.1, change p.2) else p) = p := by
      intro p mem
      exact if_neg (by simpa using found p mem)
    rw [List.map_congr_left unchanged]
    exact (List.map_id' d.queues).symm
  | some q =>
    rw [queue?, Option.map_eq_some_iff] at found
    obtain ⟨first, found, rfl⟩ := found
    have same : first.1 = ticket := by simpa using List.find?_some found
    apply List.map_congr_left
    intro p mem
    by_cases isIts : p.1 = ticket
    · have one : p = first := by
        apply List.inj_on_of_nodup_map distinct mem (List.mem_of_find?_eq_some found)
        rw [isIts, same]
      rw [if_pos isIts, if_pos isIts, one, same]
    · rw [if_neg isIts, if_neg isIts]

/-- The consumer with a ticket takes items. -/
theorem Lists.of_take (lists : Lists b d) (ticket : Nat) (change : Queue α → Queue α)
    (taken : ∀ q, ∃ n, change q = q.withItems (q.channel.items.drop n) q.dropped)
    {d' : Distributor α} (next : d'.ticket = d.ticket)
    (queues : d'.queues = d.queues.map fun p => if p.1 = ticket then (p.1, change p.2) else p) :
    Lists b d' := by
  refine ⟨?_, next.trans lists.ticket, lists.ascending, lists.given⟩
  rw [queues, List.forall₂_map_right_iff]
  apply lists.listed.imp
  intro m p owns
  split
  · obtain ⟨n, made⟩ := taken p.2
    rw [made]
    exact owns.drop n
  · exact owns

theorem ticket_take (d : Distributor α) (ticket : Nat) : (d.take ticket).1.ticket = d.ticket := by
  unfold Distributor.take
  split <;> rfl

theorem ticket_drain (d : Distributor α) (ticket : Nat) :
    (d.drain ticket).1.ticket = d.ticket := by
  unfold Distributor.drain
  split <;> rfl

theorem ticket_leave (d : Distributor α) (ticket : Nat) : (d.leave ticket).ticket = d.ticket := by
  unfold Distributor.leave
  split <;> rfl

theorem Lists.take (lists : Lists b d) (ticket : Nat) : Lists b (d.take ticket).1 := by
  have taken (q : Queue α) : ∃ n, q.take.1 = q.withItems (q.channel.items.drop n) q.dropped :=
    ⟨1, by rw [Queue.take_eq]⟩
  apply lists.of_take ticket (fun q => q.take.1) taken (ticket_take d ticket)
  rw [← lists.queues_update ticket fun q => q.take.1, Distributor.take]
  cases d.queue? ticket <;> rfl

theorem Lists.drain (lists : Lists b d) (ticket : Nat) : Lists b (d.drain ticket).1 := by
  have taken (q : Queue α) : ∃ n, q.drain.1 = q.withItems (q.channel.items.drop n) q.dropped :=
    ⟨q.channel.items.length, by rw [Queue.drain_eq]⟩
  apply lists.of_take ticket (fun q => q.drain.1) taken (ticket_drain d ticket)
  rw [← lists.queues_update ticket fun q => q.drain.1, Distributor.drain]
  cases d.queue? ticket <;> rfl

theorem Lists.leave (lists : Lists b d) (ticket : Nat) :
    Lists { b with members := b.members.map (Member.leave ticket) } (d.leave ticket) := by
  have tickets : (b.members.map (Member.leave ticket)).map Member.ticket =
      b.members.map Member.ticket := by
    rw [List.map_map]
    apply List.map_congr_left
    intro m _
    exact m.ticket_leave ticket
  refine ⟨?_, (ticket_leave d ticket).trans lists.ticket, ?_, ?_⟩
  · have queues : (d.leave ticket).queues = _ := lists.queues_update ticket Queue.leave
    rw [queues, List.forall₂_map_left_iff, List.forall₂_map_right_iff]
    apply lists.listed.imp
    intro m p owns
    exact owns.leave ticket
  · rw [tickets]
    exact lists.ascending
  · intro m mem
    obtain ⟨m', mem', rfl⟩ := List.mem_map.1 mem
    rw [Member.ticket_leave]
    exact lists.given m' mem'

theorem Lists.publish_eq (lists : Lists b d) (a : α) :
    d.publish a =
      (⟨(b.members.zip d.queues).filterMap (Member.serve a), d.ticket⟩,
        (b.members.zip d.queues).flatMap Member.tell) := by
  rw [Distributor.publish, putAll_of_listed lists.listed a]

theorem Lists.publish (lists : Lists b d) (a : α) :
    Lists (b.follow (.publish a)) (d.publish a).1 := by
  rw [lists.publish_eq a]
  refine ⟨listed_serve lists.listed a, lists.ticket, ?_, ?_⟩
  · exact lists.ascending.sublist (List.filter_sublist.map _)
  · intro m mem
    exact lists.given m (List.mem_filter.1 mem).1

/-- One move. -/
theorem Lists.turn (lists : Lists b d) (move : Move α) :
    Lists (b.follow move) (d.turn move).1 ∧
      (b.follow move).entered = b.entered + List.countP Turn.registers [(d.turn move).2] ∧
      (b.follow move).struckOff = b.struckOff ++ unregistered [(d.turn move).2] := by
  cases move with
  | register r =>
    rw [Distributor.turn, enter_eq, Roll.follow]
    cases Channel.fault? r.keeping.capacity? with
    | none => exact ⟨lists.add r, rfl, (List.append_nil _).symm⟩
    | some crash => exact ⟨lists, rfl, (List.append_nil _).symm⟩
  | publish a =>
    refine ⟨lists.publish a, rfl, ?_⟩
    rw [unregistered, List.flatMap_singleton, Distributor.turn, lists.publish_eq a]
    dsimp only
    rw [unregistered_tell lists.listed]
    rfl
  | take ticket => exact ⟨lists.take ticket, rfl, (List.append_nil _).symm⟩
  | drain ticket => exact ⟨lists.drain ticket, rfl, (List.append_nil _).symm⟩
  | leave ticket => exact ⟨lists.leave ticket, rfl, (List.append_nil _).symm⟩

/-- Moves one after the other. -/
theorem Lists.run (lists : Lists b d) (moves : List (Move α)) :
    Lists (moves.foldl Roll.follow b) (d.run moves).1 ∧
      (moves.foldl Roll.follow b).entered = b.entered + (d.run moves).2.countP Turn.registers ∧
      (moves.foldl Roll.follow b).struckOff = b.struckOff ++ unregistered (d.run moves).2 := by
  induction moves generalizing b d with
  | nil => exact ⟨lists, rfl, (List.append_nil _).symm⟩
  | cons move rest ih =>
    obtain ⟨lists', entered, struckOff⟩ := lists.turn move
    obtain ⟨lists'', entered', struckOff'⟩ := ih lists'
    refine ⟨lists'', ?_, ?_⟩
    · rw [List.foldl_cons, entered', entered, Nat.add_assoc, ← List.countP_append]
      rfl
    · rw [List.foldl_cons, struckOff', struckOff, List.append_assoc, unregistered, unregistered,
        ← List.flatMap_append]
      rfl

end Lists

/-- **A publication strikes off the dead members.** Let a distributor have been through any moves.
Its queues are then those of the members of the roll, in the order of registration. A walk through
the list by places, from which queues are taken out on the way, offers an item to each queue once.
It takes out the queues of the dead members, whose receivers are gone and whose queues do not lose
their oldest items, and no others; one event names each of them. The queues that stay keep their
order, and what comes of each, and what is told of it, depends on no other: if it has room, the item
joins its end. A queue of a dead member is left as it is, however full, and counts no loss. There
are as many queues as were registered, less those that were told to be unregistered. -/
theorem publish_strikes_off (moves : List (Move α)) (a : α) :
    let d := ((empty : Distributor α).run moves).1
    let turns := ((empty : Distributor α).run moves).2
    let members := (Roll.ofMoves moves).members
    let owned := members.zip d.queues
    let (served, events) := d.publish a
    List.Forall₂ Member.Owns members d.queues ∧
      (members.map Member.ticket).Pairwise (· < ·) ∧
      Pass.run a (.start d.queues) =
        ⟨served.queues, served.queues.length, members.map Member.ticket, events⟩ ∧
      served.queues.map Prod.fst = (members.filter fun m => !m.isDead).map Member.ticket ∧
      (∀ m ∈ members, m.keeping.losesOldest = true → m.ticket ∈ served.queues.map Prod.fst) ∧
      events.filterMap Event.unregistered? =
        (members.filter Member.isDead).map (fun m => m.registration.name) ∧
      served.queues = owned.filterMap (Member.serve a) ∧
      events = owned.flatMap Member.tell ∧
      (∀ m ticket q, (m, ticket, q) ∈ owned →
        (m.isDead = false → m.keeping.HasRoom q.channel.items →
          (ticket, q.withItems (q.channel.items ++ [a]) q.dropped) ∈ served.queues) ∧
        (m.isDead = true → q.put a = (q, false, []))) ∧
      d.queues.length + (unregistered turns).length = turns.countP Turn.registers := by
  obtain ⟨lists, entered, struckOff⟩ := (lists_empty (α := α)).run moves
  have balanced := Roll.isBalanced_ofMoves moves
  rw [Roll.ofMoves] at *
  generalize (empty : Distributor α).run moves = course at *
  generalize moves.foldl Roll.follow .empty = b at *
  obtain ⟨d, turns⟩ := course
  dsimp only at *
  have listed := lists.listed
  rw [lists.publish_eq a]
  dsimp only
  have stay := map_fst_of_listed (listed_serve listed a)
  refine ⟨listed, lists.ascending, ?_, stay, ?_, unregistered_tell listed, rfl, rfl, ?_, ?_⟩
  · rw [Pass.run_start, putAll_of_listed listed a, map_fst_of_listed listed]
  · intro m mem loses
    rw [stay]
    apply List.mem_map_of_mem
    rw [List.mem_filter, Member.isDead, loses]
    exact ⟨mem, by rw [Bool.not_true, Bool.and_false]; rfl⟩
  · intro m ticket q mem
    constructor
    · intro live room
      apply List.mem_filterMap.2
      refine ⟨_, mem, ?_⟩
      rw [Member.serve_of_live live, Queue.passed_of_room room]
    · intro dead
      have owns : m.Owns (ticket, q) := (List.forall₂_iff_zip.1 listed).2 mem
      exact owns.put_of_dead dead a
  · unfold Roll.IsBalanced at balanced
    rw [struckOff, entered, listed.length_eq] at balanced
    simpa [Roll.empty] using balanced

/-- The first two of one name and a full one are dead; the last loses its oldest item for nobody. -/
example :
    let moves : List (Move Nat) := [.register (.byPolicy "log" .unbounded),
      .register (.byPolicy "log" .unbounded), .register (.byPolicy "map" .unbounded),
      .register (.byConsumer "raw" (some 1)), .register (.byPolicy "view" (.dropOldest 1)),
      .publish 1, .leave 0, .leave 1, .leave 3, .leave 4]
    let (served, events) := ((empty : Distributor Nat).run moves).1.publish 2
    served.queues.map (fun (ticket, q) => (ticket, q.channel.items)) = [(2, [1, 2]), (4, [2])] ∧
      events = [.unregistered "log", .unregistered "log", .unregistered "raw",
        .dropped "view" 1] := by
  decide

end Distributor

end AisFeed
