import AisFeed.Capture.Survey
import Mathlib

/-!
# Tallies

A tally keeps two maps at once: for each vessel the types that it sent, and for each type its
messages and its vessels. A vessel is new to a type if the first map does not show the type for it,
so what the second map counts hangs on the first. `Tally.Counts` says what both hold after some
messages; one more message keeps it (`Counts.addMessage`), and so do all that are counted in a row
(`Tally.counts_ofMessages`).
-/

set_option autoImplicit false

namespace AisFeed

namespace Message

/-- The messages of a type. -/
def ofType (type : Nat) (messages : List Message) : List Message :=
  messages.filter fun m => m.type? = some type

/-- The types of some messages. -/
def types (messages : List Message) : Finset Nat :=
  (messages.filterMap type?).toFinset

/-- The vessels that sent some messages. -/
def senders (messages : List Message) : Finset Nat :=
  (messages.filterMap mmsi?).toFinset

/-- Does a message name its type and its vessel? -/
def IsNamed (m : Message) : Prop :=
  (∃ type, m.type? = some type) ∧ ∃ mmsi, m.mmsi? = some mmsi

section OneMore

variable {m : Message} {type mmsi : Nat}

theorem types_append_singleton (named : m.type? = some type) (messages : List Message) :
    types (messages ++ [m]) = insert type (types messages) := by
  ext other
  simp [types, named]

theorem senders_append_singleton (named : m.mmsi? = some mmsi) (messages : List Message) :
    senders (messages ++ [m]) = insert mmsi (senders messages) := by
  ext other
  simp [senders, named]

theorem ofType_append_self (named : m.type? = some type) (messages : List Message) :
    ofType type (messages ++ [m]) = ofType type messages ++ [m] := by
  simp [ofType, named]

theorem ofType_append_of_ne {other : Nat} (named : m.type? = some type) (ne : other ≠ type)
    (messages : List Message) : ofType other (messages ++ [m]) = ofType other messages := by
  simp [ofType, named, ne.symm]

theorem mem_senders_ofType_append {other vessel : Nat} (typed : m.type? = some type)
    (sender : m.mmsi? = some mmsi) (messages : List Message) :
    vessel ∈ senders (ofType other (messages ++ [m])) ↔
      other = type ∧ vessel = mmsi ∨ vessel ∈ senders (ofType other messages) := by
  by_cases same : other = type
  · rw [same, ofType_append_self typed, senders_append_singleton sender, Finset.mem_insert]
    simp
  · rw [ofType_append_of_ne typed same]
    simp [same]

end OneMore

theorem mem_types_iff {messages : List Message} {type : Nat} :
    type ∈ types messages ↔ ∃ m ∈ messages, m.type? = some type := by
  simp [types]

theorem mem_senders_iff {messages : List Message} {mmsi : Nat} :
    mmsi ∈ senders messages ↔ ∃ m ∈ messages, m.mmsi? = some mmsi := by
  simp [senders]

theorem mem_ofType_iff {messages : List Message} {type : Nat} {m : Message} :
    m ∈ ofType type messages ↔ m ∈ messages ∧ m.type? = some type := by
  simp [ofType]

theorem senders_ofType_subset (type : Nat) (messages : List Message) :
    senders (ofType type messages) ⊆ senders messages := by
  intro mmsi mem
  obtain ⟨m, here, named⟩ := mem_senders_iff.1 mem
  exact mem_senders_iff.2 ⟨m, (mem_ofType_iff.1 here).1, named⟩

theorem card_senders_le (messages : List Message) : (senders messages).card ≤ messages.length :=
  (List.toFinset_card_le _).trans (List.length_filterMap_le _ _)

section Named

variable {messages : List Message} (named : ∀ m ∈ messages, m.IsNamed)
include named

/-- Every type that occurs has a sender. -/
theorem card_senders_ofType_pos {type : Nat} (occurs : type ∈ types messages) :
    0 < (senders (ofType type messages)).card := by
  obtain ⟨m, mem, typed⟩ := mem_types_iff.1 occurs
  obtain ⟨-, mmsi, sent⟩ := named m mem
  exact Finset.card_pos.2 ⟨mmsi, mem_senders_iff.2 ⟨m, mem_ofType_iff.2 ⟨mem, typed⟩, sent⟩⟩

/-- Every message has one of the types. -/
theorem sum_length_ofType :
    ∑ type ∈ types messages, (ofType type messages).length = messages.length := by
  have each (type : Nat) :
      (ofType type messages).length = (messages.filterMap type?).count type := by
    rw [ofType, ← List.countP_eq_length_filter, List.count_filterMap]
    exact List.countP_congr fun m _ => by simp
  have all : (messages.filterMap type?).length = messages.length := by
    rw [List.length_filterMap_eq_countP, List.countP_eq_length]
    intro m mem
    obtain ⟨⟨type, typed⟩, -⟩ := named m mem
    rw [typed, Option.isSome_some]
  rw [Finset.sum_congr rfl fun type _ => each type, types, ← all]
  exact List.sum_toFinset_count_eq_length _

/-- Every sender sent something of one of the types. -/
theorem card_senders_le_sum :
    (senders messages).card ≤ ∑ type ∈ types messages, (senders (ofType type messages)).card := by
  have covered : senders messages ⊆
      (types messages).biUnion fun type => senders (ofType type messages) := by
    intro mmsi mem
    obtain ⟨m, here, sent⟩ := mem_senders_iff.1 mem
    obtain ⟨⟨type, typed⟩, -⟩ := named m here
    exact Finset.mem_biUnion.2 ⟨type, mem_types_iff.2 ⟨m, here, typed⟩,
      mem_senders_iff.2 ⟨m, mem_ofType_iff.2 ⟨here, typed⟩, sent⟩⟩
  exact (Finset.card_le_card covered).trans Finset.card_biUnion_le

end Named

end Message

namespace Tally

/-! ## Entries in ascending order -/

/-- The keys of entries are in ascending order, each at most once. -/
def Ascending {α : Type} (entries : List (Nat × α)) : Prop :=
  (entries.map Prod.fst).Pairwise (· < ·)

section Entries

variable {α : Type} {key k : Nat} {a : α} {entries : List (Nat × α)}

theorem find?_cons (key k : Nat) (a : α) (rest : List (Nat × α)) :
    find? key ((k, a) :: rest) = if k = key then some a else find? key rest := by
  unfold find?
  rw [List.find?_cons]
  by_cases same : k = key
  · rw [if_pos same, decide_eq_true same]
    rfl
  · rw [if_neg same, decide_eq_false same]

theorem find?_eq_none_of_lt (below : ∀ k ∈ entries.map Prod.fst, key < k) :
    find? key entries = none := by
  induction entries with
  | nil => rfl
  | cons e rest ih =>
    obtain ⟨here, later⟩ := List.forall_mem_cons.1 below
    rw [find?_cons, if_neg (Nat.ne_of_gt here), ih later]

theorem mem_keys_alter (key : Nat) (initial : α) (f : α → α) (entries : List (Nat × α)) :
    k ∈ (alter key initial f entries).map Prod.fst ↔ k = key ∨ k ∈ entries.map Prod.fst := by
  induction entries with
  | nil => simp [alter]
  | cons e rest ih =>
    unfold alter
    split
    · simp
    · split
      · rename_i same
        simp [same]
      · rw [List.map_cons, List.mem_cons, ih, List.map_cons, List.mem_cons]
        tauto

theorem Ascending.alter (ascending : Ascending entries) (key : Nat) (initial : α) (f : α → α) :
    Ascending (Tally.alter key initial f entries) := by
  induction entries with
  | nil => exact List.pairwise_singleton _ _
  | cons e rest ih =>
    obtain ⟨here, a⟩ := e
    obtain ⟨above, later⟩ := List.pairwise_cons.1 ascending
    unfold Tally.alter
    split
    · rename_i less
      refine List.pairwise_cons.2 ⟨?_, ascending⟩
      intro k mem
      obtain rfl | mem := List.mem_cons.1 mem
      · exact less
      · exact less.trans (above k mem)
    · split
      · rename_i same
        subst same
        exact List.pairwise_cons.2 ⟨above, later⟩
      · refine List.pairwise_cons.2 ⟨?_, ih later⟩
        intro k mem
        obtain rfl | mem := (mem_keys_alter key initial f rest).1 mem
        · show here < k
          omega
        · exact above k mem

/-- An entry that is changed is found with its change, and the others are found as they were. -/
theorem Ascending.find?_alter (ascending : Ascending entries) (key k : Nat) (initial : α)
    (f : α → α) :
    find? k (Tally.alter key initial f entries) =
      if k = key then some (f ((find? key entries).getD initial)) else find? k entries := by
  induction entries with
  | nil =>
    simp only [Tally.alter, find?_cons, eq_comm]
    rfl
  | cons e rest ih =>
    obtain ⟨here, a⟩ := e
    obtain ⟨above, later⟩ := List.pairwise_cons.1 ascending
    unfold Tally.alter
    split
    · rename_i less
      have absent : find? key ((here, a) :: rest) = none := by
        apply find?_eq_none_of_lt
        exact List.forall_mem_cons.2 ⟨less, fun k mem => less.trans (above k mem)⟩
      rw [find?_cons, absent, Option.getD_none]
      simp only [eq_comm]
    · split
      · rename_i same
        subst same
        rw [find?_cons, find?_cons, find?_cons, if_pos rfl, Option.getD_some]
        simp only [eq_comm]
        split <;> rfl
      · rename_i greater other
        rw [find?_cons, ih later, find?_cons, find?_cons, if_neg (Ne.symm other)]
        split
        · rename_i same
          rw [if_neg (fun found => other (found.symm.trans same.symm))]
        · rfl

theorem isSome_find?_iff : (find? key entries).isSome ↔ key ∈ entries.map Prod.fst := by
  induction entries with
  | nil => simp [find?]
  | cons e rest ih =>
    rw [find?_cons, List.map_cons, List.mem_cons, ← ih]
    split
    · rename_i same
      simp [same]
    · rename_i other
      simp [Ne.symm other]

theorem isSome_find?_alter (key k : Nat) (initial : α) (f : α → α) (entries : List (Nat × α)) :
    (find? k (alter key initial f entries)).isSome ↔ k = key ∨ (find? k entries).isSome := by
  rw [isSome_find?_iff, mem_keys_alter, isSome_find?_iff]

theorem Ascending.find?_of_mem (ascending : Ascending entries) (mem : (key, a) ∈ entries) :
    find? key entries = some a := by
  induction entries with
  | nil => cases mem
  | cons e rest ih =>
    obtain ⟨above, later⟩ := List.pairwise_cons.1 ascending
    rw [find?_cons]
    obtain rfl | mem := List.mem_cons.1 mem
    · rw [if_pos rfl]
    · have less : e.1 < key := above key (List.mem_map_of_mem mem)
      rw [if_neg (Nat.ne_of_lt less)]
      exact ih later mem

theorem Ascending.nodup (ascending : Ascending entries) : (entries.map Prod.fst).Nodup :=
  ascending.imp fun less => Nat.ne_of_lt less

/-- A sum over entries is one over their keys, each of which is there once. -/
theorem Ascending.sum_eq (ascending : Ascending entries) {value : Nat × α → Nat} (f : Nat → Nat)
    (hangs : ∀ e ∈ entries, value e = f e.1) :
    (entries.map value).sum = ∑ key ∈ (entries.map Prod.fst).toFinset, f key := by
  rw [List.sum_toFinset f ascending.nodup, List.map_map]
  exact congrArg List.sum (List.map_congr_left hangs)

end Entries

/-! ## What a tally holds -/

/-- Both maps of a tally hold what they should after some messages: the vessels those that sent one,
each with the types that it sent, and the types those that occur, each with how many messages there
were and from how many vessels. -/
structure Counts (messages : List Message) (t : Tally) : Prop where
  ascending_vessels : Ascending t.vessels
  ascending_types : Ascending t.types
  vessel : ∀ mmsi, (find? mmsi t.vessels).isSome ↔ mmsi ∈ Message.senders messages
  sent : ∀ mmsi type, type ∈ (find? mmsi t.vessels).getD [] ↔
    mmsi ∈ Message.senders (Message.ofType type messages)
  type : ∀ type, (find? type t.types).isSome ↔ type ∈ Message.types messages
  count : ∀ type, (find? type t.types).getD ⟨0, 0⟩ =
    ⟨(Message.ofType type messages).length,
      (Message.senders (Message.ofType type messages)).card⟩

section Counts

variable {messages : List Message} {t : Tally}

theorem Counts.length_vessels (counts : Counts messages t) :
    t.vessels.length = (Message.senders messages).card := by
  have keys : (t.vessels.map Prod.fst).toFinset = Message.senders messages := by
    ext mmsi
    rw [List.mem_toFinset, ← isSome_find?_iff, counts.vessel]
  rw [← keys, List.toFinset_card_of_nodup counts.ascending_vessels.nodup, List.length_map]

theorem Counts.mem_keys_iff (counts : Counts messages t) {type : Nat} :
    type ∈ t.types.map Prod.fst ↔ type ∈ Message.types messages := by
  rw [← isSome_find?_iff, counts.type]

theorem Counts.keys_types (counts : Counts messages t) :
    (t.types.map Prod.fst).toFinset = Message.types messages := by
  ext type
  rw [List.mem_toFinset, counts.mem_keys_iff]

section Entry

variable {e : Nat × TypeCount} (mem : e ∈ t.types)
include mem

theorem Counts.eq_of_mem (counts : Counts messages t) :
    e.2 = ⟨(Message.ofType e.1 messages).length,
      (Message.senders (Message.ofType e.1 messages)).card⟩ := by
  have found := counts.ascending_types.find?_of_mem mem
  rw [← counts.count, found, Option.getD_some]

theorem Counts.count_of_mem (counts : Counts messages t) :
    e.2.count = (Message.ofType e.1 messages).length := by
  rw [counts.eq_of_mem mem]

theorem Counts.vessels_of_mem (counts : Counts messages t) :
    e.2.vessels = (Message.senders (Message.ofType e.1 messages)).card := by
  rw [counts.eq_of_mem mem]

/-- A type has a vessel, and no more of them than messages or vessels in all. -/
theorem Counts.bounds (counts : Counts messages t) (named : ∀ m ∈ messages, m.IsNamed) :
    1 ≤ e.2.vessels ∧ e.2.vessels ≤ min e.2.count t.vessels.length := by
  have occurs := counts.mem_keys_iff.1 (List.mem_map_of_mem mem)
  rw [counts.count_of_mem mem, counts.vessels_of_mem mem, counts.length_vessels]
  constructor
  · exact Message.card_senders_ofType_pos named occurs
  · apply le_min
    · exact Message.card_senders_le _
    · exact Finset.card_le_card (Message.senders_ofType_subset e.1 messages)

end Entry

theorem Counts.sum_count (counts : Counts messages t) (named : ∀ m ∈ messages, m.IsNamed) :
    (t.types.map fun e => e.2.count).sum = messages.length := by
  rw [counts.ascending_types.sum_eq (fun type => (Message.ofType type messages).length)
    fun e mem => counts.count_of_mem mem, counts.keys_types]
  exact Message.sum_length_ofType named

theorem Counts.length_vessels_le (counts : Counts messages t)
    (named : ∀ m ∈ messages, m.IsNamed) :
    t.vessels.length ≤ (t.types.map fun e => e.2.vessels).sum := by
  rw [counts.ascending_types.sum_eq
    (fun type => (Message.senders (Message.ofType type messages)).card)
    fun e mem => counts.vessels_of_mem mem, counts.keys_types, counts.length_vessels]
  exact Message.card_senders_le_sum named

end Counts

theorem counts_empty : Counts [] ⟨[], []⟩ := by
  refine ⟨.nil, .nil, ?_, ?_, ?_, fun _ => rfl⟩
  all_goals simp [find?, Message.senders, Message.types, Message.ofType]

/-- A type is put to those that a vessel sent before, unless it is one of them. -/
theorem mem_noted_iff {type other : Nat} {types : List Nat} :
    other ∈ (if !types.contains type then types ++ [type] else types) ↔
      other = type ∨ other ∈ types := by
  by_cases known : type ∈ types
  · rw [List.contains_iff_mem.2 known, Bool.not_true, if_neg Bool.false_ne_true]
    constructor
    · exact Or.inr
    · rintro (rfl | mem)
      · exact known
      · exact mem
  · have new : types.contains type = false := by
      rw [← Bool.not_eq_true, List.contains_iff_mem]
      exact known
    rw [new, Bool.not_false, if_pos rfl, List.mem_append, List.mem_singleton, or_comm]

/-- What one more message changes: the type is noted for its vessel, and the vessel is one more of
the type if it was not noted before. -/
theorem Counts.addMessage {messages : List Message} {t : Tally} (counts : Counts messages t)
    {m : Message} (named : m.IsNamed) : Counts (messages ++ [m]) (t.addMessage m) := by
  obtain ⟨⟨type, typed⟩, mmsi, sender⟩ := named
  have adds : t.addMessage m = t.add type mmsi := by
    rw [Tally.addMessage, typed, sender]
  rw [adds]
  refine ⟨counts.ascending_vessels.alter _ _ _, counts.ascending_types.alter _ _ _, ?_, ?_, ?_, ?_⟩
  · intro other
    rw [Tally.add, isSome_find?_alter, counts.vessel, Message.senders_append_singleton sender,
      Finset.mem_insert]
  · intro vessel other
    rw [Message.mem_senders_ofType_append typed sender, ← counts.sent, Tally.add,
      counts.ascending_vessels.find?_alter]
    split
    · rename_i same
      rw [Option.getD_some, mem_noted_iff, same]
      simp
    · rename_i different
      simp [different]
  · intro other
    rw [Tally.add, isSome_find?_alter, counts.type, Message.types_append_singleton typed,
      Finset.mem_insert]
  · intro other
    rw [Tally.add, counts.ascending_types.find?_alter]
    split
    · rename_i same
      have known : ((find? mmsi t.vessels).getD []).contains type = true ↔
          mmsi ∈ Message.senders (Message.ofType type messages) := by
        rw [List.contains_iff_mem, counts.sent]
      rw [Option.getD_some, counts.count, same, Message.ofType_append_self typed,
        Message.senders_append_singleton sender, Finset.card_insert_eq_ite, List.length_append]
      simp only [Bool.not_eq_true', ← Bool.not_eq_true, known, List.length_singleton, ite_not]
    · rename_i different
      rw [counts.count, Message.ofType_append_of_ne typed different]

theorem counts_ofMessages {messages : List Message} (named : ∀ m ∈ messages, m.IsNamed) :
    Counts messages (ofMessages messages) := by
  induction messages using List.reverseRecOn with
  | nil => exact counts_empty
  | append_singleton before m ih =>
    have earlier := ih fun m mem => named m (List.mem_append_left _ mem)
    rw [ofMessages, List.foldl_append]
    exact earlier.addMessage (named m (List.mem_append_right _ List.mem_cons_self))

end Tally

end AisFeed
