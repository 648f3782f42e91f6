import AisFeed.Proofs.Decoder.Records
import AisFeed.Proofs.Reassembly.Completion
import AisFeed.Proofs.Sentence.Acceptance

/-!
# Fragmentation is transparent

A message may come in fragments: in any order, some of them more than once, and among records of
other messages. `processAll_fragments` says that its decoder answers with nothing until the last
number has come, and then as it answers the same message in one sentence. What carries the
induction over the records is `Holds`: the group of the key holds the fragments so far.
-/

set_option autoImplicit false

namespace AisFeed

open Text

/-! ## Records of fragments -/

/-- The line of a record is a spelling of the sentence. -/
def Record.Spells (r : Record) (s : Sentence) : Prop :=
  s.receivedAt = r.receivedAt ∧ ∃ p : Spelling, p.Denotes s ∧ p.line = r.bytes

/-- A record brings a fragment of the group of a key. -/
structure Record.Brings (keying : Keying) (key : GroupKey) (total : Nat) (r : Record)
    (s : Sentence) : Prop where
  spells : r.Spells s
  key : keying.key s = key
  total : s.total = total

/-- A record does not matter for the group of a key: it is not accepted or is passed over, or its
sentence is a whole message or belongs to another group. -/
def Record.IsStray (keying : Keying) (key : GroupKey) (r : Record) : Prop :=
  ∀ s, Sentence.read r.bytes r.receivedAt = .ok (some s) → s.fragmentOf? keying key = none

/-- Records that bring the fragments of a list in their order, with stray records among them. -/
inductive Interleaved (keying : Keying) (key : GroupKey) (total : Nat) :
    List Arrival → Life → Prop
  | nil : Interleaved keying key total [] []
  | stray {a : Arrival} {rest : List Arrival} {l : Life} (stray : a.record.IsStray keying key)
      (later : Interleaved keying key total rest l) : Interleaved keying key total (a :: rest) l
  | fragment {a : Arrival} {rest : List Arrival} {s : Sentence} {l : Life}
      (brings : a.record.Brings keying key total s)
      (later : Interleaved keying key total rest l) :
      Interleaved keying key total (a :: rest) (s :: l)

/-- A record arrives while the first fragment is not older than the time-to-live. -/
def Arrival.IsFresh (ttl : Span) (l : Life) (a : Arrival) : Prop :=
  ∃ cutoff, a.now.minus? ttl = some cutoff ∧ ∀ first ∈ l.head?, cutoff ≤ first.receivedAt

theorem Arrival.IsFresh.of_append {ttl : Span} {l more : Life} {a : Arrival}
    (h : a.IsFresh ttl (l ++ more)) : a.IsFresh ttl l := by
  obtain ⟨cutoff, start, young⟩ := h
  refine ⟨cutoff, start, fun first head => young first ?_⟩
  rw [List.head?_append, Option.mem_def.1 head, Option.some_or]
  rfl

theorem Record.Spells.read {r : Record} {s : Sentence} (h : r.Spells s) :
    Sentence.read r.bytes r.receivedAt = .ok (some s) := by
  obtain ⟨received, p, denotes, line⟩ := h
  rw [← line, ← received]
  exact denotes.read

theorem Record.Brings.inRange {keying : Keying} {key : GroupKey} {total : Nat} {r : Record}
    {s : Sentence} (h : r.Brings keying key total s) :
    s.total = total ∧ 1 ≤ s.number ∧ s.number ≤ total := by
  obtain ⟨-, p, denotes, -⟩ := h.spells
  refine ⟨h.total, denotes.number_pos, ?_⟩
  rw [← h.total]
  exact denotes.number_le

theorem Record.Brings.not_isStray {keying : Keying} {key : GroupKey} {total : Nat} {r : Record}
    {s : Sentence} (h : r.Brings keying key total s) (many : 1 < total) :
    ¬r.IsStray keying key := by
  intro stray
  have absent := Sentence.fragmentOf?_eq_none_iff.1 (stray s h.spells.read)
  rw [h.total] at absent
  rcases absent with single | other
  · exact absurd many (Nat.not_lt.2 single)
  · exact other h.key

theorem Interleaved.brought {keying : Keying} {key : GroupKey} {total : Nat}
    {feed : List Arrival} {l : Life} (fed : Interleaved keying key total feed l) :
    ∀ s ∈ l, ∃ r : Record, r.Brings keying key total s := by
  induction fed with
  | nil => exact fun s mem => absurd mem List.not_mem_nil
  | stray _ _ ih => exact ih
  | fragment brings _ ih =>
    intro s mem
    rcases List.mem_cons.1 mem with rfl | mem
    · exact ⟨_, brings⟩
    · exact ih s mem

theorem Interleaved.isOfTotal {keying : Keying} {key : GroupKey} {total : Nat}
    {feed : List Arrival} {l : Life} (fed : Interleaved keying key total feed l) :
    l.IsOfTotal total := by
  intro s mem
  obtain ⟨r, brings⟩ := fed.brought s mem
  exact brings.inRange

theorem Interleaved.snoc {keying : Keying} {key : GroupKey} {total : Nat} {feed : List Arrival}
    {l : Life} (fed : Interleaved keying key total feed l) {a : Arrival} {s : Sentence}
    (brings : a.record.Brings keying key total s) :
    Interleaved keying key total (feed ++ [a]) (l ++ [s]) := by
  induction fed with
  | nil => exact .fragment brings .nil
  | stray stray _ ih => exact .stray stray ih
  | fragment brings' _ ih => exact .fragment brings' ih

/-! ## Steps -/

/-- A decoder whose codec does not crash holds the fragments of a list for a key. -/
structure Decoder.Holds (decode : String → Nat → Except CodecError Fields) (keying : Keying)
    (ttl : Span) (key : GroupKey) (d : Decoder) (l : Life) : Prop where
  pure : ∀ text fillBits, d.codec text fillBits = .ok (decode text fillBits)
  keying : d.reassembler.keying = keying
  ttl : d.reassembler.ttl = ttl
  groups : d.reassembler.groupsOf key = l.group?.toList

section Steps

variable {decode : String → Nat → Except CodecError Fields} {keying : Keying} {ttl : Span}
  {key : GroupKey} {d : Decoder} {l : Life} {a : Arrival}

theorem Decoder.Holds.stray (held : d.Holds decode keying ttl key l)
    (stray : a.record.IsStray keying key) (fresh : a.IsFresh ttl l) :
    ∃ d' answer, (d.process a.record a.now).result = .ok (d', answer) ∧
      d'.Holds decode keying ttl key l := by
  obtain ⟨pure, rfl, rfl, groups⟩ := held
  by_cases absent : ∀ s, Sentence.read a.record.bytes a.record.receivedAt ≠ .ok (some s)
  · obtain ⟨summary, result⟩ := d.process_of_no_sentence a.now absent
    exact ⟨_, _, result, pure, rfl, rfl, groups⟩
  · obtain ⟨s, read⟩ := not_forall.1 absent
    rw [not_not] at read
    obtain ⟨cutoff, start, young⟩ := fresh
    obtain ⟨summary, result⟩ := Decoder.process_of_sentence pure read start
    refine ⟨_, _, result, pure, ?_, ?_, ?_⟩
    · rw [Reassembler.join_keying, Reassembler.sweep_keying]
    · rw [Reassembler.join_ttl, Reassembler.sweep_ttl]
    · rw [Reassembler.groupsOf_join_of_other, Reassembler.groupsOf_sweep_of_young groups young]
      exact stray s read

theorem Decoder.Holds.fragment (held : d.Holds decode keying ttl key l) {total : Nat}
    (many : 1 < total) {s : Sentence} (brings : a.record.Brings keying key total s)
    (fresh : a.IsFresh ttl l) :
    ∃ d', (d.process a.record a.now).result =
        .ok (d', (Life.message? (l ++ [s]) total).bind (Payload.message? decode)) ∧
      d'.Holds decode keying ttl key
        (if (Life.message? (l ++ [s]) total).isSome then [] else l ++ [s]) := by
  obtain ⟨pure, rfl, rfl, groups⟩ := held
  obtain ⟨spells, key, rfl⟩ := brings
  obtain ⟨cutoff, start, young⟩ := fresh
  obtain ⟨summary, result⟩ := Decoder.process_of_sentence pure spells.read start
  have swept := Reassembler.groupsOf_sweep_of_young groups young
  obtain ⟨answer, after⟩ := Reassembler.groupsOf_join_life swept
    (Sentence.fragmentOf?_eq_some_iff.2 ⟨⟨many, key⟩, rfl⟩)
  rw [answer] at result after
  refine ⟨_, result, pure, ?_, ?_, after⟩
  · rw [Reassembler.join_keying, Reassembler.sweep_keying]
  · rw [Reassembler.join_ttl, Reassembler.sweep_ttl]

end Steps

/-! ## Runs -/

/-- Records take a decoder to another one, and no fragment among them is answered. -/
structure Decoder.Silent (keying : Keying) (key : GroupKey) (total : Nat) (d : Decoder)
    (feed : List Arrival) (d' : Decoder) : Prop where
  result : (d.processAll feed).result = .ok d'
  length : (d.processAll feed).answers.length = feed.length
  answers : ∀ x ∈ feed.zip (d.processAll feed).answers,
    ∀ s, x.1.record.Brings keying key total s → x.2 = none

theorem Decoder.Silent.cons {keying : Keying} {key : GroupKey} {total : Nat}
    {d next d' : Decoder} {a : Arrival} {answer : Option Message} {rest : List Arrival}
    (step : (d.process a.record a.now).result = .ok (next, answer))
    (silent : ∀ s, a.record.Brings keying key total s → answer = none)
    (later : next.Silent keying key total rest d') : d.Silent keying key total (a :: rest) d' := by
  obtain ⟨result, out⟩ := Decoder.processAll_cons step rest
  refine ⟨result.trans later.result, ?_, ?_⟩
  · rw [out, List.length_cons, List.length_cons, later.length]
  · rw [out, List.zip_cons_cons]
    intro x mem s brings
    rcases List.mem_cons.1 mem with rfl | mem
    · exact silent s brings
    · exact later.answers x mem s brings

/-- While a number is missing, no fragment is answered, and the group holds all of them. -/
theorem Decoder.Holds.run {decode : String → Nat → Except CodecError Fields} {keying : Keying}
    {ttl : Span} {key : GroupKey} {d : Decoder} {before l : Life} {total : Nat}
    {feed : List Arrival} (held : d.Holds decode keying ttl key before) (many : 1 < total)
    (fed : Interleaved keying key total feed l) (inRange : Life.IsOfTotal total (before ++ l))
    (missing : ¬Life.IsComplete total (before ++ l))
    (fresh : ∀ a ∈ feed, a.IsFresh ttl (before ++ l)) :
    ∃ d', d.Silent keying key total feed d' ∧ d'.Holds decode keying ttl key (before ++ l) := by
  induction fed generalizing d before with
  | nil =>
    rw [List.append_nil]
    exact ⟨d, ⟨rfl, rfl, fun x mem => absurd mem List.not_mem_nil⟩, held⟩
  | stray stray later ih =>
    have here := (fresh _ List.mem_cons_self).of_append
    obtain ⟨next, answer, step, held⟩ := held.stray stray here
    obtain ⟨d', silent, held⟩ := ih held inRange missing
      fun a mem => fresh a (List.mem_cons_of_mem _ mem)
    exact ⟨d', .cons step (fun s brings => absurd stray (brings.not_isStray many)) silent, held⟩
  | @fragment a rest s l brings later ih =>
    have here := (fresh a List.mem_cons_self).of_append
    have split : before ++ s :: l = (before ++ [s]) ++ l := by
      rw [List.append_assoc, List.singleton_append]
    rw [split] at inRange missing fresh ⊢
    -- what has come so far is no message, as the rest is not complete with it either
    have none : Life.message? (before ++ [s]) total = none :=
      Life.message?_of_not_complete inRange.of_append fun complete =>
        missing (complete.append l)
    obtain ⟨next, step, held⟩ := held.fragment many brings here
    rw [none] at step held
    obtain ⟨d', silent, held⟩ := ih held inRange missing
      fun a mem => fresh a (List.mem_cons_of_mem _ mem)
    exact ⟨d', .cons step (fun _ _ => rfl) silent, held⟩

/-! ## One sentence -/

/-- A record carries a whole message in one sentence. -/
def Record.CarriesAlone (r : Record) (p : Payload) : Prop :=
  r.receivedAt = p.receivedAt ∧
    ∃ s, r.Spells s ∧ s.total = 1 ∧ s.payload = p.text ∧ s.fillBits = p.fillBits

/-- A message in one sentence is answered at once, whatever the state of its decoder. -/
theorem Decoder.process_alone {decode : String → Nat → Except CodecError Fields} {d : Decoder}
    (pure : ∀ text fillBits, d.codec text fillBits = .ok (decode text fillBits)) {a : Arrival}
    {p : Payload} (alone : a.record.CarriesAlone p) {cutoff : Time}
    (start : a.now.minus? d.reassembler.ttl = some cutoff) :
    ∃ d', (d.process a.record a.now).result = .ok (d', p.message? decode) := by
  obtain ⟨received, s, spells, single, text, fillBits⟩ := alone
  obtain ⟨summary, result⟩ := Decoder.process_of_sentence pure spells.read start
  have whole : ((d.reassembler.sweep cutoff).1.join s).2 = some p := by
    rw [Reassembler.join, if_pos (Nat.le_of_eq single), text, fillBits, spells.1, received]
  rw [whole] at result
  exact ⟨_, result⟩

/-- What the fragments of a message make can be sent in one sentence. -/
theorem Interleaved.exists_alone {keying : Keying} {key : GroupKey} {total : Nat}
    {feed : List Arrival} {l : Life} (fed : Interleaved keying key total feed l) {p : Payload}
    (whole : l.whole? total = some p) : ∃ r : Record, r.CarriesAlone p := by
  obtain ⟨first, -, rfl⟩ := Option.map_eq_some_iff.1 whole
  have latest {n : Nat} {s : Sentence} (h : l.latest? n = some s) :
      ∃ p : Spelling, p.Denotes s := by
    obtain ⟨r, brings⟩ := fed.brought s (Life.number_of_latest? h).1
    obtain ⟨-, p, denotes, -⟩ := brings.spells
    exact ⟨p, denotes⟩
  have oneLine : lineFeed ∉ Utf8.bytesOf (String.join
      ((List.range' 1 total).filterMap fun n => (l.latest? n).map Sentence.payload)) := by
    rw [Utf8.bytesOf, String.toList_join, Utf8.encode, List.flatMap_assoc]
    intro mem
    obtain ⟨chunk, among, inside⟩ := List.mem_flatMap.1 mem
    obtain ⟨n, -, given⟩ := List.mem_filterMap.1 among
    obtain ⟨s, last, rfl⟩ := Option.map_eq_some_iff.1 given
    obtain ⟨p, denotes⟩ := latest last
    refine denotes.body.payload ?_
    rw [denotes.payload]
    exact inside
  have few : ((l.latest? total).map Sentence.fillBits).getD 0 ≤ 5 := by
    cases last : l.latest? total with
    | none => exact Nat.zero_le 5
    | some s =>
      obtain ⟨p, denotes⟩ := latest last
      exact denotes.fillBits_le
  obtain ⟨p, denotes⟩ := Sentence.exists_alone oneLine few first.receivedAt
  exact ⟨.ofBytes first.receivedAt p.line, rfl, ⟨.otherVessel, 1, 1, none, none, _, _, _⟩,
    ⟨rfl, p, denotes, rfl⟩, rfl, rfl, rfl⟩

namespace Decoder

/-- **Fragmentation is transparent.** Let the fragments of a message come in any order, some of
them more than once and with stray records among them, to a decoder that has no group of their
key, and all while the first of them is young. No fragment is answered until the last missing
number comes, and that is answered with what the codec makes of the latest chunks in the order of
their numbers. The message in one sentence, which there is, is answered the same. -/
theorem processAll_fragments {decode : String → Nat → Except CodecError Fields}
    {d : Decoder} {key : GroupKey} {total : Nat} {feed : List Arrival} {last : Arrival} {l : Life}
    {s : Sentence} (pure : ∀ text fillBits, d.codec text fillBits = .ok (decode text fillBits))
    (absent : d.reassembler.get? key = none) (many : 2 ≤ total)
    (fed : Interleaved d.reassembler.keying key total feed l)
    (brings : last.record.Brings d.reassembler.keying key total s)
    (missing : ¬l.IsComplete total) (complete : Life.IsComplete total (l ++ [s]))
    (fresh : ∀ a ∈ feed ++ [last], a.IsFresh d.reassembler.ttl (l ++ [s])) :
    ∃ p answers, Life.whole? (l ++ [s]) total = some p ∧
      (d.processAll (feed ++ [last])).answers = answers ++ [p.message? decode] ∧
      answers.length = feed.length ∧
      (∀ x ∈ feed.zip answers, ∀ f,
        x.1.record.Brings d.reassembler.keying key total f → x.2 = none) ∧
      (∃ r : Record, r.CarriesAlone p) ∧
      ∀ a : Arrival, a.record.CarriesAlone p → (a.now.minus? d.reassembler.ttl).isSome →
        ∃ d', (d.process a.record a.now).result = .ok (d', p.message? decode) := by
  have all := fed.snoc brings
  have inRange := all.isOfTotal
  obtain ⟨first, head⟩ : ∃ first, (l ++ [s]).head? = some first := by
    cases l <;> exact ⟨_, rfl⟩
  obtain ⟨p, whole⟩ : ∃ p, Life.whole? (l ++ [s]) total = some p := by
    rw [Life.whole?, head]
    exact ⟨_, rfl⟩
  have held : d.Holds decode d.reassembler.keying d.reassembler.ttl key [] :=
    ⟨pure, rfl, rfl, Reassembler.groupsOf_eq_nil_of_get? absent⟩
  obtain ⟨mid, silent, held⟩ := held.run many fed inRange.of_append missing
    fun a mem => (fresh a (List.mem_append_left _ mem)).of_append
  obtain ⟨d', step, -⟩ := held.fragment many brings
    (fresh last (List.mem_append_right _ (List.mem_singleton.2 rfl))).of_append
  rw [List.nil_append, Life.message?_of_complete inRange complete, whole] at step
  obtain ⟨-, out⟩ := Decoder.processAll_append silent.result [last]
  rw [(Decoder.processAll_cons step []).2] at out
  refine ⟨p, _, whole, out, silent.length, silent.answers, all.exists_alone whole, ?_⟩
  intro a alone start
  obtain ⟨cutoff, start⟩ := Option.isSome_iff_exists.1 start
  exact Decoder.process_alone pure alone start

/-- A fragment comes again, with another chunk, and a line of noise comes between. -/
theorem processAll_fragments_again :
    let arrive (line : String) : Arrival := ⟨.ofBytes .epoch (Utf8.bytesOf line), .epoch⟩
    let fragment (number fillBits : Nat) (chunk : String) : Sentence :=
      ⟨.otherVessel, 2, number, some '1', some 'A', chunk, fillBits, .epoch⟩
    let feed := [arrive "!AIVDM,2,1,1,A,1P00,0*75", arrive "noise",
      arrive "!AIVDM,2,1,1,A,15Mw,0*2A"]
    let last := arrive "!AIVDM,2,2,1,A,kRPP,2*2C"
    let d := Decoder.new .minute .sequenceId Envelope.codec
    Life.whole? [fragment 1 0 "1P00", fragment 1 0 "15Mw", fragment 2 2 "kRPP"] 2 =
        some ⟨"15MwkRPP", 2, .epoch⟩ ∧
      ∃ answers, (d.processAll (feed ++ [last])).answers =
          answers ++ [Payload.message? Envelope.decode ⟨"15MwkRPP", 2, .epoch⟩] ∧
        answers.length = 3 := by
  intro arrive fragment feed last d
  have brings (line : String) (s : Sentence)
      (read : Sentence.read (Utf8.bytesOf line) .epoch = .ok (some s))
      (settings : Keying.sequenceId.key s = ⟨some '1', none⟩ ∧ s.total = 2) :
      (arrive line).record.Brings .sequenceId ⟨some '1', none⟩ 2 s :=
    ⟨Sentence.exists_denotes read, settings.1, settings.2⟩
  have old := brings "!AIVDM,2,1,1,A,1P00,0*75" (fragment 1 0 "1P00") rfl ⟨rfl, rfl⟩
  have new := brings "!AIVDM,2,1,1,A,15Mw,0*2A" (fragment 1 0 "15Mw") rfl ⟨rfl, rfl⟩
  have second := brings "!AIVDM,2,2,1,A,kRPP,2*2C" (fragment 2 2 "kRPP") rfl ⟨rfl, rfl⟩
  have noise : (arrive "noise").record.IsStray .sequenceId ⟨some '1', none⟩ := by
    intro s read
    have unread : Sentence.read (Utf8.bytesOf "noise") .epoch =
      .error (.unrecognized "noise") := rfl
    cases unread.symm.trans read
  have fresh : ∀ a ∈ feed ++ [last], a.IsFresh .minute
      [fragment 1 0 "1P00", fragment 1 0 "15Mw", fragment 2 2 "kRPP"] := by
    have young (line : String) : (arrive line).IsFresh .minute
        [fragment 1 0 "1P00", fragment 1 0 "15Mw", fragment 2 2 "kRPP"] := by
      refine ⟨⟨-60, 0, by decide, by decide, by decide, by decide⟩, rfl, fun first head => ?_⟩
      cases head
      decide
    simp [feed, last, young]
  have whole : Life.whole? [fragment 1 0 "1P00", fragment 1 0 "15Mw", fragment 2 2 "kRPP"] 2 =
      some ⟨"15MwkRPP", 2, .epoch⟩ := rfl
  have fed : Interleaved .sequenceId ⟨some '1', none⟩ 2 feed
      [fragment 1 0 "1P00", fragment 1 0 "15Mw"] :=
    .fragment old (.stray noise (.fragment new .nil))
  have missing : ¬Life.IsComplete 2 [fragment 1 0 "1P00", fragment 1 0 "15Mw"] := by
    intro complete
    obtain ⟨s, mem, number⟩ := complete 2 (by decide) (by decide)
    simp only [List.mem_cons, List.not_mem_nil, or_false] at mem
    rcases mem with rfl | rfl <;> cases number
  have complete : Life.IsComplete 2
      ([fragment 1 0 "1P00", fragment 1 0 "15Mw"] ++ [fragment 2 2 "kRPP"]) := by
    intro n low high
    obtain rfl | rfl : n = 1 ∨ n = 2 := by omega
    · exact ⟨fragment 1 0 "15Mw", by simp, rfl⟩
    · exact ⟨fragment 2 2 "kRPP", by simp, rfl⟩
  obtain ⟨p, answers, made, out, length, -⟩ := processAll_fragments (d := d)
    (fun _ _ => rfl) rfl (Nat.le_refl 2) fed second missing complete fresh
  cases whole.symm.trans made
  exact ⟨whole, answers, out, length⟩

end Decoder

end AisFeed
