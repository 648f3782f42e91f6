import AisFeed.Proofs.Capture.Tally
import AisFeed.Proofs.Decoder.Ledger
import AisFeed.Proofs.Pipeline.Decoding

/-!
# Statistics of captures

The numbers in a survey are exactly those of the messages that its decoder returned. The tally has
them (`Tally.Counts`), provided that every message names its type and its vessel, and a header
always does. What waits in the end is what the ledger of groups leaves.
-/

set_option autoImplicit false

namespace AisFeed

/-- The request to process a record when it arrives. -/
def Arrival.request (codec : Codec) (a : Arrival) : Request :=
  .process codec a.record a.now

/-! ## Messages of a decoder -/

namespace Decoder

variable {d last : Decoder} {feed : List Arrival}

theorem answer_of_decode {p : Payload} {next : Decoder} {m : Message}
    (step : (d.decode p).result = .ok (next, some m)) :
    d.codec p.text p.fillBits = .ok (.ok m.fields) := by
  unfold decode at step
  split at step
  · cases step
  · cases step
  · rename_i fields decoded
    cases step
    exact decoded

/-- The fields of a message are an answer of the codec. -/
theorem answer_of_process {r : Record} {now : Time} {next : Decoder} {m : Message}
    (step : (d.process r now).result = .ok (next, some m)) :
    ∃ text fillBits, d.codec text fillBits = .ok (.ok m.fields) := by
  unfold process at step
  split at step
  · cases step
  · cases step
  · rename_i mid payload events completed
    have answer := answer_of_decode step
    rw [complete_codec completed] at answer
    exact ⟨payload.text, payload.fillBits, answer⟩

theorem answer_of_mem_messages (run : (d.processAll feed).result = .ok last) {m : Message}
    (mem : m ∈ (d.processAll feed).messages) :
    ∃ text fillBits, d.codec text fillBits = .ok (.ok m.fields) := by
  induction feed generalizing d with
  | nil => cases mem
  | cons a rest ih =>
    obtain ⟨next, answer, step, later, split⟩ := processAll_cons_eq_ok run
    rw [split] at mem
    obtain mem | mem := List.mem_append.1 mem
    · rw [Option.mem_toList.1 mem] at step
      exact answer_of_process step
    · rw [← process_codec step]
      exact ih later mem

/-- A decoder counts its messages. -/
theorem decoded_processAll (run : (d.processAll feed).result = .ok last) :
    last.summary.decoded = d.summary.decoded + (d.processAll feed).messages.length := by
  induction feed generalizing d with
  | nil =>
    cases run
    rfl
  | cons a rest ih =>
    obtain ⟨next, answer, step, later, split⟩ := processAll_cons_eq_ok run
    have first := (booked_process step).messages
    rw [split, List.length_append, ih later, first, Nat.add_assoc]
    cases answer <;> rfl

/-- To process records is to serve a request for each of them. -/
theorem exists_serveAll_eq_ok (run : (d.processAll feed).result = .ok last) :
    ∃ log, d.serveAll (feed.map (Arrival.request d.codec)) = .ok (last, log) := by
  induction feed generalizing d with
  | nil =>
    cases run
    exact ⟨[], rfl⟩
  | cons a rest ih =>
    obtain ⟨next, answer, step, later, -⟩ := processAll_cons_eq_ok run
    obtain ⟨log, served⟩ := ih later
    rw [process_codec step] at served
    have first : d.serve (a.request d.codec) = .ok (next,
        ⟨a.request d.codec, .message answer, (d.process a.record a.now).events⟩) := by
      rw [Arrival.request, serve, step]
    exact ⟨_, serveAll_cons_eq_ok_iff.2 ⟨next, _, log, first, served, rfl⟩⟩

end Decoder

/-- A message with a header names its type and its vessel. -/
theorem Envelope.isNamed {text : String} {fillBits : Nat} {m : Message}
    (answer : Envelope.codec text fillBits = .ok (.ok m.fields)) : m.IsNamed := by
  have decoded : decode text fillBits = .ok m.fields := Except.ok.inj answer
  unfold decode at decoded
  split at decoded
  · cases decoded
  · split at decoded
    · cases decoded
    · rename_i bits _ _
      have fields : m.fields = fields text fillBits bits := (Except.ok.inj decoded).symm
      refine ⟨⟨numberOfBits (bits.take 6), ?_⟩, numberOfBits ((bits.drop 8).take 30), ?_⟩
      · rw [Message.type?, Message.get?, fields]
        rfl
      · rw [Message.mmsi?, Message.get?, fields]
        rfl

/-! ## Surveys -/

namespace Survey

/-- The numbers in a survey are those of some messages, and those of the groups of fragments of
which so many were opened. -/
structure IsExact (messages : List Message) (opened : Nat) (s : Survey) : Prop where
  vessels : s.vessels = (Message.senders messages).card
  ascending : (s.types.map Prod.fst).Pairwise (· < ·)
  types : ∀ type, type ∈ s.types.map Prod.fst ↔ ∃ m ∈ messages, m.type? = some type
  count : ∀ e ∈ s.types, e.2.count = (Message.ofType e.1 messages).length
  vesselsOf : ∀ e ∈ s.types, e.2.vessels = (Message.senders (Message.ofType e.1 messages)).card
  decoded : s.summary.decoded = messages.length
  /-- The types share all that was decoded. -/
  shared : (s.types.map fun e => e.2.count).sum = s.summary.decoded
  bounds : ∀ e ∈ s.types, 1 ≤ e.2.vessels ∧ e.2.vessels ≤ min e.2.count s.vessels
  /-- Every vessel is one of those of a type. -/
  covered : s.vessels ≤ (s.types.map fun e => e.2.vessels).sum
  incomplete : opened = s.summary.multipartCompleted + s.summary.evicted + s.incomplete

/-- How many groups of fragments the decoder of a survey opens. -/
def openings (bytes : List UInt8) (clock : Nat → Moment) : Nat :=
  decoder.openings ((arrivals (fileLines bytes) clock).map (Arrival.request Envelope.codec))

theorem isExact_of_processed (filename : String) {feed : List Arrival} {last : Decoder}
    (processed : (decoder.processAll feed).result = .ok last) :
    let messages := (decoder.processAll feed).messages
    let tally := Tally.ofMessages messages
    IsExact messages (decoder.openings (feed.map (Arrival.request Envelope.codec)))
      ⟨filename, last.summary, last.pending, tally.vessels.length, tally.types⟩ := by
  intro messages tally
  have named : ∀ m ∈ messages, m.IsNamed := by
    intro m mem
    obtain ⟨text, fillBits, answer⟩ := Decoder.answer_of_mem_messages processed mem
    exact Envelope.isNamed answer
  have counts : Tally.Counts messages tally := Tally.counts_ofMessages named
  have decoded : last.summary.decoded = messages.length := by
    rw [Decoder.decoded_processAll processed]
    exact Nat.zero_add _
  have groups : last.summary.multipartCompleted + last.summary.evicted + last.pending =
      decoder.openings (feed.map (Arrival.request Envelope.codec)) := by
    obtain ⟨log, served⟩ := Decoder.exists_serveAll_eq_ok processed
    obtain ⟨groups, -, -⟩ := Decoder.ledger_serveAll (d := decoder) List.nodup_nil served
    rw [groups]
    exact Nat.zero_add _
  refine ⟨counts.length_vessels, counts.ascending_types, ?_, fun e mem => counts.count_of_mem mem,
    fun e mem => counts.vessels_of_mem mem, decoded, ?_, fun e mem => counts.bounds mem named,
    counts.length_vessels_le named, groups.symm⟩
  · intro type
    rw [counts.mem_keys_iff, Message.mem_types_iff]
  · exact (counts.sum_count named).trans decoded.symm

/-- **The statistics of a capture are exact.** Whatever a file holds, its survey has the vessels
that sent its messages, each once, and the types that occur, in ascending order, each with the
number of its messages and of the vessels that sent one of them. So the types share all that was
decoded, each of them has at least one vessel and no more than messages or vessels in all, and no
vessel is in none of them. What is incomplete are the groups that were opened but neither completed
nor given up. And there is a survey, unless a record comes too close to the first time. -/
theorem ofBytes_exact (filename : String) (bytes : List UInt8) (clock : Nat → Moment) :
    ((∀ i < (fileLines bytes).length, ((clock i).now.minus? .minute).isSome) →
      ∃ s, (ofBytes filename bytes clock).result = .ok s) ∧
    ∀ s, (ofBytes filename bytes clock).result = .ok s →
      s.IsExact (decoder.processAll (arrivals (fileLines bytes) clock)).messages
        (openings bytes clock) := by
  constructor
  · intro inRange
    have timely : ∀ a ∈ arrivals (fileLines bytes) clock,
        (a.now.minus? decoder.reassembler.ttl).isSome := by
      intro a mem
      obtain ⟨⟨line, i⟩, here, rfl⟩ := List.mem_map.1 mem
      exact inRange i (List.mem_zipIdx' here).1
    obtain ⟨last, processed⟩ := Decoder.exists_processAll_of_calm Envelope.isCalm_codec timely
    exact ⟨_, ofBytes_of_processed filename processed⟩
  · intro s surveyed
    cases processed : (decoder.processAll (arrivals (fileLines bytes) clock)).result with
    | error crash =>
      rw [ofBytes, processed] at surveyed
      cases surveyed
    | ok last =>
      rw [ofBytes_of_processed filename processed] at surveyed
      cases surveyed
      exact isExact_of_processed filename processed

/-- One of two vessels sends two types, and a group waits for its second fragment. -/
theorem ofBytes_exact_two_vessels :
    let bytes := Text.Utf8.bytesOf ("!AIVDM,1,1,,A,35MwkRPP,2*21\n" ++
      "!AIVDM,1,1,,A,15MwkRPP,2*23\r\n!AIVDM,2,1,1,A,AB,0*17\n\n" ++
      "!AIVDM,1,1,,A,15MwkSPP,2*22\n!AIVDM,1,1,,A,15MwkRPP,2*23")
    let clock : Nat → Moment := fun _ => ⟨.epoch, .epoch⟩
    ∃ s, (ofBytes "capture" bytes clock).result = .ok s ∧
      s.vessels = 2 ∧ s.types = [(1, ⟨3, 2⟩), (3, ⟨1, 1⟩)] ∧ s.incomplete = 1 ∧
      s.IsExact (decoder.processAll (arrivals (fileLines bytes) clock)).messages
        (openings bytes clock) := by
  intro bytes clock
  obtain ⟨total, exact⟩ := ofBytes_exact "capture" bytes clock
  obtain ⟨s, surveyed⟩ := total fun _ _ => rfl
  have evaluated : (ofBytes "capture" bytes clock).result.map
      (fun s => (s.vessels, s.types, s.incomplete)) = .ok (2, [(1, ⟨3, 2⟩), (3, ⟨1, 1⟩)], 1) := by
    decide +kernel
  rw [surveyed] at evaluated
  have numbers : (s.vessels, s.types, s.incomplete) = (2, [(1, ⟨3, 2⟩), (3, ⟨1, 1⟩)], 1) :=
    Except.ok.inj evaluated
  simp only [Prod.mk.injEq] at numbers
  obtain ⟨vessels, types, incomplete⟩ := numbers
  exact ⟨s, surveyed, vessels, types, incomplete, exact s surveyed⟩

end Survey

end AisFeed
