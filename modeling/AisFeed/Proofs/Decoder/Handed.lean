import AisFeed.Proofs.Decoder.Attempts
import AisFeed.Proofs.Reassembly.Gaps

/-!
# What a codec is handed

A codec is asked about the payload that a record completes, and about nothing else: codecs that
agree on it cannot be told apart (`process_congr`). What a decoder hands to its codec is what its
reassembler completes, so all that is known of completed messages is known of what is decoded
(`completed_made_of_latest`), a gap included (`completed_leaves_gap`).
-/

set_option autoImplicit false

namespace AisFeed

open Text

/-- What requests push has been accepted. -/
theorem Request.isAccepted_of_call? {request : Request} {s : Sentence} {now : Time}
    (call : request.call? = some (.push s now)) : s.IsAccepted := by
  cases request with
  | process codec r t | complete r t =>
    obtain ⟨s', brought, same⟩ := Option.map_eq_some_iff.1 call
    cases same
    exact ⟨r.bytes, r.receivedAt, Record.sentence?_eq_some_iff.1 brought⟩
  | expire t => cases call

namespace Decoder

/-- The payload that is handed to a codec when a record is processed, if one is. -/
def handed? (d : Decoder) (r : Record) (now : Time) : Option Payload :=
  match d.complete r now with
  | .error _ => none
  | .ok (_, payload, _) => payload

variable {d : Decoder} {r : Record} {now : Time}

theorem complete_withCodec (d : Decoder) (codec : Codec) (r : Record) (now : Time) :
    { d with codec }.complete r now = match d.complete r now with
      | .error crash => .error crash
      | .ok (d', payload, events) => .ok ({ d' with codec }, payload, events) := by
  rw [complete_alone { d with codec } d.codec, complete_alone d d.codec]
  cases complete ⟨d.reassembler, d.codec, .zero⟩ r now <;> rfl

/-- What a decoder has answered, with a codec put back into it. -/
def restored (codec : Codec) (answered : Decoder × Option Message) : Decoder × Option Message :=
  ({ answered.1 with codec }, answered.2)

/-- What comes of a record hangs on what the codec says of the payload that it is handed. -/
theorem process_congr {codec codec' : Codec}
    (agree : ∀ p, d.handed? r now = some p →
      codec p.text p.fillBits = codec' p.text p.fillBits) :
    ({ d with codec }.process r now).events = ({ d with codec := codec' }.process r now).events ∧
      ({ d with codec }.process r now).result.map (restored d.codec) =
        ({ d with codec := codec' }.process r now).result.map (restored d.codec) := by
  unfold handed? at agree
  rw [process, process, complete_withCodec d codec, complete_withCodec d codec']
  cases completed : d.complete r now with
  | error crash => exact ⟨rfl, rfl⟩
  | ok result =>
    obtain ⟨mid, payload, events⟩ := result
    cases payload with
    | none => exact ⟨rfl, rfl⟩
    | some p =>
      rw [completed] at agree
      dsimp only [decode]
      rw [agree p rfl]
      cases codec' p.text p.fillBits with
      | error crash => exact ⟨rfl, rfl⟩
      | ok decoded => cases decoded <;> exact ⟨rfl, rfl⟩

/-- What is handed to a codec is what the reassembler makes of the sentence in the record. -/
theorem exists_attempt_of_handed? {p : Payload} (handed : d.handed? r now = some p) :
    ∃ s events, r.sentence? = some s ∧
      (d.reassembler.attempt (.push s now)).2 = .ok ⟨.push s now, some p, events⟩ := by
  unfold handed? complete at handed
  cases read : Sentence.read r.bytes r.receivedAt with
  | error error =>
    rw [read] at handed
    cases handed
  | ok sentence =>
    rw [read] at handed
    cases sentence with
    | none => cases handed
    | some s =>
      dsimp only at handed
      rw [join_eq] at handed
      cases start : now.minus? d.reassembler.ttl with
      | none =>
        rw [start] at handed
        cases handed
      | some cutoff =>
        rw [start] at handed
        dsimp only at handed
        refine ⟨s, (d.reassembler.sweep cutoff).2, Record.sentence?_eq_some_iff.2 read, ?_⟩
        rw [Reassembler.attempt_of_range (.push s now) start]
        dsimp only [Reassembler.settle]
        rw [handed]

end Decoder

/-- **What completed messages are made of.** Whatever accepted sentences are pushed to a
reassembler, and whichever of the calls crash: the text that a fragment completes joins the latest
fragments of its group, one for each number that has come, and at least as many as it declares. They
are those with the numbers from 1 to its total exactly if none with a number beyond that has come,
as when none has declared more. The same holds of every message of several fragments that a decoder
hands to a codec, whatever it has been asked before, and a codec is asked of nothing else. -/
theorem completed_made_of_latest (ttl : Span) (keying : Keying) :
    (∀ calls : List Call, (∀ s now, .push s now ∈ calls → s.IsAccepted) →
      ∀ before s now p events after, 1 < s.total →
        ((Reassembler.new ttl keying).attemptAll calls).2 =
          before ++ .ok ⟨.push s now, some p, events⟩ :: after →
        (Life.upTo keying (before.filterMap Except.toOption) ⟨.push s now, some p, events⟩ s).Makes
          s.total p) ∧
    (∀ codec requests r now p,
      ((Decoder.new ttl keying codec).attemptAll requests).1.handed? r now = some p →
      ∃ s events, r.sentence? = some s ∧ (1 < s.total →
        (Life.upTo keying
          (((Reassembler.new ttl keying).attemptAll
            (requests.filterMap Request.call?)).2.filterMap Except.toOption)
          ⟨.push s now, some p, events⟩ s).Makes s.total p)) ∧
    ∀ (d : Decoder) (r : Record) (now : Time) (codec codec' : Codec),
      (∀ p, d.handed? r now = some p → codec p.text p.fillBits = codec' p.text p.fillBits) →
      ({ d with codec }.process r now).events = ({ d with codec := codec' }.process r now).events ∧
        ({ d with codec }.process r now).result.map (Decoder.restored d.codec) =
          ({ d with codec := codec' }.process r now).result.map (Decoder.restored d.codec) := by
  refine ⟨?completed, ?handed, fun d r now codec codec' => Decoder.process_congr⟩
  case completed =>
    intro calls accepted before s now p events after multipart completed
    exact Reassembler.makes_of_attemptAll accepted multipart completed
  case handed =>
    intro codec requests r now p handed
    obtain ⟨s, events, brought, made⟩ := Decoder.exists_attempt_of_handed? handed
    refine ⟨s, events, brought, fun multipart => ?_⟩
    rw [Decoder.attemptAll_reassembler] at made
    have asked : ∀ f t, Call.push f t ∈ requests.filterMap Request.call? ++ [.push s now] →
        f.IsAccepted := by
      intro f t mem
      rcases List.mem_append.1 mem with earlier | last
      · obtain ⟨request, -, call⟩ := List.mem_filterMap.1 earlier
        exact Request.isAccepted_of_call? call
      · cases List.mem_singleton.1 last
        exact ⟨r.bytes, r.receivedAt, Record.sentence?_eq_some_iff.1 brought⟩
    apply Reassembler.makes_of_attemptAll asked multipart
    rw [Reassembler.attemptAll_concat_outcomes]
    exact congrArg _ (congrArg (List.cons · []) made)

/-- The last fragment of three stands in for the second of two, which has not come, and the message
with the gap is handed to the codec. -/
theorem completed_leaves_gap :
    let longer : Sentence := ⟨.otherVessel, 3, 3, some '1', some 'A', "ZZ", 0, .epoch⟩
    let shorter : Sentence := ⟨.otherVessel, 2, 1, some '1', some 'A', "AB", 0, .epoch⟩
    let record (line : String) : Record := .ofBytes .epoch (Utf8.bytesOf line)
    longer.IsAccepted ∧ shorter.IsAccepted ∧
      ((Reassembler.new .minute .sequenceIdAndChannel).attemptAll
          [.push longer .epoch, .push shorter .epoch]).2 =
        [.ok ⟨.push longer .epoch, none, []⟩,
          .ok ⟨.push shorter .epoch, some ⟨"ABZZ", 0, .epoch⟩, []⟩] ∧
      ((Decoder.new .minute .sequenceIdAndChannel Envelope.codec).attemptAll
          [.complete (record "!AIVDM,3,3,1,A,ZZ,0*17") .epoch]).1.handed?
        (record "!AIVDM,2,1,1,A,AB,0*17") .epoch = some ⟨"ABZZ", 0, .epoch⟩ ∧
      ¬∃ parts : List Sentence, (∀ f ∈ parts, f = longer ∨ f = shorter) ∧
        parts.map Sentence.number = List.range' 1 2 ∧
        String.join (parts.map Sentence.payload) = "ABZZ" := by
  intro longer shorter record
  refine ⟨?longer, ?shorter, rfl, ?handed, ?gap⟩
  case longer => exact ⟨Utf8.bytesOf "!AIVDM,3,3,1,A,ZZ,0*17", .epoch, rfl⟩
  case shorter => exact ⟨Utf8.bytesOf "!AIVDM,2,1,1,A,AB,0*17", .epoch, rfl⟩
  case handed => decide +kernel
  case gap =>
    rintro ⟨parts, pushed, numbers, -⟩
    have second : 2 ∈ parts.map Sentence.number := by
      rw [numbers]
      decide
    obtain ⟨f, mem, number⟩ := List.mem_map.1 second
    rcases pushed f mem with rfl | rfl
    · exact absurd number (by decide)
    · exact absurd number (by decide)

/-- The same two fragments, once pushed and once in records. The message is made of both, and so not
of the numbers up to its total. -/
theorem completed_made_of_latest_stray :
    let longer : Sentence := ⟨.otherVessel, 3, 3, some '1', some 'A', "ZZ", 0, .epoch⟩
    let shorter : Sentence := ⟨.otherVessel, 2, 1, some '1', some 'A', "AB", 0, .epoch⟩
    let opened : Exchange := ⟨.push longer .epoch, none, []⟩
    let completed : Exchange := ⟨.push shorter .epoch, some ⟨"ABZZ", 0, .epoch⟩, []⟩
    let l := Life.upTo .sequenceIdAndChannel [opened] completed shorter
    let record (line : String) : Record := .ofBytes .epoch (Utf8.bytesOf line)
    let d := ((Decoder.new .minute .sequenceIdAndChannel Envelope.codec).attemptAll
      [.complete (record "!AIVDM,3,3,1,A,ZZ,0*17") .epoch]).1
    ((Reassembler.new .minute .sequenceIdAndChannel).attemptAll [opened.call, completed.call]).2 =
        [.ok opened, .ok completed] ∧
      l.Makes 2 ⟨"ABZZ", 0, .epoch⟩ ∧ l.parts = [shorter, longer] ∧
      l.parts.map Sentence.number ≠ List.range' 1 2 ∧
      d.handed? (record "!AIVDM,2,1,1,A,AB,0*17") .epoch = some ⟨"ABZZ", 0, .epoch⟩ ∧
      ∃ events, (Life.upTo .sequenceIdAndChannel [opened]
        ⟨.push shorter .epoch, some ⟨"ABZZ", 0, .epoch⟩, events⟩ shorter).Makes 2
          ⟨"ABZZ", 0, .epoch⟩ := by
  intro longer shorter opened completed l record d
  have accepted : ∀ s now, Call.push s now ∈ [opened.call, completed.call] → s.IsAccepted := by
    intro s now mem
    simp only [List.mem_cons, List.not_mem_nil, or_false, opened, completed,
      Call.push.injEq] at mem
    rcases mem with ⟨rfl, -⟩ | ⟨rfl, -⟩
    · exact ⟨Utf8.bytesOf "!AIVDM,3,3,1,A,ZZ,0*17", .epoch, rfl⟩
    · exact ⟨Utf8.bytesOf "!AIVDM,2,1,1,A,AB,0*17", .epoch, rfl⟩
  have run : ((Reassembler.new .minute .sequenceIdAndChannel).attemptAll
      [opened.call, completed.call]).2 = [.ok opened] ++ .ok completed :: [] := rfl
  have handed : d.handed? (record "!AIVDM,2,1,1,A,AB,0*17") .epoch =
      some ⟨"ABZZ", 0, .epoch⟩ := by decide +kernel
  obtain ⟨pushed, read, -⟩ := completed_made_of_latest .minute .sequenceIdAndChannel
  have made : l.Makes 2 ⟨"ABZZ", 0, .epoch⟩ :=
    pushed _ accepted _ _ _ _ _ _ (by decide) run
  have beyond : ¬∀ f ∈ l, f.number ≤ 2 := by decide
  obtain ⟨s, events, brought, makes⟩ := read _ _ _ _ _ handed
  have same : some shorter = some s := brought
  cases same
  exact ⟨run, made, by decide, mt made.whole_iff.1 beyond, handed, events, makes (by decide)⟩

end AisFeed
