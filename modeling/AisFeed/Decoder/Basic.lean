import AisFeed.Codec
import AisFeed.Decoder.Summary
import AisFeed.Reassembly.Basic
import AisFeed.Record
import AisFeed.Sentence.Reader

/-!
# From records to messages

A decoder reads the sentence of a record, puts the fragments of messages together and decodes
the payloads that are complete. Whatever fails is counted and told in an event, and nothing but
decoded messages comes out.
-/

set_option autoImplicit false

namespace AisFeed

/-- The state of a decoder. -/
structure Decoder where
  reassembler : Reassembler
  codec : Codec
  summary : Summary

/-- What came of a step that may crash: the events before its end, and its result. -/
structure Outcome (α : Type) where
  events : List Event
  result : Except Crash α

namespace Summary

/-- One more record that was not accepted. -/
def reject (s : Summary) : Error → Summary
  | .checksumMismatch .. => { s with checksumMismatches := s.checksumMismatches + 1 }
  | .malformed _ => { s with malformed := s.malformed + 1 }
  | _ => { s with unrecognized := s.unrecognized + 1 }

/-- One more payload that was complete. -/
def complete (s : Summary) (isMultipart : Bool) : Summary :=
  if isMultipart then { s with multipartCompleted := s.multipartCompleted + 1 }
  else { s with singleFragment := s.singleFragment + 1 }

end Summary

namespace Decoder

/-- A decoder to which nothing has happened. -/
def new (ttl : Span) (keying : Keying) (codec : Codec) : Decoder :=
  ⟨.new ttl keying, codec, .zero⟩

/-- Put a sentence to its message, and count what comes of it. -/
def join (d : Decoder) (s : Sentence) (now : Time) :
    Except Crash (Decoder × Option Payload × List Event) :=
  match d.reassembler.push s now with
  | .error crash => .error crash
  | .ok (reassembler, payload, events) =>
    let summary :=
      { d.summary with
        sentences := d.summary.sentences + 1
        evicted := d.summary.evicted + events.length }
    let summary := if payload.isSome then summary.complete (1 < s.total) else summary
    .ok ({ d with reassembler, summary }, payload, events)

/-- Read a record and put it to its message, without decoding it. -/
def complete (d : Decoder) (r : Record) (now : Time) :
    Except Crash (Decoder × Option Payload × List Event) :=
  let summary := { d.summary with records := d.summary.records + 1 }
  match Sentence.read r.bytes r.receivedAt with
  | .ok none => .ok ({ d with summary := { summary with ignored := summary.ignored + 1 } }, none, [])
  | .error error =>
    .ok ({ d with summary := summary.reject error }, none,
      [.rejected error r.address (lineText r.bytes)])
  | .ok (some sentence) => { d with summary }.join sentence now

/-- Decode a complete payload. -/
def decode (d : Decoder) (p : Payload) : Outcome (Decoder × Option Message) :=
  match d.codec p.text p.fillBits with
  | .error crash => ⟨[], .error crash⟩
  | .ok (.error error) =>
    let summary := { d.summary with decodeFailures := d.summary.decodeFailures + 1 }
    ⟨[.undecoded error p.text], .ok ({ d with summary }, none)⟩
  | .ok (.ok fields) =>
    let summary := { d.summary with decoded := d.summary.decoded + 1 }
    ⟨[], .ok ({ d with summary }, some ⟨p.receivedAt, fields⟩)⟩

/-- Read a record, put it to its message, and decode the message if it is complete. -/
def process (d : Decoder) (r : Record) (now : Time) : Outcome (Decoder × Option Message) :=
  match d.complete r now with
  | .error crash => ⟨[], .error crash⟩
  | .ok (d, none, events) => ⟨events, .ok (d, none)⟩
  | .ok (d, some payload, events) =>
    let out := d.decode payload
    ⟨events ++ out.events, out.result⟩

/-- Give up groups of fragments without a record. -/
def expire (d : Decoder) (now : Time) : Except Crash (Decoder × List Event) :=
  match d.reassembler.expire now with
  | .error crash => .error crash
  | .ok (reassembler, events) =>
    let summary := { d.summary with evicted := d.summary.evicted + events.length }
    .ok ({ d with reassembler, summary }, events)

/-- How many messages wait for fragments. -/
def pending (d : Decoder) : Nat :=
  d.reassembler.groups.length

end Decoder

end AisFeed
