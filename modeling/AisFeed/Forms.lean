import AisFeed.Decoder.Summary
import AisFeed.Json.Form
import AisFeed.Number.Bounds
import AisFeed.Queue.Basic
import AisFeed.Record
import AisFeed.Source.Settings

/-!
# The written forms of the types of a feed
-/

set_option autoImplicit false

namespace AisFeed

open Json

/-- A character as a text of one. -/
def Json.ofChar (c : Char) : Json :=
  .string (String.singleton c)

/-- A time as text. -/
def Time.toJson (t : Time) : Json :=
  .string t.rfc3339

/-- The time of a tree. -/
def Time.ofTree? (t : Tree) : Option Time :=
  t.text?.bind Time.ofText?

namespace Keying

/-- The name of a keying. -/
def name : Keying → String
  | sequenceIdAndChannel => "SequenceIdAndChannel"
  | sequenceId => "SequenceId"

/-- A keying is written by its name. -/
def form : Form Keying where
  write k := .string k.name
  read? := Tree.oneOf? ([sequenceIdAndChannel, sequenceId].map fun k => (k.name, k))

end Keying

namespace Talker

/-- The name of a talker. -/
def name : Talker → String
  | otherVessel => "Aivdm"
  | ownVessel => "Aivdo"

/-- A talker is written by its name. -/
def form : Form Talker where
  write t := .string t.name
  read? := Tree.oneOf? ([otherVessel, ownVessel].map fun t => (t.name, t))

end Talker

namespace Parity

/-- The name of a parity. -/
def name : Parity → String
  | none => "None"
  | odd => "Odd"
  | even => "Even"

/-- A parity is written by its name. -/
def form : Form Parity where
  write p := .string p.name
  read? := Tree.oneOf? ([none, odd, even].map fun p => (p.name, p))

end Parity

namespace QueuePolicy

/-- A policy without a capacity is written by its name, one with a capacity as an object. -/
def toJson : QueuePolicy → Json
  | unbounded => .string "Unbounded"
  | dropOldest n => .object [("DropOldest", .ofNat n)]

/-- The policy of a tree. -/
def ofTree? (t : Tree) : Option QueuePolicy :=
  match t with
  | .object [(some "DropOldest", n)] => (n.natAtMost? countBound).map dropOldest
  | t => t.oneOf? [("Unbounded", unbounded)]

/-- The form of a policy. -/
def form : Form QueuePolicy where
  write := toJson
  read? := ofTree?

end QueuePolicy

namespace Summary

/-- The names of the counts. -/
def names : List String :=
  ["records", "sentences", "ignored", "unrecognized", "checksum_mismatches", "malformed",
   "single_fragment", "multipart_completed", "evicted", "decoded", "decode_failures"]

/-- The counts in the order of their names. -/
def counts (s : Summary) : List Nat :=
  [s.records, s.sentences, s.ignored, s.unrecognized, s.checksumMismatches, s.malformed,
   s.singleFragment, s.multipartCompleted, s.evicted, s.decoded, s.decodeFailures]

/-- The summary with these counts. -/
def ofCounts? : List Nat → Option Summary
  | [a, b, c, d, e, f, g, h, i, j, k] => some ⟨a, b, c, d, e, f, g, h, i, j, k⟩
  | _ => none

/-- A summary is written as its counts by their names. -/
def form : Form Summary where
  write s := .object (names.zip (s.counts.map .ofNat))
  read? t := do
    let fields ← t.fields? names
    let counts ← fields.mapM fun f => f.bind (Tree.natAtMost? countBound)
    ofCounts? counts

end Summary

namespace Sentence

/-- A sentence as an object. -/
def toJson (s : Sentence) : Json :=
  .object
    [("talker", Talker.form.write s.talker),
     ("total_fragments", .ofNat s.total),
     ("fragment_number", .ofNat s.number),
     ("sequence_id", .ofOption .ofChar s.sequenceId),
     ("channel", .ofOption .ofChar s.channel),
     ("payload", .string s.payload),
     ("fill_bits", .ofNat s.fillBits),
     ("received_at", s.receivedAt.toJson)]

/-- The sentence of a tree. -/
def ofTree? (t : Tree) : Option Sentence := do
  match ← t.fields? ["talker", "total_fragments", "fragment_number", "sequence_id", "channel",
      "payload", "fill_bits", "received_at"] with
  | [talker, total, number, sequenceId, channel, payload, fillBits, receivedAt] =>
    some
      { talker := ← talker.bind Talker.form.read?
        total := ← total.bind (Tree.natAtMost? byteBound)
        number := ← number.bind (Tree.natAtMost? byteBound)
        sequenceId := ← Tree.optional? Tree.char? sequenceId
        channel := ← Tree.optional? Tree.char? channel
        payload := ← payload.bind Tree.text?
        fillBits := ← fillBits.bind (Tree.natAtMost? byteBound)
        receivedAt := ← receivedAt.bind Time.ofTree? }
  | _ => none

/-- The form of a sentence. -/
def form : Form Sentence where
  write := toJson
  read? := ofTree?

end Sentence

namespace Payload

/-- A payload as an object. -/
def toJson (p : Payload) : Json :=
  .object
    [("armored_payload", .string p.text),
     ("fill_bits", .ofNat p.fillBits),
     ("received_at", p.receivedAt.toJson)]

/-- The payload of a tree. -/
def ofTree? (t : Tree) : Option Payload := do
  match ← t.fields? ["armored_payload", "fill_bits", "received_at"] with
  | [text, fillBits, receivedAt] =>
    some
      { text := ← text.bind Tree.text?
        fillBits := ← fillBits.bind (Tree.natAtMost? byteBound)
        receivedAt := ← receivedAt.bind Time.ofTree? }
  | _ => none

/-- The form of a payload. -/
def form : Form Payload where
  write := toJson
  read? := ofTree?

end Payload

namespace Record

/-- The members of a record besides its time; the bytes are numbers. -/
def members (r : Record) : List (String × Json) :=
  [("source_address", .ofOption .string r.address),
   ("source_port", .ofOption .ofNat r.port),
   ("bytes", .array (r.bytes.map fun b => .ofNat b.toNat))]

/-- A record as an object. -/
def toJson (r : Record) : Json :=
  .object (("received_at", r.receivedAt.toJson) :: r.members)

/-- The record of a tree. -/
def ofTree? (t : Tree) : Option Record := do
  match ← t.fields? ["received_at", "source_address", "source_port", "bytes"] with
  | [receivedAt, address, port, bytes] =>
    some
      { receivedAt := ← receivedAt.bind Time.ofTree?
        address := ← Tree.optional? Tree.text? address
        port := ← Tree.optional? (Tree.natAtMost? portBound) port
        bytes := (← bytes.bind (Tree.list? (Tree.natAtMost? byteBound))).map UInt8.ofNat }
  | _ => none

/-- The form of a record. -/
def form : Form Record where
  write := toJson
  read? := ofTree?

end Record

namespace Wait

/-- A wait as an object. -/
def toJson (w : Wait) : Json :=
  .object [("secs", .ofNat w.seconds), ("nanos", .ofNat w.nanos)]

/-- The wait of a tree, which has no other members. -/
def ofTree? (t : Tree) : Option Wait := do
  match ← t.onlyFields? ["secs", "nanos"] with
  | [seconds, nanos] =>
    let seconds ← seconds.bind (Tree.natAtMost? countBound)
    let nanos ← nanos.bind (Tree.natAtMost? wordBound)
    carried? seconds nanos
  | _ => none

end Wait

namespace SerialSettings

/-- Settings as an object. -/
def toJson (s : SerialSettings) : Json :=
  .object
    [("device", .string s.device),
     ("baud_rate", .ofNat s.baudRate),
     ("data_bits", .ofNat s.dataBits),
     ("parity", Parity.form.write s.parity),
     ("stop_bits", .ofNat s.stopBits),
     ("read_timeout", s.readTimeout.toJson)]

/-- The settings of a tree. -/
def ofTree? (t : Tree) : Option SerialSettings := do
  match ← t.fields? ["device", "baud_rate", "data_bits", "parity", "stop_bits",
      "read_timeout"] with
  | [device, baudRate, dataBits, parity, stopBits, readTimeout] =>
    some
      { device := ← device.bind Tree.text?
        baudRate := ← baudRate.bind (Tree.natAtMost? wordBound)
        dataBits := ← dataBits.bind (Tree.natAtMost? byteBound)
        parity := ← parity.bind Parity.form.read?
        stopBits := ← stopBits.bind (Tree.natAtMost? byteBound)
        readTimeout := ← readTimeout.bind Wait.ofTree? }
  | _ => none

/-- The form of settings. -/
def form : Form SerialSettings where
  write := toJson
  read? := ofTree?

end SerialSettings

end AisFeed
