import AisFeed.Decoder.Basic

/-!
# Runs of a decoder

What comes of records that are processed one after the other, each at its own time
(`Decoder.processAll`), and of requests of all kinds (`Decoder.serveAll`).
-/

set_option autoImplicit false

namespace AisFeed

/-- A record and the time at which it is processed. -/
structure Arrival where
  record : Record
  now : Time
  deriving DecidableEq, Repr

/-- What has come of some records. -/
structure DecoderHistory where
  /-- The decoder after them, unless it crashed. -/
  result : Except Crash Decoder
  /-- What came of each record before a crash. -/
  answers : List (Option Message)
  events : List Event

namespace DecoderHistory

/-- A history with an answer and events before it. -/
def after (h : DecoderHistory) (answer : Option Message) (events : List Event) : DecoderHistory :=
  { h with answers := answer :: h.answers, events := events ++ h.events }

/-- The messages that were decoded. -/
def messages (h : DecoderHistory) : List Message :=
  h.answers.filterMap id

end DecoderHistory

/-- Process records one after the other, up to a crash. -/
def Decoder.processAll (d : Decoder) : List Arrival → DecoderHistory
  | [] => ⟨.ok d, [], []⟩
  | a :: rest =>
    let out := d.process a.record a.now
    match out.result with
    | .error crash => ⟨.error crash, [], out.events⟩
    | .ok (d, answer) => (processAll d rest).after answer out.events

/-- What a decoder is asked to do. What a codec makes of a payload may change from one request to
the next, so a request to decode comes with the codec as it is then. -/
inductive Request where
  | process (codec : Codec) (record : Record) (now : Time)
  | complete (record : Record) (now : Time)
  | expire (now : Time)

/-- Does a request bring a record? -/
def Request.bringsRecord : Request → Bool
  | process .. | complete .. => true
  | expire _ => false

/-- What a request is answered. -/
inductive Answer where
  | message (message : Option Message)
  | payload (payload : Option Payload)
  | expired (count : Nat)

namespace Answer

/-- Is the answer a decoded message? -/
def isMessage : Answer → Bool
  | message m => m.isSome
  | payload _ | expired _ => false

/-- Is the answer a complete payload? -/
def isPayload : Answer → Bool
  | payload p => p.isSome
  | message _ | expired _ => false

end Answer

/-- A request, its answer, and the events before it. -/
structure Service where
  request : Request
  answer : Answer
  events : List Event

namespace Decoder

/-- Answer one request. -/
def serve (d : Decoder) : Request → Except Crash (Decoder × Service)
  | .process codec r now =>
    let out := { d with codec }.process r now
    match out.result with
    | .error crash => .error crash
    | .ok (d, message) => .ok (d, ⟨.process codec r now, .message message, out.events⟩)
  | .complete r now =>
    match d.complete r now with
    | .error crash => .error crash
    | .ok (d, payload, events) => .ok (d, ⟨.complete r now, .payload payload, events⟩)
  | .expire now =>
    match d.expire now with
    | .error crash => .error crash
    | .ok (d, events) => .ok (d, ⟨.expire now, .expired events.length, events⟩)

/-- Answer requests one after the other, unless one of them crashes. -/
def serveAll (d : Decoder) : List Request → Except Crash (Decoder × List Service)
  | [] => .ok (d, [])
  | request :: rest =>
    match d.serve request with
    | .error crash => .error crash
    | .ok (d, service) =>
      match d.serveAll rest with
      | .error crash => .error crash
      | .ok (d, services) => .ok (d, service :: services)

end Decoder

end AisFeed
