import AisFeed.Decoder.Run
import AisFeed.Reassembly.InPlace

/-!
# Requests in place

A decoder is changed in place: it counts a record before it reads it, and a sentence before its
reassembler takes it. So a request that crashes leaves behind what was done until then, and
`Decoder.attemptAll` goes on with that.
-/

set_option autoImplicit false

namespace AisFeed

namespace Decoder

/-- Work on a decoder in place, which may crash. -/
abbrev Work := EStateM Crash Decoder

/-- Change the summary. -/
def tally (change : Summary → Summary) : Work Unit :=
  modify fun d => { d with summary := change d.summary }

/-- Work on the reassembler, of which a crash leaves what was done until then. -/
def withReassembler {α : Type} (work : Reassembler.Work α) : Work α := fun d =>
  match work d.reassembler with
  | .ok a reassembler => .ok a { d with reassembler }
  | .error crash reassembler => .error crash { d with reassembler }

/-- Put a sentence to its message, and count what comes of it. -/
def joinInPlace (s : Sentence) (now : Time) : Work (Option Payload × List Event) := do
  tally fun summary => { summary with sentences := summary.sentences + 1 }
  let (payload, events) ← withReassembler (Reassembler.pushInPlace s now)
  tally fun summary => { summary with evicted := summary.evicted + events.length }
  if payload.isSome then tally (·.complete (1 < s.total))
  return (payload, events)

/-- Read a record and put it to its message, without decoding it. -/
def completeInPlace (r : Record) (now : Time) : Work (Option Payload × List Event) := do
  tally fun summary => { summary with records := summary.records + 1 }
  match Sentence.read r.bytes r.receivedAt with
  | .ok none =>
    tally fun summary => { summary with ignored := summary.ignored + 1 }
    return (none, [])
  | .error error =>
    tally (·.reject error)
    return (none, [.rejected error r.address (lineText r.bytes)])
  | .ok (some sentence) => joinInPlace sentence now

/-- Decode a complete payload. -/
def decodeInPlace (p : Payload) : Work (Option Message × List Event) := do
  let d ← get
  match d.codec p.text p.fillBits with
  | .error crash => throw crash
  | .ok (.error error) =>
    tally fun summary => { summary with decodeFailures := summary.decodeFailures + 1 }
    return (none, [.undecoded error p.text])
  | .ok (.ok fields) =>
    tally fun summary => { summary with decoded := summary.decoded + 1 }
    return (some ⟨p.receivedAt, fields⟩, [])

/-- Read a record, put it to its message, and decode the message if it is complete. -/
def processInPlace (r : Record) (now : Time) : Work (Option Message × List Event) := do
  let (payload, events) ← completeInPlace r now
  match payload with
  | none => return (none, events)
  | some payload =>
    let (message, more) ← decodeInPlace payload
    return (message, events ++ more)

/-- Give up groups of fragments without a record. -/
def expireInPlace (now : Time) : Work (List Event) := do
  let events ← withReassembler (Reassembler.expireInPlace now)
  tally fun summary => { summary with evicted := summary.evicted + events.length }
  return events

end Decoder

/-- A request as work on the decoder. -/
def Request.work : Request → Decoder.Work Service
  | process codec r now => do
    modify fun d => { d with codec }
    let (message, events) ← Decoder.processInPlace r now
    return ⟨.process codec r now, .message message, events⟩
  | complete r now => do
    let (payload, events) ← Decoder.completeInPlace r now
    return ⟨.complete r now, .payload payload, events⟩
  | expire now => do
    let events ← Decoder.expireInPlace now
    return ⟨.expire now, .expired events.length, events⟩

namespace Decoder

/-- Answer one request: the decoder after it, and what came of it unless it crashed. -/
def attempt (d : Decoder) (request : Request) : Decoder × Except Crash Service :=
  match request.work.run d with
  | .ok service d => (d, .ok service)
  | .error crash d => (d, .error crash)

/-- Answer requests one after the other, also after one that crashes. -/
def attemptAll (d : Decoder) : List Request → Decoder × List (Except Crash Service)
  | [] => (d, [])
  | request :: rest =>
    let (d, outcome) := d.attempt request
    let (d, outcomes) := d.attemptAll rest
    (d, outcome :: outcomes)

end Decoder

end AisFeed
