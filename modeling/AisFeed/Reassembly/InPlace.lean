import AisFeed.Reassembly.Run

/-!
# Calls in place

A reassembler is changed in place, so what a call that crashes leaves behind is what it has made
of the reassembler until then. `Reassembler.attempt` makes a call in this way. Whoever catches the
crash can go on with what is left, as `Reassembler.attemptAll` does.
-/

set_option autoImplicit false

namespace AisFeed

namespace Reassembler

/-- Work on a reassembler in place, which may crash. -/
abbrev Work := EStateM Crash Reassembler

/-- Give up all groups that are older than the time-to-live. -/
def expireInPlace (now : Time) : Work (List Event) := do
  let r ← get
  match now.minus? r.ttl with
  | none => throw .timeRange
  | some cutoff =>
    let (r, events) := r.sweep cutoff
    set r
    return events

/-- Sweep, then add a sentence. -/
def pushInPlace (s : Sentence) (now : Time) : Work (Option Payload × List Event) := do
  let events ← expireInPlace now
  let r ← get
  let (r, payload) := r.join s
  set r
  return (payload, events)

end Reassembler

/-- A call as work on the reassembler. -/
def Call.work : Call → Reassembler.Work Exchange
  | push s now => do
    let (payload, events) ← Reassembler.pushInPlace s now
    return ⟨.push s now, payload, events⟩
  | expire now => do
    let events ← Reassembler.expireInPlace now
    return ⟨.expire now, none, events⟩

namespace Reassembler

/-- Make one call: the reassembler after it, and what came of it unless it crashed. -/
def attempt (r : Reassembler) (call : Call) : Reassembler × Except Crash Exchange :=
  match call.work.run r with
  | .ok exchange r => (r, .ok exchange)
  | .error crash r => (r, .error crash)

/-- Make calls one after the other, also after one that crashes. -/
def attemptAll (r : Reassembler) : List Call → Reassembler × List (Except Crash Exchange)
  | [] => (r, [])
  | call :: rest =>
    let (r, outcome) := r.attempt call
    let (r, outcomes) := r.attemptAll rest
    (r, outcome :: outcomes)

end Reassembler

end AisFeed
