import AisFeed.Reassembly.Basic

/-!
# Runs of a reassembler

What comes of pushes and sweeps that are made one after the other, each at its own time.
-/

set_option autoImplicit false

namespace AisFeed

/-- What a reassembler is asked to do. -/
inductive Call where
  | push (sentence : Sentence) (now : Time)
  | expire (now : Time)
  deriving DecidableEq, Repr

/-- The time at which a call is made. -/
def Call.now : Call → Time
  | push _ now => now
  | expire now => now

/-- A call and what came of it. -/
structure Exchange where
  call : Call
  payload : Option Payload
  events : List Event
  deriving DecidableEq, Repr

namespace Reassembler

/-- Make one call. -/
def exchange (r : Reassembler) : Call → Except Crash (Reassembler × Exchange)
  | .push s now =>
    match r.push s now with
    | .error crash => .error crash
    | .ok (r, payload, events) => .ok (r, ⟨.push s now, payload, events⟩)
  | .expire now =>
    match r.expire now with
    | .error crash => .error crash
    | .ok (r, events) => .ok (r, ⟨.expire now, none, events⟩)

/-- Make calls one after the other, unless one of them crashes. -/
def run (r : Reassembler) : List Call → Except Crash (Reassembler × List Exchange)
  | [] => .ok (r, [])
  | call :: rest =>
    match r.exchange call with
    | .error crash => .error crash
    | .ok (r, exchange) =>
      match r.run rest with
      | .error crash => .error crash
      | .ok (r, trace) => .ok (r, exchange :: trace)

end Reassembler

end AisFeed
