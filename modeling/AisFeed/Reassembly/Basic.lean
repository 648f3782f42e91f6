import AisFeed.Event

/-!
# Reassembly

Fragments of a message wait in groups until as many different ones have arrived as the message
has. A message of one fragment is complete at once. Every push first sweeps out the groups whose
first fragment is older than the time-to-live; `expire` sweeps alone. The start of the
time-to-live can lie before the first time there is, and then both crash without a change.
-/

set_option autoImplicit false

namespace AisFeed

/-- Fragments that wait for others of their messages. -/
structure Reassembler where
  /-- How long a group may wait, counted from its first fragment. -/
  ttl : Span
  keying : Keying
  /-- The groups, the one to which a fragment came last first. -/
  groups : List (GroupKey × Group)
  /-- How many groups have been given up so far. -/
  evicted : Nat
  deriving DecidableEq, Repr

namespace Reassembler

/-- No fragments yet. -/
def new (ttl : Span) (keying : Keying) : Reassembler :=
  ⟨ttl, keying, [], 0⟩

/-- The group of a key. -/
def get? (r : Reassembler) (key : GroupKey) : Option Group :=
  (r.groups.find? fun g => g.1 = key).map Prod.snd

/-- Groups without the one of `key`. -/
def without (key : GroupKey) (groups : List (GroupKey × Group)) : List (GroupKey × Group) :=
  groups.filter fun g => g.1 ≠ key

/-- Groups with the one of `key` set. -/
def withGroup (key : GroupKey) (group : Group) (groups : List (GroupKey × Group)) :
    List (GroupKey × Group) :=
  (key, group) :: without key groups

/-- Was the group opened before `cutoff`? -/
def isExpired (cutoff : Time) (g : GroupKey × Group) : Bool :=
  g.2.firstSeen < cutoff

/-- Give up all groups that were opened before `cutoff`. -/
def sweep (r : Reassembler) (cutoff : Time) : Reassembler × List Event :=
  let old := r.groups.filter (isExpired cutoff)
  ({ r with
      groups := r.groups.filter fun g => !isExpired cutoff g
      evicted := r.evicted + old.length },
   old.map fun g => .expired g.1 g.2.numbers)

/-- Give up all groups that are older than the time-to-live at the time `now`. There is one event
for each. -/
def expire (r : Reassembler) (now : Time) : Except Crash (Reassembler × List Event) :=
  match now.minus? r.ttl with
  | none => .error .timeRange
  | some cutoff => .ok (r.sweep cutoff)

/-- Add a sentence to its group, without a sweep. A message that this completes leaves. -/
def join (r : Reassembler) (s : Sentence) : Reassembler × Option Payload :=
  if s.total ≤ 1 then (r, some ⟨s.payload, s.fillBits, s.receivedAt⟩)
  else
    let key := r.keying.key s
    let group := ((r.get? key).getD (.openedAt s.receivedAt)).add s
    if group.chunks.length < s.total then
      ({ r with groups := withGroup key group r.groups }, none)
    else ({ r with groups := without key r.groups }, some group.payload)

/-- Sweep, then add a sentence. -/
def push (r : Reassembler) (s : Sentence) (now : Time) :
    Except Crash (Reassembler × Option Payload × List Event) :=
  match r.expire now with
  | .error crash => .error crash
  | .ok (r, events) =>
    let (r, payload) := r.join s
    .ok (r, payload, events)

end Reassembler

end AisFeed
