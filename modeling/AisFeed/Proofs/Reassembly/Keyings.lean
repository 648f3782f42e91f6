import AisFeed.Proofs.Reassembly.Attempts
import Mathlib.Data.List.Forall2
import Mathlib.Data.Set.Function

/-!
# The two keyings

A reassembler uses keys only to tell groups apart. So one that calls its keys by other names does
the same and tells of the same groups by these names, as long as no two of the keys that it meets
get one name (`watch_renamed`). `watch_keyings` is what follows for the two keyings: to leave out
the channels in the keys is to leave them out in the sentences, and makes no difference at all where
no two channels share a sequence identifier. The groups that a sweep gives up may be told of in any
order, and in whichever they are, the sights are alike (`Sight.Alike`).
-/

set_option autoImplicit false

namespace AisFeed

/-- A sentence of which the channel is not known. -/
def Sentence.withoutChannel (s : Sentence) : Sentence :=
  { s with channel := none }

/-- A key that says nothing of the channel. -/
def GroupKey.withoutChannel (key : GroupKey) : GroupKey :=
  { key with channel := none }

/-- The event with another name for the key that it tells of. -/
def Event.renamed (f : GroupKey → GroupKey) : Event → Event
  | expired key fragments => expired (f key) fragments
  | event => event

theorem Event.renamed_id (event : Event) : event.renamed id = event := by
  cases event <;> rfl

namespace Call

/-- The fragment of several that a call brings, if it brings one. -/
def fragment? : Call → Option Sentence
  | push s _ => if 1 < s.total then some s else none
  | expire _ => none

/-- The call with another sentence. -/
def withSentence (g : Sentence → Sentence) : Call → Call
  | push s now => push (g s) now
  | expire now => expire now

@[simp] theorem withSentence_now (g : Sentence → Sentence) (call : Call) :
    (call.withSentence g).now = call.now := by
  cases call <;> rfl

theorem withSentence_id (call : Call) : call.withSentence id = call := by
  cases call <;> rfl

end Call

/-- What can be seen of a reassembler at a call: what came of the call, which may be a crash, how
many groups wait after it, and how many have been given up so far. -/
structure Sight where
  outcome : Except Crash (Option Payload × List Event)
  waiting : Nat
  evicted : Nat
  deriving DecidableEq, Repr

/-- The sight with other names for the keys that the events tell of. -/
def Sight.renamed (f : GroupKey → GroupKey) (seen : Sight) : Sight :=
  { seen with outcome := seen.outcome.map fun (payload, events) =>
      (payload, events.map (Event.renamed f)) }

theorem Sight.renamed_id (seen : Sight) : seen.renamed id = seen := by
  obtain ⟨outcome, waiting, evicted⟩ := seen
  have same : (fun event => Event.renamed id event) = id := funext Event.renamed_id
  cases outcome with
  | error crash => rfl
  | ok result => simp [renamed, Except.map, same]

/-- Two sights that are the same but for the order of the events. -/
inductive Sight.Alike : Sight → Sight → Prop
  | told {payload : Option Payload} {events events' : List Event} {waiting evicted : Nat}
    (same : events.Perm events') :
    Alike ⟨.ok (payload, events), waiting, evicted⟩ ⟨.ok (payload, events'), waiting, evicted⟩
  | crashed {crash : Crash} {waiting evicted : Nat} :
    Alike ⟨.error crash, waiting, evicted⟩ ⟨.error crash, waiting, evicted⟩

/-- Sights that are like one sight are alike. -/
theorem Sight.Alike.like {a b c : Sight} (h : a.Alike b) (h' : a.Alike c) : b.Alike c := by
  cases h with
  | told same =>
    obtain ⟨same'⟩ := h'
    exact .told (same.symm.trans same')
  | crashed =>
    cases h'
    exact .crashed

/-- They stay so under other names. -/
theorem Sight.Alike.renamed {a b : Sight} (h : a.Alike b) (f : GroupKey → GroupKey) :
    (a.renamed f).Alike (b.renamed f) := by
  cases h with
  | told same => exact .told (same.map _)
  | crashed => exact .crashed

theorem Sight.alike_of_both {model seen seen' : List Sight}
    (h : List.Forall₂ Sight.Alike model seen) (h' : List.Forall₂ Sight.Alike model seen') :
    List.Forall₂ Sight.Alike seen seen' := by
  induction h generalizing seen' with
  | nil =>
    cases h'
    exact .nil
  | cons first _ ih =>
    obtain _ | ⟨first', later'⟩ := h'
    exact .cons (first.like first') (ih later')

namespace Reassembler

/-- What is seen of a reassembler at one call. -/
def look (r : Reassembler) (call : Call) : Sight :=
  let (after, outcome) := r.attempt call
  ⟨outcome.map fun e => (e.payload, e.events), after.groups.length, after.evicted⟩

/-- What is seen of a reassembler at calls that are made one after the other, also after one that
crashes. -/
def watch (r : Reassembler) : List Call → List Sight
  | [] => []
  | call :: rest => r.look call :: (r.attempt call).1.watch rest

/-! ## Other names -/

/-- The reassembler with another keying, and with other names for the keys of its groups. -/
def renamed (r : Reassembler) (f : GroupKey → GroupKey) (keying : Keying) : Reassembler :=
  { r with keying, groups := r.groups.map fun g => (f g.1, g.2) }

/-- All groups have their keys in a set. -/
def KeysIn (r : Reassembler) (keys : Set GroupKey) : Prop :=
  ∀ g ∈ r.groups, g.1 ∈ keys

section Renamed

variable {r : Reassembler} {f : GroupKey → GroupKey} {keying : Keying} {keys : Set GroupKey}

/-- Groups are given up by their age, whatever their keys. -/
theorem sweep_renamed (r : Reassembler) (f : GroupKey → GroupKey) (keying : Keying)
    (cutoff : Time) :
    ((r.renamed f keying).sweep cutoff).1 = (r.sweep cutoff).1.renamed f keying ∧
      ((r.renamed f keying).sweep cutoff).2 = (r.sweep cutoff).2.map (Event.renamed f) := by
  constructor
  · simp only [sweep, renamed, List.filter_map, List.length_map]
    rfl
  · simp only [sweep, renamed, List.filter_map, List.map_map]
    rfl

theorem KeysIn.sweep (held : r.KeysIn keys) (cutoff : Time) : (r.sweep cutoff).1.KeysIn keys :=
  fun g mem => held g (List.mem_filter.1 mem).1

theorem KeysIn.join (held : r.KeysIn keys) {s : Sentence}
    (known : 1 < s.total → r.keying.key s ∈ keys) : (r.join s).1.KeysIn keys := by
  have others : ∀ g ∈ without (r.keying.key s) r.groups, g.1 ∈ keys := by
    intro g mem
    exact held g (List.mem_filter.1 mem).1
  unfold Reassembler.join
  split
  · exact held
  · rename_i many
    dsimp only
    split
    · intro g mem
      rcases List.mem_cons.1 mem with rfl | mem
      · exact known (Nat.lt_of_not_le many)
      · exact others g mem
    · exact others

/-- What has the new name of a key has the key, if no other key in the set is called so. -/
theorem filter_renamed (inj : Set.InjOn f keys) (held : r.KeysIn keys) {key : GroupKey}
    (mem : key ∈ keys) :
    ((r.renamed f keying).groups.filter fun g => g.1 = f key) =
        (r.groups.filter fun g => g.1 = key).map (fun g => (f g.1, g.2)) ∧
      without (f key) (r.renamed f keying).groups =
        (without key r.groups).map fun g => (f g.1, g.2) := by
  have same (g : GroupKey × Group) (inside : g ∈ r.groups) : f g.1 = f key ↔ g.1 = key :=
    inj.eq_iff (held g inside) mem
  simp only [renamed, without, List.filter_map]
  constructor
  · refine congrArg (List.map _) (List.filter_congr fun g inside => ?_)
    simp only [Function.comp_apply, same g inside]
  · refine congrArg (List.map _) (List.filter_congr fun g inside => ?_)
    simp only [Function.comp_apply, ne_eq, same g inside]

theorem get?_renamed (inj : Set.InjOn f keys) (held : r.KeysIn keys) {key : GroupKey}
    (mem : key ∈ keys) : (r.renamed f keying).get? (f key) = r.get? key := by
  rw [get?_eq_head?, get?_eq_head?, groupsOf, groupsOf, (filter_renamed inj held mem).1,
    List.map_map]
  rfl

/-- A sentence goes to the group with the new name of its key. Its channel has no other part in
what comes of it. -/
theorem join_renamed (inj : Set.InjOn f keys) (held : r.KeysIn keys) {s s' : Sentence}
    (same : s' = { s with channel := s'.channel }) (key : keying.key s' = f (r.keying.key s))
    (known : 1 < s.total → r.keying.key s ∈ keys) :
    (r.renamed f keying).join s' = ((r.join s).1.renamed f keying, (r.join s).2) := by
  have total : s'.total = s.total := by rw [same]
  have added (g : Group) : g.add s' = g.add s := by rw [same]; rfl
  unfold join
  rw [total]
  by_cases many : 1 < s.total
  · have mem := known many
    have received : s'.receivedAt = s.receivedAt := by rw [same]
    have setting : (r.renamed f keying).keying = keying := rfl
    have others : without (f (r.keying.key s)) (r.renamed f keying).groups =
        (without (r.keying.key s) r.groups).map fun g => (f g.1, g.2) :=
      (filter_renamed inj held mem).2
    rw [if_neg (Nat.not_le.2 many), if_neg (Nat.not_le.2 many), setting, key]
    dsimp only
    rw [get?_renamed inj held mem, received, added]
    split
    · rw [withGroup, others]
      rfl
    · rw [others]
      rfl
  · rw [if_pos (Nat.le_of_not_lt many), if_pos (Nat.le_of_not_lt many), same]

/-- Sentences differ from others in their channels only, and have under one keying the new names of
the keys that the others have under another. -/
structure Rekeys (f : GroupKey → GroupKey) (g : Sentence → Sentence) (keying keying' : Keying) :
    Prop where
  same : ∀ s, g s = { s with channel := (g s).channel }
  key : ∀ s, keying'.key (g s) = f (keying.key s)

variable {g : Sentence → Sentence}

theorem settle_renamed (inj : Set.InjOn f keys) (rekeys : Rekeys f g r.keying keying)
    (held : r.KeysIn keys) {call : Call}
    (known : ∀ s, call.fragment? = some s → r.keying.key s ∈ keys) :
    (r.renamed f keying).settle (call.withSentence g) =
        ((r.settle call).1.renamed f keying, (r.settle call).2) ∧
      (r.settle call).1.KeysIn keys := by
  cases call with
  | expire now => exact ⟨rfl, held⟩
  | push s now =>
    have mem (many : 1 < s.total) : r.keying.key s ∈ keys :=
      known s (by rw [Call.fragment?, if_pos many])
    exact ⟨join_renamed inj held (rekeys.same s) (rekeys.key s) mem, held.join mem⟩

/-- One call: the same comes of it, and the same groups are left, by their new names. -/
theorem look_renamed (inj : Set.InjOn f keys) (rekeys : Rekeys f g r.keying keying)
    (held : r.KeysIn keys) {call : Call}
    (known : ∀ s, call.fragment? = some s → r.keying.key s ∈ keys) :
    (r.renamed f keying).look (call.withSentence g) = (r.look call).renamed f ∧
      ((r.renamed f keying).attempt (call.withSentence g)).1 =
        (r.attempt call).1.renamed f keying ∧
      (r.attempt call).1.KeysIn keys := by
  unfold look
  cases start : call.now.minus? r.ttl with
  | none =>
    have start' : (call.withSentence g).now.minus? (r.renamed f keying).ttl = none := by
      rw [Call.withSentence_now]
      exact start
    rw [attempt_of_crash _ start, attempt_of_crash _ start']
    refine ⟨?_, rfl, held⟩
    simp only [Sight.renamed, renamed, List.length_map]
    rfl
  | some cutoff =>
    have start' : (call.withSentence g).now.minus? (r.renamed f keying).ttl = some cutoff := by
      rw [Call.withSentence_now]
      exact start
    obtain ⟨swept, told⟩ := sweep_renamed r f keying cutoff
    have rekeys' : Rekeys f g (r.sweep cutoff).1.keying keying := rekeys
    obtain ⟨settled, held'⟩ := settle_renamed inj rekeys' (held.sweep cutoff) known
    rw [attempt_of_range _ start, attempt_of_range _ start', swept, told, settled]
    refine ⟨?_, rfl, held'⟩
    simp only [Sight.renamed, renamed, List.length_map]
    rfl

/-- **A reassembler does the same by other names.** Let its keys, and those of the fragments that
come, lie in a set in which no two get one name. Then the same is seen at all calls, with events
that tell of groups by their new names. -/
theorem watch_renamed (inj : Set.InjOn f keys) (rekeys : Rekeys f g r.keying keying)
    (held : r.KeysIn keys) (calls : List Call)
    (known : ∀ s ∈ calls.filterMap Call.fragment?, r.keying.key s ∈ keys) :
    (r.renamed f keying).watch (calls.map (Call.withSentence g)) =
      (r.watch calls).map (Sight.renamed f) := by
  induction calls generalizing r with
  | nil => rfl
  | cons call rest ih =>
    have first (s : Sentence) (brought : call.fragment? = some s) : r.keying.key s ∈ keys :=
      known s (List.mem_filterMap.2 ⟨call, List.mem_cons_self, brought⟩)
    have others (s : Sentence) (mem : s ∈ rest.filterMap Call.fragment?) :
        r.keying.key s ∈ keys := by
      obtain ⟨later, inside, brought⟩ := List.mem_filterMap.1 mem
      exact known s (List.mem_filterMap.2 ⟨later, List.mem_cons_of_mem _ inside, brought⟩)
    obtain ⟨seen, after, held'⟩ := look_renamed inj rekeys held first
    have keyed := (r.attempt_settings call).1
    rw [← keyed] at rekeys others
    rw [List.map_cons, watch, watch, List.map_cons, seen, after, ih rekeys held' others]

end Renamed

/-- The two keyings, step for step and event for event. -/
theorem watch_keyings_eq (ttl : Span) (calls : List Call) :
    (new ttl .sequenceId).watch calls =
        (new ttl .sequenceIdAndChannel).watch
          (calls.map (Call.withSentence Sentence.withoutChannel)) ∧
      ((∀ s ∈ calls.filterMap Call.fragment?, ∀ s' ∈ calls.filterMap Call.fragment?,
          s.sequenceId = s'.sequenceId → s.channel = s'.channel) →
        (new ttl .sequenceId).watch calls =
          ((new ttl .sequenceIdAndChannel).watch calls).map
            (Sight.renamed GroupKey.withoutChannel)) := by
  have nothing (keying : Keying) (keys : Set GroupKey) : (new ttl keying).KeysIn keys :=
    fun g mem => absurd mem List.not_mem_nil
  constructor
  · -- the keys keep their names, and no set of them need be known
    have rekeys : Rekeys id Sentence.withoutChannel .sequenceId .sequenceIdAndChannel :=
      ⟨fun s => rfl, fun s => rfl⟩
    have renamed := watch_renamed (Set.injOn_id _) rekeys (nothing .sequenceId Set.univ) calls
      fun s _ => Set.mem_univ _
    rw [funext Sight.renamed_id, List.map_id'] at renamed
    exact renamed.symm
  · intro apart
    have rekeys : Rekeys GroupKey.withoutChannel id .sequenceIdAndChannel .sequenceId :=
      ⟨fun s => rfl, fun s => rfl⟩
    let fragments := calls.filterMap Call.fragment?
    have inj : Set.InjOn GroupKey.withoutChannel
        {key | ∃ s ∈ fragments, Keying.sequenceIdAndChannel.key s = key} := by
      rintro _ ⟨s, mem, rfl⟩ _ ⟨s', mem', rfl⟩ same
      have sequence : s.sequenceId = s'.sequenceId := congrArg GroupKey.sequenceId same
      have channel : s.channel = s'.channel := apart s mem s' mem' sequence
      show GroupKey.mk s.sequenceId s.channel = ⟨s'.sequenceId, s'.channel⟩
      rw [sequence, channel]
    have renamed := watch_renamed inj rekeys (nothing .sequenceIdAndChannel _) calls
      fun s mem => ⟨s, mem, rfl⟩
    rw [funext Call.withSentence_id, List.map_id'] at renamed
    exact renamed

/-- **The two keyings differ in the channels only.** A reassembler that puts fragments together by
their sequence identifiers does at every call what one that also looks at the channels does when no
channel is known. If all fragments with one sequence identifier are on one channel, both do the same
with the same calls, and only the events of the one do not tell the channels. That is so event for
event if both tell of the groups that a sweep gives up in the order in which they are listed here,
and up to the order of events if they tell of them in any other. -/
theorem watch_keyings (ttl : Span) (calls : List Call) :
    (new ttl .sequenceId).watch calls =
        (new ttl .sequenceIdAndChannel).watch
          (calls.map (Call.withSentence Sentence.withoutChannel)) ∧
      ((∀ s ∈ calls.filterMap Call.fragment?, ∀ s' ∈ calls.filterMap Call.fragment?,
          s.sequenceId = s'.sequenceId → s.channel = s'.channel) →
        (new ttl .sequenceId).watch calls =
          ((new ttl .sequenceIdAndChannel).watch calls).map
            (Sight.renamed GroupKey.withoutChannel)) ∧
      ∀ seen seen', List.Forall₂ Sight.Alike ((new ttl .sequenceId).watch calls) seen →
        (List.Forall₂ Sight.Alike ((new ttl .sequenceIdAndChannel).watch
            (calls.map (Call.withSentence Sentence.withoutChannel))) seen' →
          List.Forall₂ Sight.Alike seen seen') ∧
        ((∀ s ∈ calls.filterMap Call.fragment?, ∀ s' ∈ calls.filterMap Call.fragment?,
            s.sequenceId = s'.sequenceId → s.channel = s'.channel) →
          List.Forall₂ Sight.Alike ((new ttl .sequenceIdAndChannel).watch calls) seen' →
            List.Forall₂ Sight.Alike seen
              (seen'.map (Sight.renamed GroupKey.withoutChannel))) := by
  obtain ⟨without, same⟩ := watch_keyings_eq ttl calls
  refine ⟨without, same, fun seen seen' told => ⟨fun told' => ?_, fun apart told' => ?_⟩⟩
  · rw [← without] at told'
    exact Sight.alike_of_both told told'
  · rw [same apart] at told
    refine Sight.alike_of_both told ?_
    rw [List.forall₂_map_left_iff, List.forall₂_map_right_iff]
    exact told'.imp fun _ _ alike => alike.renamed _

/-- A message of one fragment comes on the channel of another, between the fragments of two messages
of which one is completed and one is given up. -/
theorem watch_keyings_apart :
    let fragment (sequence channel : Char) (total number : Nat) (payload : String) : Sentence :=
      ⟨.otherVessel, total, number, some sequence, some channel, payload, 0, .epoch⟩
    let late : Time := ⟨100, 0, by decide, by decide, by decide, by decide⟩
    let calls : List Call := [.push (fragment '1' 'A' 2 1 "AB") .epoch,
      .push (fragment '1' 'B' 1 1 "XX") .epoch, .push (fragment '2' 'B' 2 2 "ZZ") .epoch,
      .push (fragment '1' 'A' 2 2 "CD") .epoch, .expire late]
    (∀ s ∈ calls.filterMap Call.fragment?, ∀ s' ∈ calls.filterMap Call.fragment?,
        s.sequenceId = s'.sequenceId → s.channel = s'.channel) ∧
      (new .minute .sequenceId).watch calls =
        ((new .minute .sequenceIdAndChannel).watch calls).map
          (Sight.renamed GroupKey.withoutChannel) ∧
      (new .minute .sequenceIdAndChannel).watch calls =
        [⟨.ok (none, []), 1, 0⟩, ⟨.ok (some ⟨"XX", 0, .epoch⟩, []), 1, 0⟩, ⟨.ok (none, []), 2, 0⟩,
          ⟨.ok (some ⟨"ABCD", 0, .epoch⟩, []), 1, 0⟩,
          ⟨.ok (none, [.expired ⟨some '2', some 'B'⟩ [2]]), 0, 1⟩] := by
  intro fragment late calls
  have apart : ∀ s ∈ calls.filterMap Call.fragment?, ∀ s' ∈ calls.filterMap Call.fragment?,
      s.sequenceId = s'.sequenceId → s.channel = s'.channel := by
    decide
  refine ⟨apart, (watch_keyings .minute calls).2.1 apart, ?_⟩
  decide +kernel

end Reassembler

end AisFeed
