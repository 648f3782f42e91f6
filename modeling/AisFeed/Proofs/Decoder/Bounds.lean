import AisFeed.Proofs.Decoder.Attempts
import AisFeed.Proofs.Reassembly.Waiting
import AisFeed.Proofs.Sentence.Acceptance

/-!
# Bounded state

A decoder does not grow without bound, whatever it is fed. There are as many keys as the grammar
of sentences has spellings of them (`Keying.keys`), every group has a key of its own, and no group
has as many fragments as its last sentence declares. `attemptAll_bounded` says so of whatever
requests leave behind, also after some that crashed.
-/

set_option autoImplicit false

namespace AisFeed

/-! ## Keys -/

/-- The digits. -/
def digitChars : List Char := "0123456789".toList

/-- The letters, the digits and the underscore. -/
def wordChars : List Char :=
  digitChars ++ "ABCDEFGHIJKLMNOPQRSTUVWXYZ_abcdefghijklmnopqrstuvwxyz".toList

/-- What a field may be that is one of some characters or absent. -/
def optionalChars (chars : List Char) : List (Option Char) :=
  none :: chars.map some

/-- The keys that sentences can have. -/
def Keying.keys : Keying → List GroupKey
  | sequenceIdAndChannel =>
    (optionalChars digitChars).flatMap fun id => (optionalChars wordChars).map (⟨id, ·⟩)
  | sequenceId => (optionalChars digitChars).map (⟨·, none⟩)

/-- The count of keys. -/
theorem Keying.length_keys (keying : Keying) :
    keying.keys.length = match keying with
      | .sequenceIdAndChannel => 11 * 64
      | .sequenceId => 11 := by
  cases keying with
  | sequenceId => rfl
  | sequenceIdAndChannel =>
    rw [keys, List.length_flatMap]
    simp only [List.length_map]
    rfl

theorem mem_digitChars_ofNat : ∀ b < 256, isDigitByte (UInt8.ofNat b) = true →
    charOfByte (UInt8.ofNat b) ∈ digitChars := by
  decide +kernel

theorem mem_wordChars_ofNat : ∀ b < 256, isWordByte (UInt8.ofNat b) = true →
    charOfByte (UInt8.ofNat b) ∈ wordChars := by
  decide +kernel

theorem charOfByte_mem_digitChars {b : UInt8} (digit : isDigitByte b = true) :
    charOfByte b ∈ digitChars := by
  have known := mem_digitChars_ofNat b.toNat b.toNat_lt
  rw [UInt8.ofNat_toNat] at known
  exact known digit

theorem charOfByte_mem_wordChars {b : UInt8} (word : isWordByte b = true) :
    charOfByte b ∈ wordChars := by
  have known := mem_wordChars_ofNat b.toNat b.toNat_lt
  rw [UInt8.ofNat_toNat] at known
  exact known word

theorem map_charOfByte_mem {chars : List Char} {field : Option UInt8}
    (known : ∀ b ∈ field, charOfByte b ∈ chars) :
    field.map charOfByte ∈ optionalChars chars := by
  cases field with
  | none => exact List.mem_cons_self
  | some b => exact List.mem_cons_of_mem _ (List.mem_map_of_mem (known b rfl))

/-- A sentence in a record has one of the keys, and its numbers are in range. -/
theorem Record.sentence?_bounds {r : Record} {s : Sentence} (brought : r.sentence? = some s) :
    (∀ keying : Keying, keying.key s ∈ keying.keys) ∧
      1 ≤ s.number ∧ s.number ≤ s.total ∧ s.total ≤ 255 := by
  have read : Sentence.read r.bytes r.receivedAt = .ok (some s) := by
    unfold Record.sentence? at brought
    split at brought
    · rename_i read
      rw [read, brought]
    · cases brought
  obtain ⟨-, p, denotes, -⟩ := Sentence.exists_denotes read
  have id : s.sequenceId ∈ optionalChars digitChars := by
    rw [← denotes.sequenceId]
    exact map_charOfByte_mem fun b mem => charOfByte_mem_digitChars (denotes.body.sequenceId b mem)
  have channel : s.channel ∈ optionalChars wordChars := by
    rw [← denotes.channel]
    exact map_charOfByte_mem fun b mem => charOfByte_mem_wordChars (denotes.body.channel b mem)
  refine ⟨fun keying => ?_, denotes.number_pos, denotes.number_le, denotes.total_le⟩
  cases keying with
  | sequenceIdAndChannel =>
    exact List.mem_flatMap.2 ⟨_, id, List.mem_map_of_mem channel⟩
  | sequenceId => exact List.mem_map_of_mem id

/-! ## Groups -/

/-- The fragment of a key that a request brings to its group, unless it crashes before. -/
def Request.pushed? (ttl : Span) (keying : Keying) (key : GroupKey) (request : Request) :
    Option Sentence :=
  request.call?.bind (Call.pushed? ttl keying key)

theorem Request.pushed?_eq_some {ttl : Span} {keying : Keying} {key : GroupKey}
    {request : Request} {s : Sentence} (brought : request.pushed? ttl keying key = some s) :
    keying.key s = key ∧ ∃ r : Record, r.sentence? = some s := by
  obtain ⟨call, asked, pushed⟩ := Option.bind_eq_some_iff.1 brought
  have fragment : call.fragmentOf? keying key = some s := by
    unfold Call.pushed? at pushed
    split at pushed
    · exact pushed
    · cases pushed
  cases call with
  | expire now => cases fragment
  | push s' now =>
    obtain ⟨⟨-, same⟩, rfl⟩ := Sentence.fragmentOf?_eq_some_iff.1 fragment
    refine ⟨same, ?_⟩
    cases request with
    | expire now => cases asked
    | process codec r now | complete r now =>
      obtain ⟨s, sentence, same⟩ := Option.map_eq_some_iff.1 asked
      cases same
      exact ⟨r, sentence⟩

/-- A group that waits has few fragments, with distinct numbers in range, when the fragments of its
key that were pushed are these. -/
structure Group.IsSmall (pushed : List Sentence) (g : Group) : Prop where
  length_pos : 1 ≤ g.chunks.length
  length_le : g.chunks.length ≤ 254
  ascending : g.numbers.Pairwise (· < ·)
  inRange : ∀ n ∈ g.numbers, 1 ≤ n ∧ n ≤ 255
  /-- There are fewer fragments than the last that was pushed declares. -/
  short : ∃ last, pushed.getLast? = some last ∧ g.chunks.length < last.total

/-- The last fragments of a key make a small group if they are too few for the last of them. -/
theorem Life.isSmall {l : Life} {pushed : List Sentence} {g : Group} (group : l.group? = some g)
    (short : l.IsShort) (recent : l <:+ pushed)
    (bounds : ∀ s ∈ pushed, 1 ≤ s.number ∧ s.number ≤ s.total ∧ s.total ≤ 255) :
    g.IsSmall pushed := by
  obtain ⟨first, head, rfl⟩ := Option.map_eq_some_iff.1 group
  have nonempty : l ≠ [] := List.ne_nil_of_mem (List.mem_of_head? head)
  have length : l.chunks.length = l.numbers.length := l.length_chunks
  have numbers : Group.numbers ⟨l.chunks, l.fillBits, first.receivedAt⟩ = l.numbers :=
    l.map_fst_chunks
  obtain ⟨before, rfl⟩ := recent
  have last := List.getLast?_eq_some_getLast nonempty
  have fewer := short _ last
  have few := (bounds _ (List.mem_append_right _ (List.getLast_mem nonempty))).2.2
  refine
    { length_pos := ?length_pos
      length_le := ?length_le
      ascending := ?ascending
      inRange := ?inRange
      short := ⟨l.getLast nonempty, ?last, ?fewer⟩ }
  case length_pos =>
    have one := mem_numbers_iff.2 ⟨first, List.mem_of_head? head, rfl⟩
    dsimp only
    rw [length]
    exact List.length_pos_of_mem one
  case length_le =>
    dsimp only
    omega
  case ascending =>
    rw [numbers]
    exact l.ascending_numbers
  case inRange =>
    intro n mem
    rw [numbers] at mem
    obtain ⟨s, inside, rfl⟩ := mem_numbers_iff.1 mem
    obtain ⟨low, high, most⟩ := bounds s (List.mem_append_right _ inside)
    exact ⟨low, high.trans most⟩
  case last => rw [List.getLast?_append, last, Option.some_or]
  case fewer =>
    dsimp only
    omega

/-! ## Runs -/

namespace Decoder

section Reachable

variable {ttl : Span} {keying : Keying} {codec : Codec} {requests : List Request}
  {key : GroupKey} {g : Group}

theorem attemptAll_new_reassembler :
    ((new ttl keying codec).attemptAll requests).1.reassembler =
      ((Reassembler.new ttl keying).attemptAll (requests.filterMap Request.call?)).1 :=
  attemptAll_reassembler (new ttl keying codec) requests

/-- Every group that requests leave behind has one of the keys, and is small. -/
theorem isSmall_of_mem
    (mem : (key, g) ∈ ((new ttl keying codec).attemptAll requests).1.reassembler.groups) :
    key ∈ keying.keys ∧ g.IsSmall (requests.filterMap (Request.pushed? ttl keying key)) := by
  rw [attemptAll_new_reassembler] at mem
  have keyed := (Reassembler.isKeyed_new ttl keying).attemptAll (requests.filterMap Request.call?)
  obtain ⟨l, group, short, recent⟩ := Reassembler.exists_pushed (keyed.get?_of_mem mem)
  rw [List.filterMap_filterMap] at recent
  change l <:+ requests.filterMap (Request.pushed? ttl keying key) at recent
  have brought (s : Sentence)
      (pushed : s ∈ requests.filterMap (Request.pushed? ttl keying key)) :
      keying.key s = key ∧ ∃ r : Record, r.sentence? = some s := by
    obtain ⟨request, -, given⟩ := List.mem_filterMap.1 pushed
    exact Request.pushed?_eq_some given
  refine ⟨?_, Life.isSmall group short recent fun s pushed => ?_⟩
  · obtain ⟨first, head, -⟩ := Option.map_eq_some_iff.1 group
    obtain ⟨same, r, sentence⟩ := brought first (recent.subset (List.mem_of_head? head))
    rw [← same]
    exact (Record.sentence?_bounds sentence).1 keying
  · obtain ⟨-, r, sentence⟩ := brought s pushed
    exact (Record.sentence?_bounds sentence).2

/-- There are at most as many groups as keys. -/
theorem pending_le :
    ((new ttl keying codec).attemptAll requests).1.pending ≤ keying.keys.length := by
  have distinct : (((new ttl keying codec).attemptAll requests).1.reassembler.groups.map
      Prod.fst).Nodup := by
    rw [attemptAll_new_reassembler]
    exact (Reassembler.isKeyed_new ttl keying).attemptAll _
  have known : ((new ttl keying codec).attemptAll requests).1.reassembler.groups.map Prod.fst ⊆
      keying.keys := by
    intro key mem
    obtain ⟨⟨_, g⟩, inside, rfl⟩ := List.mem_map.1 mem
    exact (isSmall_of_mem inside).1
  have fewer := (List.subperm_of_subset distinct known).length_le
  rw [List.length_map] at fewer
  exact fewer

end Reachable

/-- **The state is bounded.** Whatever is asked of a decoder, of any bytes and at any times, and
whichever requests crash: at most so many messages wait as there are sequence ids, or pairs of a
sequence id and a channel, each of which may be absent; and what waits of a message has between 1
and 254 chunks of distinct numbers from 1 to 255, fewer than the last fragment of it declares. -/
theorem attemptAll_bounded (ttl : Span) (keying : Keying) (codec : Codec)
    (requests : List Request) :
    let d := ((new ttl keying codec).attemptAll requests).1
    (d.pending ≤ match keying with
      | .sequenceIdAndChannel => 11 * 64
      | .sequenceId => 11) ∧
      ∀ key g, (key, g) ∈ d.reassembler.groups →
        g.IsSmall (requests.filterMap (Request.pushed? ttl keying key)) := by
  refine ⟨?_, fun key g mem => (isSmall_of_mem mem).2⟩
  rw [← keying.length_keys]
  exact pending_le

/-- The total shrinks within a group, a codec crashes, and a sweep comes too early to have a
start. -/
theorem attemptAll_bounded_crashes :
    let record (line : String) : Record := .ofBytes .epoch (Text.Utf8.bytesOf line)
    let crashing : Codec := fun _ _ => .error (.raised "no")
    let requests : List Request := [.complete (record "!AIVDM,9,4,1,A,1P00,0*7B") .epoch,
      .complete (record "!AIVDM,3,3,1,A,zz,0*17") .epoch,
      .process crashing (record "!AIVDM,1,1,,B,H,0*6D") .epoch,
      .expire ⟨-8334601228800, 0, by decide, by decide, by decide, by decide⟩]
    let d := ((new .minute .sequenceId crashing).attemptAll requests).1
    let g : Group := ⟨[(3, "zz"), (4, "1P00")], 0, .epoch⟩
    d.reassembler.groups = [(⟨some '1', none⟩, g)] ∧ d.pending ≤ 11 ∧
      g.IsSmall (requests.filterMap (Request.pushed? .minute .sequenceId ⟨some '1', none⟩)) := by
  intro record crashing requests d g
  obtain ⟨few, small⟩ := attemptAll_bounded .minute .sequenceId crashing requests
  have groups : d.reassembler.groups = [(⟨some '1', none⟩, g)] := by
    rw [show d.reassembler = _ from attemptAll_new_reassembler]
    rfl
  refine ⟨groups, few, small _ g ?_⟩
  rw [groups]
  exact List.mem_singleton_self _

end Decoder

end AisFeed
