import AisFeed.Forms
import AisFeed.Proofs.Json.Form
import AisFeed.Proofs.Time.Timestamp

/-!
# The written forms round trip

Each form of the types of a feed is faithful for the values whose numbers have the sizes that the
form allows. A character, a time and a name are read from any text that is written for them, so
only numbers bound what is written.
-/

set_option autoImplicit false

namespace AisFeed

open Json

theorem Json.readsAs_ofChar (c : Char) : ReadsAs Tree.char? (.ofChar c) c := by
  refine ⟨.string (String.singleton c), rfl, ?_⟩
  simp [Tree.char?, Tree.text?]

theorem Time.readsAs_toJson (t : Time) : ReadsAs Time.ofTree? t.toJson t := by
  refine ⟨.string t.rfc3339, rfl, ?_⟩
  simp only [Time.ofTree?, Tree.text?, Option.bind_some, Time.ofText?_rfc3339]

/-! ## Variants -/

theorem Keying.isFaithful_form : Keying.form.IsFaithful fun _ => True where
  readsAs k _ := by
    refine readsAs_oneOf ?_
    cases k <;> rfl
  fits _ _ _ := trivial

theorem Talker.isFaithful_form : Talker.form.IsFaithful fun _ => True where
  readsAs t _ := by
    refine readsAs_oneOf ?_
    cases t <;> rfl
  fits _ _ _ := trivial

theorem Parity.isFaithful_form : Parity.form.IsFaithful fun _ => True where
  readsAs p _ := by
    refine readsAs_oneOf ?_
    cases p <;> rfl
  fits _ _ _ := trivial

namespace QueuePolicy

/-- The capacity, if there is one, is a count. -/
def Fits : QueuePolicy → Prop
  | unbounded => True
  | dropOldest n => n ≤ countBound

theorem isFaithful_form : form.IsFaithful Fits where
  readsAs policy fits := by
    cases policy with
    | unbounded => exact ⟨.string "Unbounded", rfl, rfl⟩
    | dropOldest n =>
      obtain ⟨t, spelled, read⟩ := readsAs_ofNat fits
      refine ⟨.object [(some "DropOldest", t)], ?_, ?_⟩
      · simp [form, toJson, spelling?, memberSpellings?, spelled]
      · simp only [form, ofTree?, read, Option.map_some]
  fits t policy read := by
    simp only [form, ofTree?] at read
    split at read
    · obtain ⟨n, small, rfl⟩ := Option.map_eq_some_iff.1 read
      exact le_of_natAtMost? small
    · cases policy with
      | unbounded => trivial
      | dropOldest n =>
        simp only [Tree.oneOf?, Option.bind_eq_bind, Option.bind_eq_some_iff,
          Option.map_eq_some_iff] at read
        obtain ⟨name, -, variant, found, is⟩ := read
        have only := List.mem_of_find?_eq_some found
        rw [List.mem_singleton] at only
        rw [only] at is
        cases is

end QueuePolicy

/-! ## Structures -/

namespace Summary

/-- The counts have sixty-four bits. -/
def Fits (s : Summary) : Prop :=
  ∀ n ∈ s.counts, n ≤ countBound

theorem exists_trees {bound : Nat} {counts : List Nat} (fits : ∀ n ∈ counts, n ≤ bound) :
    ∃ trees : List Tree, (counts.map fun n => (ofNat n).spelling?) = trees.map some ∧
      ((trees.map some).mapM fun f => f.bind (Tree.natAtMost? bound)) = some counts := by
  induction counts with
  | nil => exact ⟨[], rfl, rfl⟩
  | cons n counts ih =>
    obtain ⟨t, spelled, read⟩ := readsAs_ofNat (fits n List.mem_cons_self)
    obtain ⟨trees, later, named⟩ := ih fun m mem => fits m (List.mem_cons_of_mem _ mem)
    refine ⟨t :: trees, ?_, ?_⟩
    · rw [List.map_cons, List.map_cons, spelled, later]
    · simp only [List.map_cons, List.mapM_cons, Option.bind_some, read, named,
        Option.bind_eq_bind, Option.pure_def]

theorem le_of_mapM_natAtMost? {bound : Nat} {fields : List (Option Tree)} {counts : List Nat}
    (read : (fields.mapM fun f => f.bind (Tree.natAtMost? bound)) = some counts) :
    ∀ n ∈ counts, n ≤ bound := by
  induction fields generalizing counts with
  | nil =>
    cases read
    exact fun n none => nomatch none
  | cons field fields ih =>
    simp only [List.mapM_cons, Option.bind_eq_bind, Option.pure_def, Option.bind_eq_some_iff,
      Option.some.injEq] at read
    obtain ⟨n, ⟨t, -, small⟩, counts, later, rfl⟩ := read
    intro m mem
    rcases List.mem_cons.1 mem with rfl | mem
    · exact le_of_natAtMost? small
    · exact ih later m mem

theorem counts_of_ofCounts? {counts : List Nat} {s : Summary} (is : ofCounts? counts = some s) :
    s.counts = counts := by
  unfold ofCounts? at is
  split at is
  · cases is
    rfl
  · cases is

theorem isFaithful_form : form.IsFaithful Fits where
  readsAs s fits := by
    obtain ⟨trees, spelled, read⟩ := exists_trees fits
    refine readsAs_object names trees rfl (by decide) spelled fun t fields _ => ?_
    simp only [form, fields, Option.bind_eq_bind, Option.bind_some, read]
    rfl
  fits t s read := by
    simp only [form, Option.bind_eq_bind, Option.bind_eq_some_iff] at read
    obtain ⟨fields, -, counts, small, is⟩ := read
    rw [Fits, counts_of_ofCounts? is]
    exact le_of_mapM_natAtMost? small

end Summary

namespace Sentence

/-- The numbers have eight bits. -/
structure Fits (s : Sentence) : Prop where
  total : s.total ≤ byteBound
  number : s.number ≤ byteBound
  fillBits : s.fillBits ≤ byteBound

theorem isFaithful_form : form.IsFaithful Fits where
  readsAs s fits := by
    obtain ⟨talker, spelledTalker, readTalker⟩ := Talker.isFaithful_form.readsAs s.talker trivial
    obtain ⟨total, spelledTotal, readTotal⟩ := readsAs_ofNat fits.total
    obtain ⟨number, spelledNumber, readNumber⟩ := readsAs_ofNat fits.number
    obtain ⟨sequenceId, spelledId, readId⟩ := readsAs_ofOption (o := s.sequenceId)
      (fun c _ => readsAs_ofChar c) rfl
    obtain ⟨channel, spelledChannel, readChannel⟩ := readsAs_ofOption (o := s.channel)
      (fun c _ => readsAs_ofChar c) rfl
    obtain ⟨payload, spelledPayload, readPayload⟩ := readsAs_string s.payload
    obtain ⟨fillBits, spelledBits, readBits⟩ := readsAs_ofNat fits.fillBits
    obtain ⟨time, spelledTime, readTime⟩ := s.receivedAt.readsAs_toJson
    refine readsAs_object
      ["talker", "total_fragments", "fragment_number", "sequence_id", "channel", "payload",
        "fill_bits", "received_at"]
      [talker, total, number, sequenceId, channel, payload, fillBits, time]
      rfl (by decide) ?_ fun t fields _ => ?_
    · simp only [List.map_cons, List.map_nil, spelledTalker, spelledTotal, spelledNumber, spelledId,
        spelledChannel, spelledPayload, spelledBits, spelledTime]
    · simp only [form, ofTree?, fields, List.map_cons, List.map_nil, Option.bind_eq_bind,
        Option.bind_some, Tree.optional?, readTalker, readTotal, readNumber, readId, readChannel,
        readPayload, readBits, readTime]
  fits t s read := by
    simp only [form, ofTree?, Option.bind_eq_bind, Option.bind_eq_some_iff] at read
    obtain ⟨fields, -, read⟩ := read
    split at read
    · simp only [Option.bind_eq_some_iff, Option.some.injEq] at read
      obtain ⟨-, -, total, ⟨_, -, smallTotal⟩, number, ⟨_, -, smallNumber⟩, -, -, -, -, -, -,
        fillBits, ⟨_, -, smallBits⟩, -, -, rfl⟩ := read
      exact ⟨le_of_natAtMost? smallTotal, le_of_natAtMost? smallNumber,
        le_of_natAtMost? smallBits⟩
    · cases read

end Sentence

namespace Payload

/-- The number has eight bits. -/
def Fits (p : Payload) : Prop :=
  p.fillBits ≤ byteBound

theorem isFaithful_form : form.IsFaithful Fits where
  readsAs p fits := by
    obtain ⟨text, spelledText, readText⟩ := readsAs_string p.text
    obtain ⟨fillBits, spelledBits, readBits⟩ := readsAs_ofNat fits
    obtain ⟨time, spelledTime, readTime⟩ := p.receivedAt.readsAs_toJson
    refine readsAs_object ["armored_payload", "fill_bits", "received_at"] [text, fillBits, time]
      rfl (by decide) ?_ fun t fields _ => ?_
    · simp only [List.map_cons, List.map_nil, spelledText, spelledBits, spelledTime]
    · simp only [form, ofTree?, fields, List.map_cons, List.map_nil, Option.bind_eq_bind,
        Option.bind_some, readText, readBits, readTime]
  fits t p read := by
    simp only [form, ofTree?, Option.bind_eq_bind, Option.bind_eq_some_iff] at read
    obtain ⟨fields, -, read⟩ := read
    split at read
    · simp only [Option.bind_eq_some_iff, Option.some.injEq] at read
      obtain ⟨-, -, fillBits, ⟨_, -, small⟩, -, -, rfl⟩ := read
      exact le_of_natAtMost? small
    · cases read

end Payload

namespace Record

/-- The port, if there is one, has sixteen bits. -/
def Fits (r : Record) : Prop :=
  ∀ port ∈ r.port, port ≤ portBound

theorem readsAs_bytes (bytes : List UInt8) :
    ReadsAs (Tree.list? (Tree.natAtMost? byteBound))
      (.array (bytes.map fun b => .ofNat b.toNat)) (bytes.map UInt8.toNat) := by
  refine readsAs_array (fun b => readsAs_ofNat ?_) bytes
  exact Nat.le_of_lt_succ b.toNat_lt

theorem isFaithful_form : form.IsFaithful Fits where
  readsAs r fits := by
    obtain ⟨time, spelledTime, readTime⟩ := r.receivedAt.readsAs_toJson
    obtain ⟨address, spelledAddress, readAddress⟩ := readsAs_ofOption (o := r.address)
      (fun s _ => readsAs_string s) rfl
    obtain ⟨port, spelledPort, readPort⟩ := readsAs_ofOption
      (fun n mem => readsAs_ofNat (fits n mem)) rfl
    obtain ⟨bytes, spelledBytes, readBytes⟩ := readsAs_bytes r.bytes
    have same : (r.bytes.map UInt8.toNat).map UInt8.ofNat = r.bytes := by
      simp [Function.comp_def]
    refine readsAs_object ["received_at", "source_address", "source_port", "bytes"]
      [time, address, port, bytes] rfl (by decide) ?_ fun t fields _ => ?_
    · simp only [members, List.map_cons, List.map_nil, spelledTime, spelledAddress, spelledPort,
        spelledBytes]
    · simp only [form, ofTree?, fields, List.map_cons, List.map_nil, Option.bind_eq_bind,
        Option.bind_some, Tree.optional?, readTime, readAddress, readPort, readBytes, same]
  fits t r read := by
    simp only [form, ofTree?, Option.bind_eq_bind, Option.bind_eq_some_iff] at read
    obtain ⟨fields, -, read⟩ := read
    split at read
    · simp only [Option.bind_eq_some_iff, Option.some.injEq] at read
      obtain ⟨-, -, -, -, port, small, -, -, rfl⟩ := read
      exact le_of_optional? small
    · cases read

end Record

namespace Wait

/-- The seconds have sixty-four bits, and the rest is less than a second. -/
structure Fits (w : Wait) : Prop where
  seconds : w.seconds ≤ countBound
  nanos : w.nanos < 1000000000

theorem readsAs_toJson {w : Wait} (fits : w.Fits) : ReadsAs ofTree? w.toJson w := by
  have small : w.nanos < 1000000000 := fits.nanos
  have word : w.nanos ≤ wordBound := by
    unfold wordBound
    omega
  obtain ⟨seconds, spelledSeconds, readSeconds⟩ := readsAs_ofNat fits.seconds
  obtain ⟨nanos, spelledNanos, readNanos⟩ := readsAs_ofNat word
  refine readsAs_object ["secs", "nanos"] [seconds, nanos] rfl (by decide) ?_ fun t _ fields => ?_
  · simp only [List.map_cons, List.map_nil, spelledSeconds, spelledNanos]
  · simp only [ofTree?, fields, List.map_cons, List.map_nil, Option.bind_eq_bind,
      Option.bind_some, readSeconds, readNanos, carried?, Nat.div_eq_of_lt small,
      Nat.mod_eq_of_lt small, Nat.add_zero]
    exact if_pos fits.seconds

theorem fits_of_ofTree? {t : Tree} {w : Wait} (read : ofTree? t = some w) : w.Fits := by
  simp only [ofTree?, Option.bind_eq_bind, Option.bind_eq_some_iff] at read
  obtain ⟨fields, -, read⟩ := read
  split at read
  · simp only [Option.bind_eq_some_iff] at read
    obtain ⟨seconds, -, nanos, -, carried⟩ := read
    unfold carried? at carried
    dsimp only at carried
    split at carried
    · rename_i small
      cases carried
      exact ⟨small, Nat.mod_lt _ (by decide)⟩
    · cases carried
  · cases read

end Wait

namespace SerialSettings

/-- The numbers have the sizes of their fields, and the wait is one. -/
structure Fits (s : SerialSettings) : Prop where
  baudRate : s.baudRate ≤ wordBound
  dataBits : s.dataBits ≤ byteBound
  stopBits : s.stopBits ≤ byteBound
  readTimeout : s.readTimeout.Fits

theorem isFaithful_form : form.IsFaithful Fits where
  readsAs s fits := by
    obtain ⟨device, spelledDevice, readDevice⟩ := readsAs_string s.device
    obtain ⟨baudRate, spelledRate, readRate⟩ := readsAs_ofNat fits.baudRate
    obtain ⟨dataBits, spelledData, readData⟩ := readsAs_ofNat fits.dataBits
    obtain ⟨parity, spelledParity, readParity⟩ := Parity.isFaithful_form.readsAs s.parity trivial
    obtain ⟨stopBits, spelledStop, readStop⟩ := readsAs_ofNat fits.stopBits
    obtain ⟨wait, spelledWait, readWait⟩ := Wait.readsAs_toJson fits.readTimeout
    refine readsAs_object
      ["device", "baud_rate", "data_bits", "parity", "stop_bits", "read_timeout"]
      [device, baudRate, dataBits, parity, stopBits, wait] rfl (by decide) ?_ fun t fields _ => ?_
    · simp only [List.map_cons, List.map_nil, spelledDevice, spelledRate, spelledData,
        spelledParity, spelledStop, spelledWait]
    · simp only [form, ofTree?, fields, List.map_cons, List.map_nil, Option.bind_eq_bind,
        Option.bind_some, readDevice, readRate, readData, readParity, readStop, readWait]
  fits t s read := by
    simp only [form, ofTree?, Option.bind_eq_bind, Option.bind_eq_some_iff] at read
    obtain ⟨fields, -, read⟩ := read
    split at read
    · simp only [Option.bind_eq_some_iff, Option.some.injEq] at read
      obtain ⟨-, -, baudRate, ⟨_, -, smallRate⟩, dataBits, ⟨_, -, smallData⟩, -, -, stopBits,
        ⟨_, -, smallStop⟩, wait, ⟨_, -, carried⟩, rfl⟩ := read
      exact ⟨le_of_natAtMost? smallRate, le_of_natAtMost? smallData, le_of_natAtMost? smallStop,
        Wait.fits_of_ofTree? carried⟩
    · cases read

end SerialSettings

end AisFeed
