import AisFeed.Proofs.Sentence.Acceptance

/-!
# What decides about a line

A line without a spelling is passed over or unrecognized, by the word that it starts with. A line
with one is checked for nine flaws in a fixed order (`Flaw.inOrder`), each of them said of the
spelling alone. The first that is there decides which error is told, and if none is, the line is
accepted. `Sentence.Verdict` puts this together, and `read_eq_iff_verdict` says that reading a
line comes to its verdict.
-/

set_option autoImplicit false

namespace AisFeed

open Text

/-! ## Lines that are passed over -/

/-- The line starts, after blank bytes, with one of the words for what is passed over. -/
def IsPassedOver (line : List UInt8) : Prop :=
  ∃ before rest, IsBlankRun before ∧ ∃ word ∈ ["$PFEC,", "$AIALR,", "$AIABK,", "$AITXT,"],
    line = before ++ (Utf8.bytesOf word ++ rest)

theorem exists_dollar_of_mem_ignorableStarts :
    ∀ word ∈ ignorableStarts, ∃ rest, word = 0x24 :: rest := by
  intro word mem
  simp only [ignorableStarts, List.map_cons, List.map_nil, List.mem_cons, List.not_mem_nil,
    or_false] at mem
  rcases mem with rfl | rfl | rfl | rfl <;> exact ⟨_, rfl⟩

theorem isIgnorable_iff {line : List UInt8} : isIgnorable line = true ↔ IsPassedOver line := by
  rw [isIgnorable, List.any_eq_true]
  constructor
  · rintro ⟨start, mem, isStart⟩
    obtain ⟨rest, whole⟩ := List.isPrefixOf_iff_prefix.1 isStart
    obtain ⟨word, known, rfl⟩ := List.mem_map.1 mem
    refine ⟨line.takeWhile isBlankByte, rest, fun _ => List.mem_takeWhile_imp, word, known, ?_⟩
    rw [whole, List.takeWhile_append_dropWhile]
  · rintro ⟨before, rest, blank, word, known, rfl⟩
    have mem : Utf8.bytesOf word ∈ ignorableStarts := List.mem_map_of_mem known
    obtain ⟨tail, start⟩ := exists_dollar_of_mem_ignorableStarts _ mem
    refine ⟨_, mem, List.isPrefixOf_iff_prefix.2 ⟨rest, ?_⟩⟩
    rw [start, List.cons_append, dropWhile_append_cons blank (by decide)]

/-- What starts like a sentence is not passed over. -/
theorem not_isIgnorable_of_mark {before : List UInt8} (blank : IsBlankRun before)
    (rest : List UInt8) : isIgnorable (before ++ 0x21 :: rest) = false := by
  rw [isIgnorable, dropWhile_append_cons blank (by decide)]
  rfl

theorem Spelling.Grammatical.not_isPassedOver {p : Spelling} (ok : p.Grammatical) :
    ¬IsPassedOver p.line := by
  rw [← isIgnorable_iff, line, not_isIgnorable_of_mark ok.before]
  exact Bool.false_ne_true

/-! ## Flaws -/

/-- What can be wrong with a line that has the parts of a sentence. -/
inductive Flaw where
  | checksumMismatch
  | defect (d : Defect)
  deriving DecidableEq, Repr

/-- What the fields of a body are checked for, in this order. -/
def Defect.ofFields : List Defect :=
  [.totalTooLarge, .numberTooLarge, .fillBitsTooLarge, .zeroTotal, .numberOutOfRange,
    .fillBitsOutOfRange, .payloadNotText]

/-- What a line is checked for, in this order. -/
def Flaw.inOrder : List Flaw :=
  .defect .checksumNotHex :: .checksumMismatch :: Defect.ofFields.map .defect

/-- The text of a defect tells it from the others. -/
theorem Defect.text_inj {d d' : Defect} (same : d.text = d'.text) : d = d' := by
  cases d <;> cases d' <;> first | rfl | exact absurd same (by decide)

theorem Defect.error_inj {d d' : Defect} {line : List UInt8}
    (same : d.error line = d'.error line) : d = d' := by
  rw [Defect.error, Defect.error, Error.malformed.injEq, String.append_left_inj,
    String.append_left_inj] at same
  exact text_inj same

namespace Spelling

/-- The two letters of the checksum, in upper case. -/
def sent (p : Spelling) : List Char :=
  [upperOfByte p.high, upperOfByte p.low]

/-- The total that the digits denote. -/
def total (p : Spelling) : Nat := ofDecimal (p.body.total.map charOfByte)

/-- The number that the digits denote. -/
def number (p : Spelling) : Nat := ofDecimal (p.body.number.map charOfByte)

/-- The fill bits that the digits denote. -/
def fillBits (p : Spelling) : Nat := ofDecimal (p.body.fillBits.map charOfByte)

/-- Is the flaw there, whatever others are? -/
def Has (p : Spelling) : Flaw → Prop
  | .defect .checksumNotHex => ¬∃ v, p.sent = hexByte v
  | .checksumMismatch => p.sent ≠ hexByte p.parity
  | .defect .totalTooLarge => 255 < p.total
  | .defect .numberTooLarge => 255 < p.number
  | .defect .fillBitsTooLarge => 255 < p.fillBits
  | .defect .zeroTotal => p.total = 0
  | .defect .numberOutOfRange => p.number = 0 ∨ p.total < p.number
  | .defect .fillBitsOutOfRange => 5 < p.fillBits
  | .defect .payloadNotText => ¬∃ text, p.body.payload = Utf8.bytesOf text

/-- What is told of a flaw. A checksum that differs is told with the one that was sent. -/
inductive Tells (p : Spelling) : Flaw → Error → Prop where
  | defect (d : Defect) : Tells p (.defect d) (d.error p.line)
  | checksumMismatch (v : UInt8) (sent : p.sent = hexByte v) :
      Tells p .checksumMismatch (.checksumMismatch v p.parity)

theorem transmitted?_eq_some_iff {p : Spelling} {v : UInt8} :
    p.frame.transmitted? = some v ↔ p.sent = hexByte v :=
  Frame.transmitted?_eq_some_iff

theorem transmitted?_eq_none_iff {p : Spelling} :
    p.frame.transmitted? = none ↔ p.Has (.defect .checksumNotHex) := by
  simp only [Has, Option.eq_none_iff_forall_ne_some, ne_eq, transmitted?_eq_some_iff, not_exists]

theorem string?_payload_eq_none_iff {p : Spelling} :
    Utf8.string? p.body.payload = none ↔ p.Has (.defect .payloadNotText) := by
  simp only [Has, Option.eq_none_iff_forall_ne_some, ne_eq, Utf8.string?_eq_some_iff, not_exists]

instance (p : Spelling) : DecidablePred p.Has
  | .checksumMismatch => inferInstanceAs (Decidable (_ ≠ _))
  | .defect .checksumNotHex => decidable_of_iff _ transmitted?_eq_none_iff
  | .defect .totalTooLarge => inferInstanceAs (Decidable (_ < _))
  | .defect .numberTooLarge => inferInstanceAs (Decidable (_ < _))
  | .defect .fillBitsTooLarge => inferInstanceAs (Decidable (_ < _))
  | .defect .zeroTotal => inferInstanceAs (Decidable (_ = _))
  | .defect .numberOutOfRange => inferInstanceAs (Decidable (_ ∨ _))
  | .defect .fillBitsOutOfRange => inferInstanceAs (Decidable (_ < _))
  | .defect .payloadNotText => decidable_of_iff _ string?_payload_eq_none_iff

/-- The first flaw that is there, in the order of the checks. -/
def firstFlaw? (p : Spelling) : Option Flaw :=
  Flaw.inOrder.find? fun flaw => p.Has flaw

/-- The first defect of the fields that is there. -/
def firstDefect? (p : Spelling) : Option Defect :=
  Defect.ofFields.find? fun d => p.Has (.defect d)

theorem firstFlaw?_of_notHex {p : Spelling} (bad : p.Has (.defect .checksumNotHex)) :
    p.firstFlaw? = some (.defect .checksumNotHex) :=
  List.find?_cons_of_pos (decide_eq_true bad)

theorem firstFlaw?_of_mismatch {p : Spelling} (hex : ¬p.Has (.defect .checksumNotHex))
    (bad : p.Has .checksumMismatch) : p.firstFlaw? = some .checksumMismatch := by
  rw [firstFlaw?, Flaw.inOrder, List.find?_cons_of_neg (by simpa using hex)]
  exact List.find?_cons_of_pos (decide_eq_true bad)

/-- With the right checksum, the fields decide. -/
theorem firstFlaw?_of_match {p : Spelling} (hex : ¬p.Has (.defect .checksumNotHex))
    (right : ¬p.Has .checksumMismatch) :
    p.firstFlaw? = p.firstDefect?.map Flaw.defect := by
  rw [firstFlaw?, Flaw.inOrder, List.find?_cons_of_neg (by simpa using hex),
    List.find?_cons_of_neg (by simpa using right), List.find?_map]
  rfl

/-- A result follows checks for defects: it is the first defect that is there, or, if none is, a
sentence. -/
def Follows (p : Spelling) (checks : List Defect) (result : Except Defect Sentence) : Prop :=
  match checks.find? fun d => p.Has (.defect d) with
  | some d => result = .error d
  | none => ∃ s, result = .ok s

/-- A check before others. -/
theorem Follows.check {p : Spelling} {d : Defect} {checks : List Defect}
    {result : Except Defect Sentence} (later : ¬p.Has (.defect d) → p.Follows checks result) :
    p.Follows (d :: checks) (if p.Has (.defect d) then .error d else result) := by
  unfold Follows
  by_cases bad : p.Has (.defect d)
  · rw [List.find?_cons_of_pos (by simpa using bad), if_pos bad]
  · rw [List.find?_cons_of_neg (by simpa using bad), if_neg bad]
    exact later bad

/-- The fields of a body are checked in their order. -/
theorem follows_sentence (p : Spelling) (t : Time) :
    p.Follows Defect.ofFields (p.body.sentence t) := by
  unfold Body.sentence Defect.ofFields
  simp only [numberOf_eq_ofDecimal]
  apply Follows.check (d := .totalTooLarge)
  intro _
  apply Follows.check (d := .numberTooLarge)
  intro _
  apply Follows.check (d := .fillBitsTooLarge)
  intro _
  apply Follows.check (d := .zeroTotal)
  intro _
  apply Follows.check (d := .numberOutOfRange)
  intro _
  apply Follows.check (d := .fillBitsOutOfRange)
  intro _
  unfold Follows
  cases text : Utf8.string? p.body.payload with
  | none =>
    have bad := string?_payload_eq_none_iff.1 text
    rw [List.find?_cons_of_pos (by simpa using bad)]
  | some payload =>
    have good : ¬p.Has (.defect .payloadNotText) := by
      rw [← string?_payload_eq_none_iff, text]
      exact Option.some_ne_none payload
    rw [List.find?_cons_of_neg (by simpa using good)]
    exact ⟨_, rfl⟩

theorem read_of_transmitted_none {p : Spelling} (ok : p.Grammatical)
    (notHex : p.frame.transmitted? = none) (t : Time) :
    Sentence.read p.line t = .error (Defect.checksumNotHex.error p.line) := by
  rw [Sentence.read, ok.parts?]
  simp only [notHex]

theorem read_of_transmitted_some {p : Spelling} (ok : p.Grammatical) {v : UInt8}
    (sent : p.frame.transmitted? = some v) (t : Time) :
    Sentence.read p.line t =
      if v ≠ p.parity then .error (.checksumMismatch v p.parity)
      else match p.body.sentence t with
        | .error d => .error (d.error p.line)
        | .ok s => .ok (some s) := by
  rw [Sentence.read, ok.parts?]
  simp only [sent]
  rfl

/-- A spelled line is read as its first flaw tells, and as a sentence that it denotes if it has no
flaw. -/
theorem read_line {p : Spelling} (ok : p.Grammatical) (t : Time) :
    (∃ flaw error, p.firstFlaw? = some flaw ∧ p.Tells flaw error ∧
      Sentence.read p.line t = .error error) ∨
    (p.firstFlaw? = none ∧ ∃ s, p.Denotes s ∧ s.receivedAt = t ∧
      Sentence.read p.line t = .ok (some s)) := by
  cases sent : p.frame.transmitted? with
  | none =>
    have bad := transmitted?_eq_none_iff.1 sent
    exact Or.inl ⟨_, _, firstFlaw?_of_notHex bad, .defect _, read_of_transmitted_none ok sent t⟩
  | some v =>
    have hex : ¬p.Has (.defect .checksumNotHex) := by
      rw [← transmitted?_eq_none_iff, sent]
      exact Option.some_ne_none v
    have read := read_of_transmitted_some ok sent t
    by_cases right : v = p.parity
    · have agrees : ¬p.Has .checksumMismatch := by
        rw [right] at sent
        exact not_not.2 (transmitted?_eq_some_iff.1 sent)
      have fields := p.follows_sentence t
      rw [if_neg (not_not.2 right)] at read
      rw [firstFlaw?_of_match hex agrees]
      rw [Follows, ← firstDefect?] at fields
      cases first : p.firstDefect? with
      | some d =>
        rw [first] at fields
        rw [fields] at read
        exact Or.inl ⟨_, _, rfl, .defect d, read⟩
      | none =>
        rw [first] at fields
        obtain ⟨s, made⟩ := fields
        rw [made] at read
        obtain ⟨received, q, denotes, same⟩ := Sentence.exists_denotes read
        obtain rfl := line_inj denotes.toGrammatical ok same
        exact Or.inr ⟨rfl, s, denotes, received, read⟩
    · have differs : p.Has .checksumMismatch := by
        intro same
        rw [← transmitted?_eq_some_iff, sent] at same
        exact right (Option.some.inj same)
      rw [if_pos right] at read
      exact Or.inl ⟨_, _, firstFlaw?_of_mismatch hex differs,
        .checksumMismatch v (transmitted?_eq_some_iff.1 sent), read⟩

/-- A flaw is told in one way. -/
theorem Tells.unique {p : Spelling} {flaw : Flaw} {error error' : Error}
    (told : p.Tells flaw error) (told' : p.Tells flaw error') : error = error' := by
  cases told with
  | defect d =>
    cases told'
    rfl
  | checksumMismatch v sent =>
    cases told' with
    | checksumMismatch v' sent' =>
      have same : some v = some v' := by
        rw [← transmitted?_eq_some_iff.2 sent, transmitted?_eq_some_iff.2 sent']
      rw [Option.some.inj same]

/-- Nothing is told of the fields as long as the checksum is wrong. -/
theorem sent_of_first_defect {p : Spelling} {d : Defect} (first : p.firstFlaw? = some (.defect d))
    (field : d ≠ .checksumNotHex) : p.sent = hexByte p.parity := by
  by_contra differs
  by_cases hex : p.Has (.defect .checksumNotHex)
  · rw [firstFlaw?_of_notHex hex, Option.some.injEq, Flaw.defect.injEq] at first
    exact field first.symm
  · rw [firstFlaw?_of_mismatch hex differs] at first
    cases first

end Spelling

namespace Sentence

/-! ## Verdicts -/

/-- What is to come of a line that is received at a time. -/
inductive Verdict (line : List UInt8) (t : Time) : Except Error (Option Sentence) → Prop where
  | passedOver (unspelled : ∀ p : Spelling, p.Grammatical → p.line ≠ line)
      (known : IsPassedOver line) : Verdict line t (.ok none)
  | unrecognized (unspelled : ∀ p : Spelling, p.Grammatical → p.line ≠ line)
      (unknown : ¬IsPassedOver line) : Verdict line t (.error (.unrecognized (lineText line)))
  | rejected {p : Spelling} {flaw : Flaw} {error : Error} (ok : p.Grammatical)
      (spelled : p.line = line) (first : p.firstFlaw? = some flaw)
      (told : p.Tells flaw error) : Verdict line t (.error error)
  | accepted {p : Spelling} {s : Sentence} (spelled : p.line = line)
      (sound : p.firstFlaw? = none) (denotes : p.Denotes s) (received : s.receivedAt = t) :
      Verdict line t (.ok (some s))

variable {line : List UInt8} {t : Time}

theorem parts?_eq_none_iff :
    Frame.parts? line = none ↔ ∀ p : Spelling, p.Grammatical → p.line ≠ line := by
  constructor
  · intro none p ok same
    rw [← same, ok.parts?] at none
    cases none
  · intro unspelled
    rw [Option.eq_none_iff_forall_ne_some]
    rintro ⟨f, b⟩ some
    obtain ⟨p, ok, same, -⟩ := Spelling.parts?_eq_some_iff.1 some
    exact unspelled p ok same

theorem read_of_unspelled (unspelled : ∀ p : Spelling, p.Grammatical → p.line ≠ line) (t : Time) :
    read line t =
      if isIgnorable line then .ok none else .error (.unrecognized (lineText line)) := by
  rw [read, parts?_eq_none_iff.2 unspelled]

theorem verdict_read (line : List UInt8) (t : Time) : Verdict line t (read line t) := by
  by_cases spelled : ∃ p : Spelling, p.Grammatical ∧ p.line = line
  · obtain ⟨p, ok, rfl⟩ := spelled
    rcases Spelling.read_line ok t with ⟨flaw, error, first, told, read⟩ |
      ⟨sound, s, denotes, received, read⟩
    · rw [read]
      exact .rejected ok rfl first told
    · rw [read]
      exact .accepted rfl sound denotes received
  · have unspelled : ∀ p : Spelling, p.Grammatical → p.line ≠ line := by simpa using spelled
    rw [read_of_unspelled unspelled]
    by_cases known : isIgnorable line = true
    · rw [if_pos known]
      exact .passedOver unspelled (isIgnorable_iff.1 known)
    · rw [if_neg known]
      exact .unrecognized unspelled (mt isIgnorable_iff.2 known)

theorem read_of_verdict {result : Except Error (Option Sentence)}
    (verdict : Verdict line t result) : read line t = result := by
  cases verdict with
  | passedOver unspelled known =>
    rw [read_of_unspelled unspelled, if_pos (isIgnorable_iff.2 known)]
  | unrecognized unspelled unknown =>
    rw [read_of_unspelled unspelled, if_neg (mt isIgnorable_iff.1 unknown)]
  | rejected ok spelled first told =>
    subst spelled
    rcases Spelling.read_line ok t with ⟨flaw, error, first', told', read⟩ | ⟨sound, -⟩
    · rw [first, Option.some.injEq] at first'
      subst first'
      rw [read, told'.unique told]
    · rw [first] at sound
      cases sound
  | accepted spelled sound denotes received =>
    rw [← spelled, ← received]
    exact denotes.read

/-- **The first check that fails decides.** A line is read as its verdict says, a line has at most
one spelling, no line with a spelling is one that is passed over, and nothing is told of a field
unless the checksum is the one that was sent. -/
theorem read_eq_iff_verdict (line : List UInt8) (t : Time) :
    (∀ result, read line t = result ↔ Verdict line t result) ∧
    (∀ p q : Spelling, p.Grammatical → q.Grammatical → p.line = line → q.line = line → p = q) ∧
    (∀ p : Spelling, p.Grammatical → p.line = line → ¬IsPassedOver line) ∧
    ∀ (p : Spelling) (d : Defect), p.Grammatical → p.line = line → d ≠ .checksumNotHex →
      read line t = .error (d.error line) → p.sent = hexByte p.parity := by
  refine ⟨fun result => ⟨?_, read_of_verdict⟩, ?_, ?_, ?_⟩
  · rintro rfl
    exact verdict_read line t
  · rintro p q hp hq rfl same
    exact Spelling.line_inj hp hq same.symm
  · rintro p ok rfl
    exact ok.not_isPassedOver
  · rintro p d ok rfl field told
    rcases Spelling.read_line ok t with ⟨flaw, error, first, tells, read⟩ | ⟨-, s, -, -, read⟩
    · rw [told, Except.error.injEq] at read
      cases tells with
      | defect d' =>
        obtain rfl := Defect.error_inj read
        exact Spelling.sent_of_first_defect first field
      | checksumMismatch v sent => cases read
    · rw [told] at read
      cases read

/-- The first flaw of a line with two of them: a wrong checksum, and more fill bits than there can
be. With its own checksum the fill bits are told. -/
theorem read_eq_iff_verdict_mismatch :
    let line := Utf8.bytesOf "!AIVDM,1,1,,A,15NPOOPP00o?b=bE\x60UNv4?w428D?,6*7A"
    let other := Utf8.bytesOf "!AIVDM,1,1,,A,15NPOOPP00o?b=bE\x60UNv4?w428D?,6*26"
    Verdict line .epoch (.error (.checksumMismatch 0x7A 0x26)) ∧
      Verdict other .epoch (.error (Defect.fillBitsOutOfRange.error other)) := by
  intro line other
  exact ⟨((read_eq_iff_verdict line .epoch).1 _).1 (by decide +kernel),
    ((read_eq_iff_verdict other .epoch).1 _).1 (by decide +kernel)⟩

end Sentence

end AisFeed
