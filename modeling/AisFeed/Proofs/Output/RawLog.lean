import AisFeed.Proofs.Json.OneLine
import AisFeed.Proofs.Lines.Cutting
import AisFeed.Proofs.Output.TimeColumn
import AisFeed.Proofs.Storage
import AisFeed.Proofs.Text.Utf8

/-!
# Logs of records are read back

Sessions at one path leave one file: a header and then all rows, in the order in which they were
added, whichever session they belong to (`CsvLog.sessions_of_vacant`). A row stands in one line if
neither the address nor the body of its record has a line break. Though nothing in a body is escaped
it is found again: it is what stands behind the third comma, and commas are neither in a time nor in
a port (`RawRow.ofText?_csvRow`). Main statement: `rawLog_recovered`.
-/

set_option autoImplicit false

namespace AisFeed

open Text

/-! ## Sessions -/

namespace CsvLog

variable {α : Type} (log : CsvLog α) {s : Storage} {path : String} {r : Route} {bytes : List UInt8}

/-- Nothing is added by no rows. -/
theorem addAll_nil (s : Storage) (r : Route) : log.addAll s r [] = s :=
  s.append_nil r

/-- Rows that are added later are behind those that were added before. -/
theorem addAll_append (s : Storage) (r : Route) (items later : List α) :
    log.addAll s r (items ++ later) = log.addAll (log.addAll s r items) r later := by
  rw [addAll, addAll, addAll, Storage.append_append, List.flatMap_append]

/-- Rows are added one after the other or all at once. -/
theorem foldl_add (s : Storage) (r : Route) (items : List α) :
    items.foldl (fun s a => log.add s r a) s = log.addAll s r items := by
  induction items generalizing s with
  | nil => exact (log.addAll_nil s r).symm
  | cons a items ih =>
    have first : log.add s r a = log.addAll s r [a] := by
      rw [add, addAll, List.flatMap_singleton]
    rw [List.foldl_cons, ih, first, ← addAll_append]
    rfl

theorem session_of_file (found : s.place path = .file r bytes) (items : List α) :
    log.session s path items = .ok (log.addAll s r items) := by
  have there : s.leadsSomewhere path = true := by rw [Storage.leadsSomewhere, found]
  rw [session, openIn, Storage.openToAppend_of_file found]
  dsimp only
  rw [if_pos there]
  dsimp only
  rw [foldl_add]

/-- A file that a log has made. -/
def created (log : CsvLog α) (s : Storage) (r : Route) : Storage :=
  (s.make r).append r (lineBytes log.header.toList)

theorem session_of_vacant (vacant : s.place path = .vacant r) (items : List α) :
    log.session s path items = .ok (log.addAll (log.created s r) r items) := by
  have missing : s.leadsSomewhere path = false := by rw [Storage.leadsSomewhere, vacant]
  rw [session, openIn, Storage.openToAppend_of_vacant vacant]
  dsimp only
  rw [missing, if_neg Bool.false_ne_true]
  dsimp only
  rw [foldl_add]
  rfl

/-- Where there is a fault no session comes about. -/
theorem session_of_fault {error : IoError} (fault : s.place path = .fault error) (items : List α) :
    ∃ failure, log.session s path items = .error failure := by
  obtain ⟨error, refused⟩ := Storage.openToAppend_of_fault fault
  rw [session, openIn, refused]
  exact ⟨_, rfl⟩

theorem isStored_addAll (stored : s.IsStored path r bytes) (items : List α) :
    (log.addAll s r items).IsStored path r
      (bytes ++ items.flatMap fun a => lineBytes (log.row a)) :=
  stored.append _

theorem isStored_created (vacant : s.place path = .vacant r) :
    (log.created s r).IsStored path r (lineBytes log.header.toList) :=
  (Storage.isStored_make vacant).append _

/-- Sessions at a file add all their rows to it. -/
theorem sessions_of_stored (stored : s.IsStored path r bytes) (sessions : List (List α)) :
    log.sessions s path sessions = .ok (log.addAll s r sessions.flatten) := by
  induction sessions generalizing s bytes with
  | nil =>
    rw [CsvLog.sessions, List.flatten_nil, addAll_nil]
  | cons items rest ih =>
    rw [CsvLog.sessions, session_of_file log stored.place]
    dsimp only
    rw [ih (log.isStored_addAll stored items), List.flatten_cons, addAll_append]

/-- The first of several sessions makes the file, and all rows are behind the header. -/
theorem sessions_of_vacant (vacant : s.place path = .vacant r) {sessions : List (List α)}
    (some' : sessions ≠ []) :
    log.sessions s path sessions = .ok (log.addAll (log.created s r) r sessions.flatten) := by
  obtain ⟨items, rest, rfl⟩ := List.exists_cons_of_ne_nil some'
  rw [CsvLog.sessions, session_of_vacant log vacant]
  dsimp only
  rw [sessions_of_stored log (log.isStored_addAll (log.isStored_created vacant) items),
    List.flatten_cons, addAll_append]

/-- No other file changes. -/
theorem file?_addAll_created {other : Route} (ne : other ≠ r) (items : List α) :
    (log.addAll (log.created s r) r items).file? other = s.file? other := by
  rw [addAll, Storage.file?_append_of_ne ne, created, Storage.file?_append_of_ne ne,
    Storage.file?_make_of_ne ne]

end CsvLog

/-! ## Rows -/

/-- What a row of a record tells. -/
structure RawRow where
  seconds : Int
  micros : Nat
  /-- The host of the sender, nothing if none is known. -/
  address : List Char
  port : Option Nat
  body : List Char
  deriving DecidableEq, Repr

namespace RawRow

/-- Read a port, which is left out if none is known. -/
def port? (text : List Char) : Option (Option Nat) :=
  if text.isEmpty then some none
  else if FixedPoint.isNumeral text then some (some (ofDecimal text))
  else none

/-- What stands between a quote at the start and one at the end. -/
def body? : List Char → Option (List Char)
  | [] => none
  | quote :: rest =>
    if quote = '\x27' ∧ rest.getLast? = some '\x27' then some rest.dropLast else none

/-- Read a row: time, address and port are followed by commas, and the body is all the rest. -/
def ofText? (text : List Char) : Option RawRow := do
  let (time, rest) ← cutAt? ',' text
  let (address, rest) ← cutAt? ',' rest
  let (port, rest) ← cutAt? ',' rest
  let time ← FixedPoint.ofText? time
  let port ← port? port
  let body ← body? rest
  return ⟨time.signed, ofDecimal time.fraction, address, port, body⟩

/-- Read a line of a file. -/
def ofLine? (line : List UInt8) : Option RawRow :=
  (Utf8.decode? line).bind ofText?

theorem body?_quoted (body : List Char) : body? ('\x27' :: (body ++ ['\x27'])) = some body := by
  rw [body?, if_pos ⟨rfl, List.getLast?_concat⟩, List.dropLast_concat]

end RawRow

namespace Record

/-- What is to be found in the row of a record. The body is the text of its bytes without blanks at
its ends. -/
def rawRow (r : Record) : RawRow :=
  ⟨r.receivedAt.seconds, r.receivedAt.nanos / 1000, (r.address.getD "").toList, r.port,
    trim (Utf8.lossy r.bytes)⟩

/-- Neither a comma nor a line break is in the address, and no line break in the body. -/
structure IsPlain (r : Record) : Prop where
  noComma : ∀ address ∈ r.address, ',' ∉ address.toList
  noBreak : ∀ address ∈ r.address, '\n' ∉ address.toList
  oneLine : '\n' ∉ trim (Utf8.lossy r.bytes)

/-- The text of a port in a row. -/
def portText (r : Record) : List Char :=
  match r.port with
  | none => []
  | some port => decimal port

theorem csvRow_eq (r : Record) :
    r.csvRow = r.receivedAt.epochText ++ ',' :: ((r.address.getD "").toList ++ ',' :: (r.portText ++
      ',' :: '\x27' :: (trim (Utf8.lossy r.bytes) ++ ['\x27']))) := by
  simp only [csvRow, List.append_assoc, List.cons_append, List.nil_append]
  rfl

theorem isDigit_of_mem_portText {r : Record} {c : Char} (mem : c ∈ r.portText) :
    c.isDigit = true := by
  unfold portText at mem
  split at mem
  · cases mem
  · exact isDigit_of_mem_decimal mem

theorem port?_portText (r : Record) : RawRow.port? r.portText = some r.port := by
  unfold portText RawRow.port?
  cases r.port with
  | none => rfl
  | some port =>
    have digits : (decimal port).isEmpty = false :=
      List.isEmpty_eq_false_iff.2 (decimal_ne_nil port)
    dsimp only
    rw [digits, if_neg Bool.false_ne_true, FixedPoint.isNumeral_decimal, if_pos rfl,
      ofDecimal_decimal]

/-- What is not in the address of a record, if it is known, is not in the text for it. -/
theorem not_mem_address {r : Record} {c : Char} (none : ∀ address ∈ r.address, c ∉ address.toList) :
    c ∉ (r.address.getD "").toList := by
  cases known : r.address with
  | none => exact List.not_mem_nil
  | some address => exact none address known

/-- A row is read back, whatever stands in the body. -/
theorem ofText?_csvRow {r : Record} (noComma : ∀ address ∈ r.address, ',' ∉ address.toList) :
    RawRow.ofText? r.csvRow = some r.rawRow := by
  have time : ',' ∉ r.receivedAt.epochText :=
    Time.not_mem_epochText (by decide) (by decide) (by decide) _
  have port : ',' ∉ r.portText := fun mem => by cases isDigit_of_mem_portText mem
  rw [csvRow_eq, RawRow.ofText?, cutAt?_append time]
  dsimp only [Option.bind_eq_bind, Option.bind_some]
  rw [cutAt?_append (not_mem_address noComma)]
  dsimp only [Option.bind_some]
  rw [cutAt?_append port]
  dsimp only [Option.bind_some]
  rw [Time.epochText_eq, FixedPoint.ofText?_decimalInt _ (FixedPoint.isNumeral_decimalPadded _ _),
    port?_portText, RawRow.body?_quoted]
  dsimp only [Option.bind_some, Option.pure_def]
  rw [FixedPoint.signed_natAbs, ofDecimal_decimalPadded]
  rfl

theorem newline_not_mem_csvRow {r : Record} (plain : r.IsPlain) : '\n' ∉ r.csvRow := by
  have time : '\n' ∉ r.receivedAt.epochText :=
    Time.not_mem_epochText (by decide) (by decide) (by decide) _
  have port : '\n' ∉ r.portText := fun mem => by cases isDigit_of_mem_portText mem
  rw [csvRow_eq]
  simp [time, port, plain.oneLine, not_mem_address plain.noBreak]

/-- The line of a row is read back. -/
theorem ofLine?_csvRow {r : Record} (plain : r.IsPlain) :
    RawRow.ofLine? (Utf8.encode r.csvRow) = some r.rawRow := by
  rw [RawRow.ofLine?, Utf8.decode?_eq_some_iff.2 rfl, Option.bind_some,
    ofText?_csvRow plain.noComma]

end Record

/-! ## Files -/

/-- The bytes of a file are a log of records: a header and a line for each record, and nothing
behind the last. -/
structure IsRawLog (file : List UInt8) (records : List Record) : Prop where
  whole : cutLines file =
    (Utf8.bytesOf "t,ipAddr,port,body" :: records.map fun r => Utf8.encode r.csvRow, [])
  /-- The header is no row. -/
  once : ∀ r ∈ records, Utf8.encode r.csvRow ≠ Utf8.bytesOf "t,ipAddr,port,body"
  recovered : (records.map fun r => RawRow.ofLine? (Utf8.encode r.csvRow)) =
    records.map fun r => some r.rawRow

theorem CsvLog.lineBytes_eq (text : List Char) :
    lineBytes text = Utf8.encode text ++ [lineFeed] := by
  rw [lineBytes, Utf8.encode_append]
  rfl

theorem ofLine?_header : RawRow.ofLine? (Utf8.bytesOf "t,ipAddr,port,body") = none := by
  have text : Utf8.decode? (Utf8.bytesOf "t,ipAddr,port,body") = some "t,ipAddr,port,body".toList :=
    Utf8.decode?_eq_some_iff.2 rfl
  rw [RawRow.ofLine?, text]
  rfl

/-- The header and the rows of plain records are lines. -/
theorem isRawLog_rows {records : List Record} (plain : ∀ r ∈ records, r.IsPlain) :
    IsRawLog (CsvLog.lineBytes rawLog.header.toList ++
      records.flatMap fun r => CsvLog.lineBytes (rawLog.row r)) records where
  whole := by
    apply IsLines.cutLines_eq
    refine ⟨?_, ?_, List.not_mem_nil⟩
    · simp only [CsvLog.lineBytes_eq, List.flatMap_cons, List.flatMap_map, List.append_nil]
      rfl
    · intro line mem
      rcases List.mem_cons.1 mem with rfl | mem
      · exact Utf8.newline_not_mem_encode (by decide)
      · obtain ⟨r, inside, rfl⟩ := List.mem_map.1 mem
        exact Utf8.newline_not_mem_encode (Record.newline_not_mem_csvRow (plain r inside))
  once := by
    intro r mem same
    have read := Record.ofLine?_csvRow (plain r mem)
    rw [same, ofLine?_header] at read
    cases read
  recovered := List.map_congr_left fun r mem => Record.ofLine?_csvRow (plain r mem)

/-- **A log of records is only added to, and read back.** At a path that leads nowhere, either there
is a fault and no session comes about, or sessions leave a file. It is a header and a line for each
record in the order in which they came, whichever session they came in, if no address has a comma or
a line break and no body a line break; and each line alone tells the seconds and microseconds, the
address, the port and the body of its record. No other file changes, and what earlier sessions have
written is the start of what there is after later ones. -/
theorem rawLog_recovered {s : Storage} {path : String} (absent : s.leadsSomewhere path = false) :
    (∃ error, s.place path = .fault error ∧
      ∀ records, ∃ failure, rawLog.session s path records = .error failure) ∨
    ∃ r, s.place path = .vacant r ∧ ∀ sessions : List (List Record), sessions ≠ [] →
      ∃ s' file, rawLog.sessions s path sessions = .ok s' ∧ s'.bytesAt path = some file ∧
        ((∀ record ∈ sessions.flatten, record.IsPlain) → IsRawLog file sessions.flatten) ∧
        (∀ other, other ≠ r → s'.file? other = s.file? other) ∧
        ∀ earlier later, sessions = earlier ++ later → earlier ≠ [] →
          ∃ s₁ file₁, rawLog.sessions s path earlier = .ok s₁ ∧
            rawLog.sessions s₁ path later = .ok s' ∧ s₁.bytesAt path = some file₁ ∧
            file₁ <+: file := by
  cases place : s.place path with
  | file r bytes =>
    rw [Storage.leadsSomewhere, place] at absent
    cases absent
  | directory =>
    rw [Storage.leadsSomewhere, place] at absent
    cases absent
  | fault error => exact Or.inl ⟨error, rfl, rawLog.session_of_fault place⟩
  | vacant r =>
    refine Or.inr ⟨r, rfl, fun sessions nonempty => ?_⟩
    have stored (records : List Record) :=
      rawLog.isStored_addAll (rawLog.isStored_created place) records
    refine ⟨_, _, rawLog.sessions_of_vacant place nonempty, (stored sessions.flatten).bytesAt,
      isRawLog_rows, fun other ne => rawLog.file?_addAll_created ne _, ?_⟩
    rintro earlier later rfl nonempty'
    refine ⟨_, _, rawLog.sessions_of_vacant place nonempty', ?_,
      (stored earlier.flatten).bytesAt, ?_⟩
    · rw [rawLog.sessions_of_stored (stored earlier.flatten), List.flatten_append,
        CsvLog.addAll_append]
    · rw [List.flatten_append, List.flatMap_append, ← List.append_assoc]
      exact List.prefix_append _ _

/-- Two records in a file that is opened three times. The body of the first has commas, quotes and a
carriage return within, and of the second no sender is known. -/
theorem rawLog_recovered_reopened :
    let known : Record := ⟨⟨-2, 250000999, by decide, by decide, by decide, by decide⟩,
      some "10.1.2.3", some 4001, Utf8.bytesOf " a,'b'\r,,'c\r\n"⟩
    let unknown : Record := .ofBytes .epoch (Utf8.bytesOf "',")
    let written := Utf8.bytesOf "t,ipAddr,port,body\n-2.250000,10.1.2.3,4001,'a,'b'\r,,'c'\n"
    let more := Utf8.bytesOf "0.000000,,,'','\n"
    Storage.empty.leadsSomewhere "raw.csv" = false ∧
      (∃ s s', rawLog.sessions .empty "raw.csv" [[known]] = .ok s ∧
        rawLog.sessions s "raw.csv" [[], [unknown]] = .ok s' ∧
        s.bytesAt "raw.csv" = some written ∧ s'.bytesAt "raw.csv" = some (written ++ more) ∧
        IsRawLog (written ++ more) [known, unknown] ∧ s'.file? ["other"] = none) ∧
      known.rawRow = ⟨-2, 250000, "10.1.2.3".toList, some 4001, "a,'b'\r,,'c".toList⟩ ∧
      unknown.rawRow = ⟨0, 0, [], none, "',".toList⟩ := by
  intro known unknown written more
  have absent : Storage.empty.leadsSomewhere "raw.csv" = false := by decide +kernel
  have plain : ∀ record ∈ [known, unknown], record.IsPlain := by
    refine List.forall_mem_cons.2 ⟨⟨?_, ?_, ?_⟩, List.forall_mem_singleton.2 ⟨?_, ?_, ?_⟩⟩ <;>
      decide +kernel
  have room : Storage.empty.place "raw.csv" = .vacant ["raw.csv"] := by decide +kernel
  have made : (rawLog.sessions .empty "raw.csv" [[known]]).map (·.bytesAt "raw.csv") =
      .ok (some written) := by
    decide +kernel
  have made' : (rawLog.sessions .empty "raw.csv" [[known], [], [unknown]]).map
      (·.bytesAt "raw.csv") = .ok (some (written ++ more)) := by
    decide +kernel
  refine ⟨absent, ?_, by decide +kernel, by decide +kernel⟩
  obtain ⟨_, fault, -⟩ | ⟨r, vacant, left⟩ := rawLog_recovered absent
  · cases room.symm.trans fault
  · cases room.symm.trans vacant
    obtain ⟨s', file', all, held, read, frame, grows⟩ :=
      left [[known], [], [unknown]] (List.cons_ne_nil _ _)
    obtain ⟨s, file, first, later, held', -⟩ :=
      grows [[known]] [[], [unknown]] rfl (List.cons_ne_nil _ _)
    rw [first] at made
    rw [all] at made'
    have same : s.bytesAt "raw.csv" = some written := Except.ok.inj made
    have same' : s'.bytesAt "raw.csv" = some (written ++ more) := Except.ok.inj made'
    obtain rfl : file' = written ++ more := Option.some.inj (held.symm.trans same')
    exact ⟨s, s', first, later, same, same', read plain, frame ["other"] (by decide)⟩

end AisFeed
