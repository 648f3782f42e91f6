import AisFeed.Proofs.Capture.Lines
import AisFeed.Proofs.Pipeline.Delivery
import AisFeed.Proofs.Source.Serial

/-!
# Surveys and listeners

A survey reads the lines of a file, a listener those of a serial line, and both hand them to a
decoder. If no line is too long for the buffer of the listener, it gets the lines of the file from
the same bytes, whatever blocks they come in. So if the times are the same as well, its decoder
counts the same, in any order of the steps of the pipeline (`Survey.agrees_with_live`).
-/

set_option autoImplicit false

namespace AisFeed

/-! ## What a serial line yields -/

/-- Readings after which a run goes on, and then one with a fatal error. -/
theorem Reading.yields_append {name : String} {isIdle : Bool} {before : List Reading}
    (goesOn : ∀ r ∈ before, r.GoesOn) {last : Reading} {error : Error} (calm : last.IsCalm)
    (fails : last.error = some error) (fatal : error.isFatal = true) (rest : List Reading) :
    Yields name isIdle (before ++ last :: rest)
      (before.flatMap Reading.records ++ last.records) error := by
  induction before with
  | nil => exact .failed calm fails fatal rest
  | cons r before ih =>
    have here := goesOn r List.mem_cons_self
    have later := ih fun r mem => goesOn r (List.mem_cons_of_mem _ mem)
    rw [List.flatMap_cons, List.append_assoc]
    exact .goesOn here.toIsCalm here.transient later

section SerialLine

variable {before : List DeviceReading} {last : DeviceReading}

/-- A serial line yields the records of its lines, and then it ends. -/
theorem SerialLine.yields_source (goesOn : ∀ r ∈ before, r.GoesOn) (ends : last.IsEnd)
    (s : SerialLine) (clock : Nat → Time) (after : List DeviceReading) :
    (s.source (before ++ last :: after) clock).Yields (s.recordsOf clock before)
      (.endOfInput s.name) := by
  obtain ⟨-, transient, -⟩ := readEach_goesOn goesOn s
  obtain ⟨ending, calm, fails, silent, readings⟩ := exists_ending goesOn ends s clock
  obtain ⟨rest, -, split⟩ := readings []
  rw [source_eq_sourceOfEach goesOn ends]
  show Reading.Yields s.name false (timed clock 0 (s.readEach (before ++ [last]))) _ _
  have records : s.recordsOf clock before =
      (timed clock 0 (s.readEach before)).flatMap Reading.records ++ ending.records := by
    rw [silent, List.append_nil, recordsOf]
  rw [split, records]
  exact Reading.yields_append (goesOn_timed transient clock 0) calm fails rfl rest

/-- The records are what the buffer makes of the blocks, without a sender. -/
theorem SerialLine.recordsOf_eq (goesOn : ∀ r ∈ before, r.GoesOn) (s : SerialLine)
    (clock : Nat → Time) :
    (s.recordsOf clock before).map Record.bytes =
        (s.buffer.extendAll (before.filterMap DeviceReading.block?)).2.1 ∧
      ∀ r ∈ s.recordsOf clock before, r = .ofBytes r.receivedAt r.bytes := by
  obtain ⟨lines, -, -⟩ := readEach_goesOn goesOn s
  obtain ⟨bytes, senders⟩ := records_timed clock 0 (s.readEach before)
  refine ⟨bytes.trans lines, fun r mem => ?_⟩
  obtain ⟨address, port⟩ := senders r mem
  rw [Record.ofBytes, ← address, ← port]

end SerialLine

/-! ## Listeners -/

theorem getElem?_arrivals (clock : Nat → Time) (n : Nat) (records : List Record) (i : Nat) :
    (arrivals clock n records)[i]? = records[i]?.map fun r => ⟨r, clock (n + i)⟩ := by
  induction records generalizing n i with
  | nil => rfl
  | cons r rest ih =>
    cases i with
    | zero => rfl
    | succ i =>
      rw [arrivals, List.getElem?_cons_succ, List.getElem?_cons_succ, ih, Nat.add_right_comm,
        Nat.add_assoc]

/-- A listener with the decoder of a survey, on a serial line that yields some bytes in whatever
blocks before it ends, with failures between them that are not its end. -/
structure SerialListener (limit : Option Nat) (bytes : List UInt8) where
  line : SerialLine
  before : List DeviceReading
  last : DeviceReading
  /-- What would be read after the end. -/
  after : List DeviceReading
  /-- When each reading is made. -/
  clock : Nat → Time
  pipeline : Pipeline
  /-- When each record is decoded. -/
  now : Nat → Time
  isNew : line.buffer = .new limit
  goesOn : ∀ r ∈ before, r.GoesOn
  ends : last.IsEnd
  brings : (before.filterMap DeviceReading.block?).flatten = bytes
  decoder : pipeline.decoder = Survey.decoder
  policy : pipeline.policy = .unbounded

namespace SerialListener

variable {limit : Option Nat} {bytes : List UInt8} (l : SerialListener limit bytes)

/-- What the listener listens to. -/
def source : Source :=
  l.line.source (l.before ++ l.last :: l.after) l.clock

/-- The records that the source yields. -/
def records : List Record :=
  l.line.recordsOf l.clock l.before

/-- When each record was received and is decoded. -/
def moments (i : Nat) : Survey.Moment :=
  ⟨(l.records[i]?).elim (l.now i) Record.receivedAt, l.now i⟩

theorem yields : l.source.Yields l.records (.endOfInput l.line.name) :=
  SerialLine.yields_source l.goesOn l.ends l.line l.clock l.after

/-- The lines of the records, taken at their moments, are the records. -/
theorem arrivals_eq :
    Survey.arrivals (l.records.map Record.bytes) l.moments = arrivals l.now 0 l.records := by
  obtain ⟨-, senders⟩ := SerialLine.recordsOf_eq l.goesOn l.line l.clock
  refine List.ext_getElem? fun i => ?_
  rw [getElem?_arrivals, Nat.zero_add, Survey.arrivals, List.getElem?_map, List.getElem?_zipIdx,
    List.getElem?_map]
  cases here : l.records[i]? with
  | none => rfl
  | some r =>
    have own : Record.ofBytes r.receivedAt r.bytes = r :=
      (senders r (List.mem_of_getElem? here)).symm
    simp only [Option.map_some, Nat.zero_add, moments, here, Option.elim_some, own]

/-- The records are the lines of the stream, if none is too long. -/
theorem records_eq {lines : List (List UInt8)} {rest : List UInt8} (cut : IsLines bytes lines rest)
    (short : ∀ n ∈ limit, ∀ line ∈ lines, line.length ≤ n) :
    l.records.map Record.bytes = keptLines lines := by
  rw [← l.brings] at cut
  rw [records, (SerialLine.recordsOf_eq l.goesOn l.line l.clock).1, l.isNew, cut.extendAll_eq short]

/-- A pipeline comes to its end in some order of its steps, and in each with the summary of the
records that were processed one after the other. -/
theorem returns {last : Decoder}
    (decodes : (Survey.decoder.processAll (arrivals l.now 0 l.records)).result = .ok last)
    {start : System} (launched : l.pipeline.launch l.source = .ok start) :
    (∃ schedule out, (start.run l.now schedule).shutdown? = some out) ∧
      ∀ schedule out, (start.run l.now schedule).shutdown? = some out →
        out.summary = last.summary := by
  rw [← l.decoder] at decodes
  have new := Pipeline.eq_new_of_launch launched
  subst new
  constructor
  · have ends : (l.source.run true l.pipeline.recordQueues).ending ≠ .waiting := by
      rw [Source.run, l.yields.ending]
      intro waiting
      cases waiting
    obtain ⟨schedule, returned⟩ := System.exists_schedule l.pipeline l.source l.now ends
    exact ⟨schedule, _, returned⟩
  · intro schedule out returned
    obtain ⟨_, _, _, delivers⟩ :=
      (System.delivers_new l.policy l.yields decodes).run schedule
    exact (delivers.shutdown returned).2.2.1

/-- No record crashes the decoder if the start of its time-to-live is a time. -/
theorem exists_last
    (inRange : ∀ n < l.records.length, ((l.now n).minus? .minute).isSome) :
    ∃ last, (Survey.decoder.processAll (arrivals l.now 0 l.records)).result = .ok last := by
  refine Decoder.exists_processAll_of_calm Envelope.isCalm_codec fun a mem => ?_
  obtain ⟨n, inside, now⟩ := exists_now_of_mem_arrivals mem
  rw [now, Nat.zero_add]
  exact inRange n inside

end SerialListener

namespace Survey

/-- **A survey and a listener see the same lines.** If no line of a file is longer than the limit of
a buffer, then the records of its survey are the lines that the buffer yields of the bytes, however
they are cut into calls, and after them what comes of the bytes behind the last line feed. So let
there be none, and let a listener get the bytes from a serial line, receive and decode each record
when the survey does, and never at a time that is too close to the first one. Then the survey comes
to an end, and with the same summary as the pipeline of the listener, which can return, in whatever
order its stages make their steps. -/
theorem agrees_with_live (filename : String) (bytes : List UInt8) :
    ∃ lines rest tail, IsLines bytes lines rest ∧ LinesYield [rest] tail ∧
      ∀ limit : Option Nat, (∀ n ∈ limit, ∀ line ∈ lines, line.length ≤ n) →
        (∀ chunks clock, chunks.flatten = bytes →
          (arrivals (fileLines bytes) clock).map (fun a => a.record.bytes) =
            ((LineBuffer.new limit).extendAll chunks).2.1 ++ tail) ∧
        ∀ l : SerialListener limit bytes, rest = [] →
          (∀ n < l.records.length, ((l.now n).minus? .minute).isSome) →
            ∀ start, l.pipeline.launch l.source = .ok start →
              ∃ survey, (ofBytes filename bytes l.moments).result = .ok survey ∧
                (∃ schedule out, (start.run l.now schedule).shutdown? = some out) ∧
                ∀ schedule out, (start.run l.now schedule).shutdown? = some out →
                  out.summary = survey.summary := by
  have cut := isLines_cutLines bytes
  refine ⟨_, _, _, cut, linesYield_keptLines _, fun limit short => ⟨?_, ?_⟩⟩
  · rintro chunks clock rfl
    rw [bytes_arrivals, cut.extendAll_eq short, cut.fileLines_eq]
  · intro l ended inRange start launched
    have lines : fileLines bytes = l.records.map Record.bytes := by
      rw [cut.fileLines_eq, l.records_eq cut short, ended]
      exact List.append_nil _
    obtain ⟨last, decodes⟩ := l.exists_last inRange
    obtain ⟨returns, summary⟩ := l.returns decodes launched
    rw [← l.arrivals_eq, ← lines] at decodes
    exact ⟨_, ofBytes_of_processed filename decodes, returns, summary⟩

/-- Lines are cut between a carriage return and its line feed, and in the middle while a reading
fails. A limit is as long as the longest line. A tail behind them comes to the survey only. -/
theorem agrees_with_live_between_failures :
    let bytes := Text.Utf8.bytesOf "\r\r\nab\n\nnoise\r\n!AIVDM,1,1,,A,15MwkRPP,2*23\r\n"
    let l : SerialListener (some 28) bytes :=
      { line := ⟨"line", .new (some 28)⟩
        before := [.data (Text.Utf8.bytesOf "\r\r\nab\n\nnoise\r"), .failure (.bare .other),
          .data (Text.Utf8.bytesOf "\n!AIVDM,1,1,,"), .failure (.bare .timedOut),
          .data (Text.Utf8.bytesOf "A,15MwkRPP,2*23\r\n")]
        last := .failure (.bare .brokenPipe)
        after := [.data (Text.Utf8.bytesOf "later\n")]
        clock := fun _ => .epoch
        pipeline := ⟨decoder, .unbounded, [], [.keeping "messages"]⟩
        now := fun _ => .epoch
        isNew := rfl
        goesOn := by decide
        ends := by decide
        brings := by decide
        decoder := rfl
        policy := rfl }
    let records := [Text.Utf8.bytesOf "\r", Text.Utf8.bytesOf "ab", Text.Utf8.bytesOf "noise",
      Text.Utf8.bytesOf "!AIVDM,1,1,,A,15MwkRPP,2*23"]
    let tailed := [bytes, Text.Utf8.bytesOf "tail\r"]
    ((LineBuffer.new (some 28)).extendAll tailed).2.1 = records ∧
    (arrivals (fileLines tailed.flatten) l.moments).map (fun a => a.record.bytes) =
      records ++ [Text.Utf8.bytesOf "tail"] ∧
    ∃ start survey, l.pipeline.launch l.source = .ok start ∧
      l.records.map Record.bytes = records ∧
      (ofBytes "capture" bytes l.moments).result = .ok survey ∧
      survey.summary = ⟨4, 1, 0, 3, 0, 0, 1, 0, 0, 1, 0⟩ ∧
      (∃ schedule out, (start.run l.now schedule).shutdown? = some out) ∧
      ∀ schedule out, (start.run l.now schedule).shutdown? = some out →
        out.summary = ⟨4, 1, 0, 3, 0, 0, 1, 0, 0, 1, 0⟩ := by
  intro bytes l records tailed
  obtain ⟨short, ended⟩ : (∀ n ∈ some 28, ∀ line ∈ (cutLines bytes).1, line.length ≤ n) ∧
      (cutLines bytes).2 = [] := by
    decide
  obtain ⟨short', behind⟩ : (∀ n ∈ some 28, ∀ line ∈ (cutLines tailed.flatten).1, line.length ≤ n) ∧
      (cutLines tailed.flatten).2 = Text.Utf8.bytesOf "tail\r" := by
    decide
  obtain ⟨lines, rest, _, cut, -, agrees⟩ := agrees_with_live "capture" bytes
  obtain ⟨lines', rest', tail, cut', yields, agrees'⟩ := agrees_with_live "capture" tailed.flatten
  rw [cut.cutLines_eq] at short ended
  rw [cut'.cutLines_eq] at short' behind
  obtain ⟨-, live⟩ := agrees (some 28) short
  obtain ⟨survey, surveyed, returns, same⟩ := live l ended (fun _ _ => rfl) _ rfl
  have evaluated : (ofBytes "capture" bytes l.moments).result.map Survey.summary =
      .ok ⟨4, 1, 0, 3, 0, 0, 1, 0, 0, 1, 0⟩ := by
    decide +kernel
  rw [surveyed] at evaluated
  have summary : survey.summary = ⟨4, 1, 0, 3, 0, 0, 1, 0, 0, 1, 0⟩ := Except.ok.inj evaluated
  have buffered : ((LineBuffer.new (some 28)).extendAll tailed).2.1 = records := by decide
  have chomped : tail = [Text.Utf8.bytesOf "tail"] := by
    rw [linesYield_iff.1 yields, show rest' = Text.Utf8.bytesOf "tail\r" from behind]
    decide
  have arrived := (agrees' (some 28) short').1 tailed l.moments rfl
  rw [buffered, chomped] at arrived
  exact ⟨buffered, arrived, _, survey, rfl, by decide, surveyed, summary, returns, summary ▸ same⟩

end Survey

end AisFeed
