import AisFeed.Proofs.Lines.Delivery
import AisFeed.Proofs.Source.Runs
import AisFeed.Source.Serial

/-!
# Serial lines up to their end

A serial line ends at a reading without a byte, or at a failure that says that the device is gone.
Any other failure yields nothing and leaves alone what waits for the end of its line. So the lines
that come of it are those that its buffer yields of the blocks before the end, wherever there are
failures between them (`run_until_end`).
-/

set_option autoImplicit false

namespace AisFeed

namespace DeviceReading

/-- The bytes that a reading yields, unless it fails. -/
def block? : DeviceReading → Option (List UInt8)
  | data bytes => some bytes
  | failure _ => none

/-- Does a reading yield bytes? -/
def isData (r : DeviceReading) : Bool :=
  r.block?.isSome

/-- The readings that fail have no part in the blocks. -/
theorem filterMap_block?_filter (readings : List DeviceReading) :
    (readings.filter isData).filterMap block? = readings.filterMap block? := by
  rw [List.filterMap_filter]
  congr 1
  funext r
  cases r <;> rfl

/-- A reading that is not the end of a line: some bytes, but no more than one reading takes, or a
failure that does not say that the device is gone. -/
def GoesOn : DeviceReading → Prop
  | data bytes => bytes ≠ [] ∧ bytes.length ≤ readSize
  | failure error =>
    error.kind ∉ [.unexpectedEnd, .brokenPipe, .notConnected, .connectionAborted]

/-- A reading that is the end of a line. -/
def IsEnd : DeviceReading → Prop
  | data bytes => bytes = []
  | failure error =>
    error.kind ∈ [.unexpectedEnd, .brokenPipe, .notConnected, .connectionAborted]

instance : DecidablePred GoesOn
  | data bytes => inferInstanceAs (Decidable (bytes ≠ [] ∧ bytes.length ≤ readSize))
  | failure error => inferInstanceAs (Decidable (error.kind ∉ _))

instance : DecidablePred IsEnd
  | data bytes => inferInstanceAs (Decidable (bytes = []))
  | failure error => inferInstanceAs (Decidable (error.kind ∈ _))

end DeviceReading

theorem IoKind.isGone_iff (kind : IoKind) :
    kind.isGone = true ↔ kind ∈ [.unexpectedEnd, .brokenPipe, .notConnected, .connectionAborted] := by
  cases kind <;> decide

theorem IoKind.isIdle_iff (kind : IoKind) :
    kind.isIdle = true ↔ kind ∈ [.timedOut, .wouldBlock, .interrupted] := by
  cases kind <;> decide

theorem IoKind.not_isGone_of_isIdle {kind : IoKind} (idle : kind.isIdle = true) :
    kind.isGone = false := by
  cases kind <;> first | rfl | cases idle

namespace SerialLine

/-! ## One reading -/

section Read

variable (s : SerialLine)

/-- A failure that is not the end of a line yields nothing and changes nothing. -/
theorem read_failure {error : IoError} (goesOn : (DeviceReading.failure error).GoesOn) :
    s.read (.failure error) =
      ⟨s, [], if error.kind ∈ [.timedOut, .wouldBlock, .interrupted] then none
        else some (.io error), []⟩ := by
  have gone : ¬error.kind.isGone = true := mt error.kind.isGone_iff.1 goesOn
  rw [read]
  by_cases idle : error.kind.isIdle = true
  · rw [if_pos idle, if_pos (error.kind.isIdle_iff.1 idle)]
  · rw [if_neg idle, if_neg gone, if_neg (mt error.kind.isIdle_iff.2 idle)]

theorem read_of_isEnd {r : DeviceReading} (ends : r.IsEnd) :
    s.read r = ⟨s, [], some (.endOfInput s.name), []⟩ := by
  cases r with
  | data bytes =>
    obtain rfl : bytes = [] := ends
    rfl
  | failure error =>
    have gone := error.kind.isGone_iff.2 ends
    have busy : ¬error.kind.isIdle = true := by
      intro idle
      rw [IoKind.not_isGone_of_isIdle idle] at gone
      cases gone
    rw [read, if_neg busy, if_pos gone]
    rfl

/-- A serial line after some blocks. -/
def afterBlocks (blocks : List (List UInt8)) : SerialLine :=
  { s with buffer := (s.buffer.extendAll blocks).1 }

/-- A reading that is not the end of a line yields what the buffer makes of its bytes. -/
theorem read_of_goesOn {r : DeviceReading} (goesOn : r.GoesOn) :
    (s.read r).line = s.afterBlocks r.block?.toList ∧
      (s.read r).lines = (s.buffer.extendAll r.block?.toList).2.1 ∧
      ∀ e, (s.read r).error = some e → e.isFatal = false := by
  cases r with
  | data bytes =>
    obtain ⟨b, rest, rfl⟩ := List.exists_cons_of_ne_nil goesOn.1
    refine ⟨rfl, (List.append_nil _).symm, fun e fails => ?_⟩
    cases fails
  | failure error =>
    rw [s.read_failure goesOn]
    refine ⟨rfl, rfl, fun e fails => ?_⟩
    dsimp only at fails
    split at fails
    · cases fails
    · cases fails
      rfl

end Read

/-! ## Scripts -/

/-- All readings of a script, one after the other, also those after the end of the line. -/
def readEach (s : SerialLine) : List DeviceReading → List SerialReading
  | [] => []
  | r :: rest => s.read r :: (s.read r).line.readEach rest

/-- A serial line as a source that would go on after its end. -/
def sourceOfEach (s : SerialLine) (readings : List DeviceReading) (clock : Nat → Time) : Source :=
  ⟨s.name, (s.readEach readings).zipIdx.map fun (r, i) => r.toReading (clock i), false⟩

theorem afterBlocks_append (s : SerialLine) (as bs : List (List UInt8)) :
    s.afterBlocks (as ++ bs) = (s.afterBlocks as).afterBlocks bs := by
  simp only [afterBlocks, LineBuffer.extendAll_append]

/-- Readings that are not the end of a line: what they yield is what the buffer makes of their
blocks, and more readings go on from there. -/
theorem readEach_goesOn {before : List DeviceReading} (goesOn : ∀ r ∈ before, r.GoesOn)
    (s : SerialLine) :
    (s.readEach before).flatMap SerialReading.lines =
        (s.buffer.extendAll (before.filterMap DeviceReading.block?)).2.1 ∧
      (∀ r ∈ s.readEach before, ∀ e, r.error = some e → e.isFatal = false) ∧
      ∀ rest, s.readEach (before ++ rest) = s.readEach before ++
        (s.afterBlocks (before.filterMap DeviceReading.block?)).readEach rest := by
  induction before generalizing s with
  | nil => exact ⟨rfl, fun r mem => absurd mem List.not_mem_nil, fun rest => rfl⟩
  | cons r before ih =>
    obtain ⟨line, lines, transient⟩ := s.read_of_goesOn (goesOn r List.mem_cons_self)
    obtain ⟨later, calm, onward⟩ := ih (fun r mem => goesOn r (List.mem_cons_of_mem _ mem))
      (s.read r).line
    have blocks : (r :: before).filterMap DeviceReading.block? =
        r.block?.toList ++ before.filterMap DeviceReading.block? := by
      simp only [List.filterMap_eq_flatMap_toList, List.flatMap_cons]
    refine ⟨?_, fun r' mem => ?_, fun rest => ?_⟩
    · rw [readEach, List.flatMap_cons, later, blocks, LineBuffer.extendAll_append, lines, line]
      rfl
    · rcases List.mem_cons.1 mem with rfl | mem
      · exact transient
      · exact calm r' mem
    · rw [List.cons_append, readEach, onward, readEach, blocks, afterBlocks_append, line]
      rfl

/-- Readings stop at the end of the line. -/
theorem readAll_eq_readEach {before : List DeviceReading} (goesOn : ∀ r ∈ before, r.GoesOn)
    {last : DeviceReading} (ends : last.IsEnd) (s : SerialLine) (after : List DeviceReading) :
    s.readAll (before ++ last :: after) = s.readEach (before ++ [last]) := by
  induction before generalizing s with
  | nil =>
    rw [List.nil_append, List.nil_append, readAll, readEach, readEach, s.read_of_isEnd ends]
    rfl
  | cons r before ih =>
    obtain ⟨-, -, transient⟩ := s.read_of_goesOn (goesOn r List.mem_cons_self)
    have calm : ¬(s.read r).error.any Error.isFatal = true := by
      cases fails : (s.read r).error with
      | none => exact Bool.false_ne_true
      | some e =>
        rw [Option.any_some, transient e fails]
        exact Bool.false_ne_true
    rw [List.cons_append, readAll, if_neg calm, ih (fun r mem => goesOn r (List.mem_cons_of_mem _ mem))]
    rfl

theorem length_readEach (s : SerialLine) (readings : List DeviceReading) :
    (s.readEach readings).length = readings.length := by
  induction readings generalizing s with
  | nil => rfl
  | cons r rest ih => exact congrArg Nat.succ (ih (s.read r).line)

/-! ## Runs -/

/-- Readings as those of a source, where `clock` tells when each is made and the first of them has
the number `start`. -/
def timed (clock : Nat → Time) (start : Nat) (readings : List SerialReading) : List Reading :=
  (readings.zipIdx start).map fun (r, i) => r.toReading (clock i)

theorem timed_cons (clock : Nat → Time) (start : Nat) (r : SerialReading)
    (rest : List SerialReading) :
    timed clock start (r :: rest) = r.toReading (clock start) :: timed clock (start + 1) rest :=
  rfl

theorem timed_append (clock : Nat → Time) (start : Nat) (as bs : List SerialReading) :
    timed clock start (as ++ bs) = timed clock start as ++ timed clock (start + as.length) bs := by
  rw [timed, List.zipIdx_append, List.map_append]
  rfl

theorem length_timed (clock : Nat → Time) (start : Nat) (readings : List SerialReading) :
    (timed clock start readings).length = readings.length := by
  rw [timed, List.length_map, List.length_zipIdx]

/-- Every line is a record without a sender. -/
theorem records_timed (clock : Nat → Time) (start : Nat) (readings : List SerialReading) :
    ((timed clock start readings).flatMap Reading.records).map Record.bytes =
        readings.flatMap SerialReading.lines ∧
      ∀ r ∈ (timed clock start readings).flatMap Reading.records,
        r.address = none ∧ r.port = none := by
  induction readings generalizing start with
  | nil => exact ⟨rfl, fun r mem => absurd mem List.not_mem_nil⟩
  | cons reading rest ih =>
    obtain ⟨bytes, senders⟩ := ih (start + 1)
    have own : ((reading.toReading (clock start)).records.map Record.bytes) = reading.lines := by
      rw [SerialReading.toReading, List.map_map]
      exact List.map_id _
    rw [timed_cons, List.flatMap_cons]
    refine ⟨?_, fun r mem => ?_⟩
    · rw [List.map_append, bytes, own, List.flatMap_cons]
    · rcases List.mem_append.1 mem with mem | mem
      · obtain ⟨line, -, rfl⟩ := List.mem_map.1 mem
        exact ⟨rfl, rfl⟩
      · exact senders r mem

theorem goesOn_timed {readings : List SerialReading}
    (transient : ∀ r ∈ readings, ∀ e, r.error = some e → e.isFatal = false)
    (clock : Nat → Time) (start : Nat) : ∀ r ∈ timed clock start readings, r.GoesOn := by
  intro r mem
  obtain ⟨⟨reading, i⟩, inside, rfl⟩ := List.mem_map.1 mem
  exact ⟨⟨rfl, rfl⟩, transient reading (List.fst_mem_of_mem_zipIdx inside)⟩

theorem blocks_of_le {size : Nat} {bytes : List UInt8} (few : bytes.length ≤ size) :
    blocks size bytes = [bytes] := by
  rw [blocks, dif_pos (Or.inl few)]

theorem split_of_goesOn {r : DeviceReading} (goesOn : r.GoesOn) : r.split = [r] := by
  cases r with
  | data bytes =>
    rw [DeviceReading.split, blocks_of_le goesOn.2]
    rfl
  | failure error => rfl

theorem split_of_isEnd {r : DeviceReading} (ends : r.IsEnd) : r.split = [r] := by
  cases r with
  | data bytes =>
    obtain rfl : bytes = [] := ends
    rw [DeviceReading.split, blocks_of_le (Nat.zero_le readSize)]
    rfl
  | failure error => rfl

section Run

variable {before : List DeviceReading} {last : DeviceReading}

theorem flatMap_split (goesOn : ∀ r ∈ before, r.GoesOn) (ends : last.IsEnd)
    (after : List DeviceReading) :
    (before ++ last :: after).flatMap DeviceReading.split =
      before ++ last :: after.flatMap DeviceReading.split := by
  induction before with
  | nil => rw [List.nil_append, List.nil_append, List.flatMap_cons, split_of_isEnd ends]; rfl
  | cons r before ih =>
    rw [List.cons_append, List.flatMap_cons, split_of_goesOn (goesOn r List.mem_cons_self),
      ih fun r mem => goesOn r (List.mem_cons_of_mem _ mem)]
    rfl

/-- The records of the lines that the readings of a script complete. -/
def recordsOf (s : SerialLine) (clock : Nat → Time) (before : List DeviceReading) : List Record :=
  (timed clock 0 (s.readEach before)).flatMap Reading.records

/-- The end of the line is a reading like others, which hands out nothing and fails. -/
theorem exists_ending (goesOn : ∀ r ∈ before, r.GoesOn) (ends : last.IsEnd) (s : SerialLine)
    (clock : Nat → Time) :
    ∃ r : Reading, r.IsCalm ∧ r.error = some (.endOfInput s.name) ∧ r.records = [] ∧
      ∀ after, ∃ rest, rest.length = after.length ∧
        timed clock 0 (s.readEach (before ++ last :: after)) =
          timed clock 0 (s.readEach before) ++ r :: rest := by
  obtain ⟨-, -, onward⟩ := readEach_goesOn goesOn s
  generalize named : s.afterBlocks (before.filterMap DeviceReading.block?) = line at onward
  have read : line.read last = ⟨line, [], some (.endOfInput s.name), []⟩ := by
    rw [read_of_isEnd line ends, ← named]
    rfl
  refine ⟨(line.read last).toReading (clock (0 + (s.readEach before).length)), ⟨rfl, rfl⟩, ?_, ?_,
    fun after => ⟨timed clock (0 + (s.readEach before).length + 1)
      ((line.read last).line.readEach after), ?_, ?_⟩⟩
  · rw [read]
    rfl
  · rw [read]
    rfl
  · rw [length_timed, length_readEach]
  · rw [onward, timed_append, readEach, timed_cons]

/-- A source reads up to the end of the line. -/
theorem source_eq_sourceOfEach (goesOn : ∀ r ∈ before, r.GoesOn) (ends : last.IsEnd)
    (s : SerialLine) (clock : Nat → Time) (after : List DeviceReading) :
    s.source (before ++ last :: after) clock = s.sourceOfEach (before ++ [last]) clock := by
  rw [source, flatMap_split goesOn ends, readAll_eq_readEach goesOn ends]
  rfl

/-- What comes of a run does not depend on what would be read after the end of the line, and that
is not read. -/
theorem exists_run (goesOn : ∀ r ∈ before, r.GoesOn) (ends : last.IsEnd) (s : SerialLine)
    (clock : Nat → Time) (queues : Distributor Record) :
    ∃ events, ∀ after,
      (s.sourceOfEach (before ++ last :: after) clock).run true queues =
          ⟨(queues.publishAll (s.recordsOf clock before)).1, .failed (.endOfInput s.name),
            after.length, events⟩ ∧
        (s.source (before ++ last :: after) clock).run true queues =
          ⟨(queues.publishAll (s.recordsOf clock before)).1, .failed (.endOfInput s.name), 0,
            events⟩ := by
  obtain ⟨-, transient, -⟩ := readEach_goesOn goesOn s
  obtain ⟨ending, calm, fails, silent, readings⟩ := exists_ending goesOn ends s clock
  obtain ⟨events, runs⟩ := Source.runReadings_until s.name false
    (goesOn_timed transient clock 0) calm fails rfl queues
  rw [silent, List.append_nil] at runs
  have each (after : List DeviceReading) :
      (s.sourceOfEach (before ++ last :: after) clock).run true queues =
        ⟨(queues.publishAll (s.recordsOf clock before)).1, .failed (.endOfInput s.name),
          after.length, events⟩ := by
    obtain ⟨rest, length, split⟩ := readings after
    have whole := runs rest
    rw [← split, length] at whole
    exact whole
  refine ⟨events, fun after => ⟨each after, ?_⟩⟩
  rw [source_eq_sourceOfEach goesOn ends]
  exact each []

end Run

/-- What comes of a run that ends at the reading `last`, and what its queue `q` then holds. -/
structure RunsOut (s : SerialLine) (clock : Nat → Time) (queues : Distributor Record)
    (ticket : Nat) (before : List DeviceReading) (last : DeviceReading) (run : SourceRun)
    (q : Queue Record) : Prop where
  ending : run.ending = .failed (.endOfInput s.name)
  /-- The run leaves whatever comes after `last` unread. -/
  unread : ∀ after, (s.sourceOfEach (before ++ last :: after) clock).run true queues =
    { run with left := after.length }
  queue : run.queues.queue? ticket = some q
  /-- The queue holds the lines that the buffer yields of the blocks. -/
  lines : q.channel.items.map Record.bytes =
    (s.buffer.extendAll (before.filterMap DeviceReading.block?)).2.1
  /-- Of no line is a sender known. -/
  senders : ∀ r ∈ q.channel.items, r.address = none ∧ r.port = none
  /-- If no line is too long, the queue holds all lines of the stream, whatever the blocks. -/
  all : ∀ limit lines rest, s.buffer = .new limit →
    IsLines (before.filterMap DeviceReading.block?).flatten lines rest →
    (∀ n ∈ limit, ∀ line ∈ lines, line.length ≤ n) →
    q.channel.items.map Record.bytes = keptLines lines

/-- What a queue holds after a run, if it was empty before. -/
theorem exists_runsOut {before : List DeviceReading} {last : DeviceReading}
    (goesOn : ∀ r ∈ before, r.GoesOn) (ends : last.IsEnd) (s : SerialLine) (clock : Nat → Time)
    (after : List DeviceReading) {queues : Distributor Record} {ticket : Nat}
    (carries : queues.Carries .all ticket []) :
    ∃ q, s.RunsOut clock queues ticket before last
      ((s.source (before ++ last :: after) clock).run true queues) q := by
  obtain ⟨events, runs⟩ := exists_run goesOn ends s clock queues
  obtain ⟨lines, -, -⟩ := readEach_goesOn goesOn s
  obtain ⟨bytes, senders⟩ := records_timed clock 0 (s.readEach before)
  obtain ⟨q, holds, -, items⟩ := carries.publishAll_all (s.recordsOf clock before)
  rw [List.nil_append] at items
  rw [lines] at bytes
  rw [(runs after).2]
  refine ⟨q, rfl, fun rest => (runs rest).1, holds.queue?, ?_, ?_, ?_⟩
  · rw [items]
    exact bytes
  · rw [items]
    exact senders
  · intro limit lines rest new cut short
    have held := held_extendAll limit (before.filterMap DeviceReading.block?)
    rw [items, recordsOf, bytes, new, held.lines, cutLines_eq_iff.2 cut, keepers_of_short short]

/-- **A serial line hands out its lines up to its end, whatever fails before.** A queue without a
capacity is registered with a distributor, which may have been through anything before, and nothing
is published to it until a run begins. The run makes readings that yield blocks or fail in passing,
up to one that is the end of the line: it ends there, and the queue holds the lines that the buffer
yields of the blocks. A passing failure leaves the buffer as it is, and is no failure of the run. So
without these readings the queue holds the same lines. -/
theorem run_until_end (s : SerialLine) (clock : Nat → Time) {before : List DeviceReading}
    {last : DeviceReading} (goesOn : ∀ r ∈ before, r.GoesOn) (ends : last.IsEnd)
    (after : List DeviceReading) (earlier : List (Move Record)) {registration : Registration}
    {registered : Distributor Record}
    (entered : ((Distributor.empty : Distributor Record).run earlier).1.enter registration =
      .ok registered)
    (unbounded : registration.keeping = .all) {later : List (Move Record)}
    (stays : .leave ((Distributor.empty : Distributor Record).run earlier).1.ticket ∉ later)
    (silent : published later = []) :
    let ticket := ((Distributor.empty : Distributor Record).run earlier).1.ticket
    let queues := (registered.run later).1
    let blocks := before.filter DeviceReading.isData
    ∃ q q', s.RunsOut clock queues ticket before last
        ((s.source (before ++ last :: after) clock).run true queues) q ∧
      s.RunsOut clock queues ticket blocks last
        ((s.source (blocks ++ last :: after) clock).run true queues) q' ∧
      q.channel.items.map Record.bytes = q'.channel.items.map Record.bytes ∧
      ∀ (line : SerialLine) (error : IoError), (DeviceReading.failure error).GoesOn →
        line.read (.failure error) =
            ⟨line, [], if error.kind ∈ [.timedOut, .wouldBlock, .interrupted] then none
              else some (.io error), []⟩ ∧
          (Error.io error).isFatal = false := by
  intro ticket queues blocks
  have carries : queues.Carries .all ticket [] := by
    have carries := Distributor.carries_ofMoves
      (Distributor.isNumbered_run Distributor.isNumbered_empty earlier) entered stays
    rwa [Account.queued_of_silent _ _ silent, unbounded] at carries
  have goesOn' : ∀ r ∈ blocks, r.GoesOn := fun r mem => goesOn r (List.mem_filter.1 mem).1
  obtain ⟨q, out⟩ := exists_runsOut goesOn ends s clock after carries
  obtain ⟨q', out'⟩ := exists_runsOut goesOn' ends s clock after carries
  refine ⟨q, q', out, out', ?_, fun line error goesOn => ⟨line.read_failure goesOn, rfl⟩⟩
  rw [out.lines, out'.lines, DeviceReading.filterMap_block?_filter]

/-- A line waits while two readings fail. What comes after the end is not read. -/
theorem run_until_end_between :
    let bytes := Text.Utf8.bytesOf
    let s := SerialLine.new "line"
    let before := [.data (bytes "ab"), .failure (.bare .other), .data (bytes "c\r\n\nd"),
      .failure (.bare .timedOut), .data (bytes "e\nf")]
    let last := .failure (.bare .brokenPipe)
    let after := [.data (bytes "g\n")]
    let earlier := [.register (.byPolicy "full" (.dropOldest 0)), .publish (.ofBytes .epoch [])]
    let later := [.register (.byConsumer "other" none)]
    let start := ((Distributor.empty : Distributor Record).run earlier).1
    ∃ d q, start.enter (.byPolicy "queue" .unbounded) = .ok d ∧
      s.RunsOut (fun _ => .epoch) (d.run later).1 1 before last
        ((s.source (before ++ last :: after) fun _ => .epoch).run true (d.run later).1) q ∧
      q.channel.items.map Record.bytes = [bytes "abc", bytes "de"] := by
  intro bytes s before last after earlier later start
  have goesOn : ∀ r ∈ before, r.GoesOn := by decide
  have ends : last.IsEnd := by decide
  have stays : .leave start.ticket ∉ later := by decide
  obtain ⟨q, -, out, -, -, -⟩ := @run_until_end s (fun _ => .epoch) before last goesOn ends after
    earlier (.byPolicy "queue" .unbounded) _ rfl rfl later stays rfl
  exact ⟨_, q, rfl, out, out.lines.trans rfl⟩

end SerialLine

end AisFeed
