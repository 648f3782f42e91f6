import AisFeed.Text.Numeral
import AisFeed.Text.Quoted
import AisFeed.Text.Utf8

/-!
# Errors

What can go wrong with an input, an output, a sentence, a payload or a setting, as causes, and
the text that is shown for each. `Error.isFatal` tells the errors that end a feed from those
after which reading goes on. A `Crash` is a fault that a stage does not handle.
-/

set_option autoImplicit false

namespace AisFeed

open Text

/-- The kinds of failures of an input or output. -/
inductive IoKind where
  | notFound
  | permissionDenied
  | connectionRefused
  | connectionReset
  | connectionAborted
  | notConnected
  | addressInUse
  | brokenPipe
  | alreadyExists
  | wouldBlock
  | invalidInput
  | invalidData
  | timedOut
  | writeZero
  | interrupted
  | unexpectedEnd
  | outOfMemory
  | other
  deriving DecidableEq, Repr

/-- The text of a failure of which only the kind is known. -/
def IoKind.message : IoKind → String
  | notFound => "entity not found"
  | permissionDenied => "permission denied"
  | connectionRefused => "connection refused"
  | connectionReset => "connection reset"
  | connectionAborted => "connection aborted"
  | notConnected => "not connected"
  | addressInUse => "address in use"
  | brokenPipe => "broken pipe"
  | alreadyExists => "entity already exists"
  | wouldBlock => "operation would block"
  | invalidInput => "invalid input parameter"
  | invalidData => "invalid data"
  | timedOut => "timed out"
  | writeZero => "write zero"
  | interrupted => "operation interrupted"
  | unexpectedEnd => "unexpected end of file"
  | outOfMemory => "out of memory"
  | other => "other error"

/-- Is a failure of this kind the absence of data for now, rather than a fault? -/
def IoKind.isIdle : IoKind → Bool
  | timedOut | wouldBlock | interrupted => true
  | _ => false

/-- Does a failure of this kind say that the other end is gone for good? -/
def IoKind.isGone : IoKind → Bool
  | unexpectedEnd | brokenPipe | notConnected | connectionAborted => true
  | _ => false

/-- Failures that the operating system reports by number. -/
inductive SystemFault where
  | noEntry
  | notDirectory
  | isDirectory
  | invalidArgument
  | notTerminal
  | nameTooLong
  | messageTooLong
  | addressNotAvailable
  | networkUnreachable
  deriving DecidableEq, Repr

namespace SystemFault

/-- The number of a failure. -/
def number : SystemFault → Nat
  | noEntry => 2
  | notDirectory => 20
  | isDirectory => 21
  | invalidArgument => 22
  | notTerminal => 25
  | nameTooLong => 36
  | messageTooLong => 90
  | addressNotAvailable => 99
  | networkUnreachable => 101

/-- What the system says about a failure. -/
def text : SystemFault → String
  | noEntry => "No such file or directory"
  | notDirectory => "Not a directory"
  | isDirectory => "Is a directory"
  | invalidArgument => "Invalid argument"
  | notTerminal => "Not a typewriter"
  | nameTooLong => "File name too long"
  | messageTooLong => "Message too long"
  | addressNotAvailable => "Cannot assign requested address"
  | networkUnreachable => "Network is unreachable"

end SystemFault

/-- A failure of an input or output: a bare kind, a kind with a text of its own, or one that the
system reports. -/
inductive IoError where
  | bare (kind : IoKind)
  | described (kind : IoKind) (text : String)
  | system (fault : SystemFault)
  deriving DecidableEq, Repr

/-- The text of a failure: its own if it has one. -/
def IoError.message : IoError → String
  | bare kind => kind.message
  | described _ text => text
  | system fault =>
    fault.text ++ " (os error " ++ String.ofList (decimal fault.number) ++ ")"

/-- The kind of a failure. -/
def IoError.kind : IoError → IoKind
  | bare kind => kind
  | described kind _ => kind
  | system .noEntry => .notFound
  | system _ => .other

/-- Why an armored payload cannot be decoded. -/
inductive CodecError where
  | invalidCharacter (c : Char)
  | fillBits (n : Nat)
  | notEnoughBits (actual minimum : Nat)
  deriving DecidableEq, Repr

/-- The text of a decoding error. -/
def CodecError.message : CodecError → String
  | invalidCharacter c => "invalid armor character " ++ quotedChar c
  | fillBits n => "invalid fill bits " ++ String.ofList (decimal n)
  | notEnoughBits actual minimum =>
    "not enough bits; got " ++ String.ofList (decimal actual) ++ ", need " ++
      String.ofList (decimal minimum)

/-- An error of a feed. -/
inductive Error where
  /-- An input or output failed. -/
  | io (e : IoError)
  /-- A serial device failed, in its own words. -/
  | serial (text : String)
  /-- A source has no more data and never will. -/
  | endOfInput (source : String)
  /-- A line is neither a sentence nor one of those that are passed over. -/
  | unrecognized (line : String)
  | checksumMismatch (transmitted computed : UInt8)
  /-- A sentence has its parts, but one of them has no meaning. -/
  | malformed (text : String)
  | codec (e : CodecError)
  | config (text : String)
  | sink (text : String)
  /-- A stage of a pipeline crashed. -/
  | stageCrashed (stage : String)
  /-- All who could report the end of a pipeline are gone. -/
  | disconnected
  deriving DecidableEq, Repr

namespace Error

/-- The text of an error. -/
def message : Error → String
  | io e => e.message
  | serial text => text
  | endOfInput source => "EOF while reading from " ++ source
  | unrecognized line => "Unrecognized sentence: " ++ line
  | checksumMismatch transmitted computed =>
    "Checksum mismatch: transmitted " ++ String.ofList (hexByte transmitted) ++ ", computed " ++
      String.ofList (hexByte computed)
  | malformed text => "Malformed sentence: " ++ text
  | codec e => e.message
  | config text => "Invalid config: " ++ text
  | sink text => "Sink error: " ++ text
  | stageCrashed stage => stage ++ " thread exited unexpectedly"
  | disconnected => "Supervisor disconnected"

/-- Does the error end a feed? Any other is dealt with where it arises. -/
def isFatal : Error → Bool
  | endOfInput _ | disconnected => true
  | _ => false

end Error

/-- A fault that ends the stage in which it arises. -/
inductive Crash where
  /-- The start of the time-to-live lies outside the range of times. -/
  | timeRange
  /-- A channel is to have more places than can be numbered. -/
  | tooManyPlaces
  /-- More memory is needed than can be addressed. -/
  | outOfMemory
  /-- A stage is to have a name with a NUL character in it. -/
  | nulInName (name : String)
  /-- A codec, a source or a sink gave up, in its own words. -/
  | raised (text : String)
  deriving DecidableEq, Repr

namespace Crash

/-- Where a name has its first NUL, and all its bytes. -/
def nulText (name : String) : String :=
  let bytes := Utf8.bytesOf name
  "NulError(" ++ String.ofList (decimal (bytes.takeWhile (· != 0)).length) ++ ", " ++
    bracketed (fun b => String.ofList (decimal b.toNat)) bytes ++ ")"

/-- The text of a crash. -/
def message : Crash → String
  | timeRange => "\x60DateTime - TimeDelta\x60 overflowed"
  | tooManyPlaces => "bounded channel capacity is too large"
  | outOfMemory => "capacity overflow"
  | nulInName name => "thread name may not contain interior null bytes: " ++ nulText name
  | raised text => text

end Crash

end AisFeed
