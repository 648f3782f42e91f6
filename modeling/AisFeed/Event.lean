import AisFeed.Error
import AisFeed.Reassembly.Group

/-!
# Events

What a feed tells those who watch over it, and the line of text for each event: its level, a
message, and the fields that belong to it.
-/

set_option autoImplicit false

namespace AisFeed

open Text

/-- Something worth a warning, or an error. -/
inductive Event where
  /-- A record was not accepted. -/
  | rejected (error : Error) (address : Option String) (line : String)
  /-- A payload was not decoded. -/
  | undecoded (error : CodecError) (payload : String)
  /-- A group of fragments was given up. -/
  | expired (key : GroupKey) (fragments : List Nat)
  /-- A line was too long and is skipped. -/
  | overlong (pending limit : Nat)
  /-- A queue was removed, as its consumer is gone. -/
  | unregistered (consumer : String)
  /-- An item was lost, as a queue was full. -/
  | dropped (consumer : String) (count : Nat)
  /-- A source failed and is read on. -/
  | readFailed (error : Error) (source : String)
  /-- A source ended. -/
  | sourceEnded (error : Error) (source : String)
  /-- A sink did not take an item. -/
  | refused (error : Error) (sink : String)
  /-- A sink could not write what it held back. -/
  | unflushed (error : Error) (sink : String)
  /-- A stage crashed, as told by the stage itself. -/
  | crashed (stage : String)
  /-- A stage crashed, as found by those who waited for it. -/
  | foundCrashed (stage : String)
  /-- A sink crashed. -/
  | sinkCrashed (sink : String)
  deriving DecidableEq, Repr

namespace Event

/-- Does the event end something? -/
def isError : Event → Bool
  | sourceEnded .. | crashed _ | foundCrashed _ | sinkCrashed _ => true
  | _ => false

/-- A character that may be absent, quoted. -/
def charText (c : Option Char) : String :=
  optional quotedChar c

/-- A number in decimal. -/
def countText (n : Nat) : String :=
  String.ofList (decimal n)

/-- The message of an event and its fields. -/
def text : Event → String
  | rejected error address line =>
    error.message ++ " addr=" ++ optional quoted address ++ " line=" ++ line
  | undecoded error payload => "decode failed: " ++ error.message ++ " payload=" ++ payload
  | expired key fragments =>
    "partial message expired sequence_id=" ++ charText key.sequenceId ++
      " channel=" ++ charText key.channel ++ " fragments=" ++ bracketed countText fragments
  | overlong pending limit =>
    "no line terminator within limit, discarding buffered bytes pending=" ++ countText pending ++
      " limit=" ++ countText limit
  | unregistered consumer => "consumer disconnected; unregistering consumer=" ++ consumer
  | dropped consumer count =>
    "consumer queue full; dropping consumer=" ++ consumer ++ " dropped=" ++ countText count
  | readFailed error source => "while reading: " ++ error.message ++ " source=" ++ source
  | sourceEnded error source => error.message ++ " source=" ++ source
  | refused error sink => "failed to accept item: " ++ error.message ++ " sink=" ++ sink
  | unflushed error sink => "failed to flush: " ++ error.message ++ " sink=" ++ sink
  | crashed stage => "thread panicked thread=" ++ stage
  | foundCrashed stage => stage ++ " thread panicked"
  | sinkCrashed sink => "sink thread panicked sink=" ++ sink

/-- The line of an event. -/
def render (e : Event) : String :=
  (if e.isError then "ERROR " else "WARN ") ++ e.text

end Event

end AisFeed
