import AisFeed.CommandLine.Command

/-!
# The program

Reads the capture that a command line names, carries the command line out, and shows what comes of
it. There are no devices, and no network within reach.
-/

set_option autoImplicit false

namespace AisFeed.CommandLine

/-- The capture that a command reads, if it reads one. -/
def Command.input? : Command → Option String
  | .info input _ => some input
  | .replay input .. => some input
  | _ => none

/-- The store with the file at a path, if it can be read. -/
def readStorage (path : String) : IO Storage := do
  try
    let bytes ← IO.FS.readBinFile path
    return Storage.ofFile path bytes.toList
  catch _ => return .empty

/-- The store that a command line needs. -/
def storageFor (args : List String) : IO Storage :=
  match Command.read args with
  | .ok command =>
    match command.input? with
    | some path => readStorage path
    | none => return .empty
  | .error _ => return .empty

/-- The name and version of this program. -/
def program : Program := ⟨"ais-feed", "1.0.0"⟩

end AisFeed.CommandLine

open AisFeed AisFeed.CommandLine in
/-- Carry out a command line. -/
def main (args : List String) : IO UInt32 := do
  let storage ← storageFor args
  let run := run program ⟨storage, .down, [], [], false, fun _ => .epoch⟩ args
  (← IO.getStdout).write (ByteArray.mk run.stdout.toArray)
  match run.failure with
  | some failure => IO.eprintln ("Error: " ++ failure.message)
  | none => if run.code = 2 then IO.eprint program.usage
  return run.code.toUInt32
