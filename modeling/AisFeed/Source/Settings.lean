import AisFeed.Error
import AisFeed.Number.Bounds
import AisFeed.Storage

/-!
# Settings of serial lines
-/

set_option autoImplicit false

namespace AisFeed

open Text

/-- The extra bit of a character, if there is one. -/
inductive Parity where
  | none
  | odd
  | even
  deriving DecidableEq, Repr

/-- How long to wait: seconds, and less than a second in nanoseconds. -/
structure Wait where
  seconds : Nat
  nanos : Nat
  deriving DecidableEq, Repr

namespace Wait

/-- A wait of `n` milliseconds. -/
def ofMillis (n : Nat) : Wait :=
  ⟨n / 1000, n % 1000 * 1000000⟩

/-- A wait in seconds and nanoseconds, of which those above a second are carried. Its seconds
have to fit 64 bits. -/
def carried? (seconds nanos : Nat) : Option Wait :=
  let total := seconds + nanos / 1000000000
  if total ≤ countBound then some ⟨total, nanos % 1000000000⟩ else none

end Wait

/-- How to open a serial line. -/
structure SerialSettings where
  device : String
  baudRate : Nat
  dataBits : Nat
  parity : Parity
  stopBits : Nat
  /-- How long one reading may wait for data. -/
  readTimeout : Wait
  deriving DecidableEq, Repr

namespace SerialSettings

/-- Bits per second unless it is said otherwise. -/
def defaultBaudRate : Nat := 115200

/-- The usual settings for a device. -/
def new (device : String) : SerialSettings :=
  ⟨device, defaultBaudRate, 8, .none, 1, ⟨1, 0⟩⟩

/-- What is wrong with the settings, if anything is. -/
def fault? (s : SerialSettings) : Option Error :=
  if s.dataBits < 5 ∨ 8 < s.dataBits then
    some (.config ("unsupported data bits " ++ String.ofList (decimal s.dataBits)))
  else if s.stopBits < 1 ∨ 2 < s.stopBits then
    some (.config ("unsupported stop bits " ++ String.ofList (decimal s.stopBits)))
  else none

/-- Open a serial line, where `devices` are those that there are beside what is stored. The
settings are looked at first. -/
def openOn {δ : Type} (s : SerialSettings) (storage : Storage) (devices : List (String × δ)) :
    Except Error δ :=
  match s.fault? with
  | some error => .error error
  | none =>
    match devices.find? fun d => d.1 = s.device with
    | some d => .ok d.2
    | none => .error (.serial (storage.place s.device).terminalFault.text)

end SerialSettings

end AisFeed
