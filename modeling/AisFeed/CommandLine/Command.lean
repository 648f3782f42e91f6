import AisFeed.Capture.Replay
import AisFeed.Capture.Survey
import AisFeed.CommandLine.Arguments
import AisFeed.CommandLine.Values
import AisFeed.Listen
import AisFeed.Network.HostName
import AisFeed.Source.Datagram
import AisFeed.Source.Serial
import AisFeed.Source.Settings

/-!
# Commands

What a command line asks for, and what comes of it on a machine: listen to datagrams or to a
serial line, survey a capture, or replay one. The exit code is 0, or 1 if the command fails, or
2 if the command line is not understood, or 101 if the command crashes.
-/

set_option autoImplicit false

namespace AisFeed.CommandLine

open Text

/-- A command with its settings. -/
inductive Command where
  | udp (bind : String) (port bufferSize : Nat) (listen : ListenSettings)
  | serial (settings : SerialSettings) (listen : ListenSettings)
  | info (input : String) (format : Survey.Format)
  | replay (input : String) (target : SocketAddress) (interval : Amount) (forever onSerial : Bool)

/-- The value that a word stands for. -/
def word? {α : Type} (words : List (String × α)) (text : String) : Option α :=
  (words.find? fun w => w.1 = text).map Prod.snd

namespace Setting

/-- The port on which a listener waits. -/
def port : Setting Nat := ⟨"port", some 'p', natural? portBound⟩

/-- The host on which a listener waits. -/
def bind : Setting String := ⟨"bind", none, some⟩

/-- How many bytes of a datagram are taken. -/
def bufferSize : Setting Nat := ⟨"buffer-size", none, count?⟩

/-- The file for records. -/
def rawCsv : Setting String := ⟨"raw-csv", none, path?⟩

/-- The file for messages. -/
def decodedCsv : Setting String := ⟨"decoded-csv", none, path?⟩

/-- How many seconds a message may wait for its fragments. -/
def ttl : Setting Int := ⟨"ttl", none, integer? (-(integerBound : Int) - 1) integerBound⟩

/-- How fragments belong together. -/
def keying : Setting Keying :=
  ⟨"keying", none,
    word? [("sequence-channel", .sequenceIdAndChannel), ("sequence", .sequenceId)]⟩

/-- How many items a queue holds at most. -/
def queueCapacity : Setting Nat := ⟨"queue-capacity", none, count?⟩

/-- The bits per second of a serial line. -/
def baud : Setting Nat := ⟨"baud", some 'b', natural? wordBound⟩

/-- The bits of a character on a serial line. -/
def dataBits : Setting Nat := ⟨"data-bits", none, natural? byteBound⟩

/-- The extra bit of a character on a serial line. -/
def parity : Setting Parity :=
  ⟨"parity", none, word? [("none", .none), ("odd", .odd), ("even", .even)]⟩

/-- The bits between characters on a serial line. -/
def stopBits : Setting Nat := ⟨"stop-bits", none, natural? byteBound⟩

/-- How a survey is shown. -/
def format : Setting Survey.Format :=
  ⟨"format", some 'f', word? [("json", .json), ("text", .text)]⟩

/-- Where a replay goes. -/
def target : Setting SocketAddress := ⟨"target", some 't', SocketAddress.ofText?⟩

/-- How many seconds a replay waits before each line. -/
def interval : Setting Amount := ⟨"interval", some 'i', amount?⟩

end Setting

namespace Command

/-- Any text. -/
def anyText (_ : String) : Bool := true

/-- Any path. -/
def anyPath (text : String) : Bool := (path? text).isSome

/-- The options of all commands that listen. -/
def listenParameters : List Parameter :=
  [Setting.rawCsv.parameter, Setting.decodedCsv.parameter, .flag "json", Setting.ttl.parameter,
   Setting.keying.parameter, Setting.queueCapacity.parameter]

/-- What the command that listens to datagrams takes. -/
def udpSignature : Signature :=
  ⟨[Setting.port.parameter, Setting.bind.parameter, Setting.bufferSize.parameter] ++
    listenParameters, []⟩

/-- What the command that listens to a serial line takes. -/
def serialSignature : Signature :=
  ⟨[Setting.baud.parameter, Setting.dataBits.parameter, Setting.parity.parameter,
    Setting.stopBits.parameter] ++ listenParameters, [anyText]⟩

/-- What a survey takes. -/
def infoSignature : Signature :=
  ⟨[Setting.format.parameter], [anyPath]⟩

/-- What a replay takes. -/
def replaySignature : Signature :=
  ⟨[Setting.target.parameter, Setting.interval.parameter, .flag "forever", .flag "serial"],
   [anyPath]⟩

/-- The socket address of this machine to which replays go unless it is said otherwise. -/
def defaultTarget : SocketAddress := ⟨.v4 127 0 0 1, 0, 4001⟩

/-- How many seconds a replay waits before each line unless it is said otherwise: one. -/
def defaultInterval : Amount := nearestDecimal false 1 0

/-- The settings of a listener. -/
def listenSettings (a : Arguments) : ListenSettings where
  rawCsv := a.get? .rawCsv
  decodedCsv := a.get? .decodedCsv
  json := a.has "json"
  ttl := (a.get? .ttl).getD 60
  keying := (a.get? .keying).getD .sequenceIdAndChannel
  queueCapacity := a.get? .queueCapacity

/-- The command that listens to datagrams. There is no usual port. -/
def readUdp (args : List String) : Except Refusal Command := do
  let a ← Arguments.read udpSignature args
  match a.get? .port with
  | none => .error .usage
  | some port =>
    .ok (.udp ((a.get? .bind).getD "0.0.0.0") port
      ((a.get? .bufferSize).getD Datagram.defaultBufferSize) (listenSettings a))

/-- The command that listens to a serial line. -/
def readSerial (args : List String) : Except Refusal Command := do
  let a ← Arguments.read serialSignature args
  match a.operands.head? with
  | none => .error .usage
  | some device =>
    let usual := SerialSettings.new device
    let settings :=
      { usual with
        baudRate := (a.get? .baud).getD usual.baudRate
        dataBits := (a.get? .dataBits).getD usual.dataBits
        parity := (a.get? .parity).getD usual.parity
        stopBits := (a.get? .stopBits).getD usual.stopBits }
    .ok (.serial settings (listenSettings a))

/-- The command that surveys a capture. -/
def readInfo (args : List String) : Except Refusal Command := do
  let a ← Arguments.read infoSignature args
  match a.operands.head? with
  | none => .error .usage
  | some input => .ok (.info input ((a.get? .format).getD .text))

/-- The command that replays a capture. The wire is either the network or a serial line. -/
def readReplay (args : List String) : Except Refusal Command := do
  let a ← Arguments.read replaySignature args
  match a.operands.head? with
  | none => .error .usage
  | some input =>
    if a.has "serial" && a.has Setting.target.name then .error .usage
    else
      .ok (.replay input ((a.get? .target).getD defaultTarget)
        ((a.get? .interval).getD defaultInterval) (a.has "forever") (a.has "serial"))

/-- The names of the commands. -/
def names : List String := ["udp", "serial", "info", "replay", "help"]

/-- What a command line means that does not start with a command. -/
def refusalOf (argument : String) : Refusal :=
  match argument.toList with
  | '-' :: 'h' :: _ => .help
  | '-' :: 'V' :: _ => .version
  | _ =>
    if argument = "--help" then .help
    else if argument = "--version" then .version
    else .usage

/-- The command of a command line. -/
def read : List String → Except Refusal Command
  | "udp" :: args => readUdp args
  | "serial" :: args => readSerial args
  | "info" :: args => readInfo args
  | "replay" :: args => readReplay args
  | ["help"] => .error .help
  | ["help", name] => .error (if names.contains name then .help else .usage)
  | "help" :: _ => .error .usage
  | argument :: _ => .error (refusalOf argument)
  | [] => .error .usage

end Command

/-- What a command can use. -/
structure Machine where
  storage : Storage
  network : Network
  /-- The datagrams that arrive for a listener. -/
  datagrams : List Datagram
  /-- The serial devices, and what is read from each. -/
  devices : List (String × List DeviceReading)
  /-- Whether a serial line to nowhere can be made. -/
  hasTerminals : Bool
  /-- The time when a command has looked at the clock so often. -/
  clock : Nat → Time

/-- What came of a command line. -/
structure CommandRun where
  code : Nat
  stdout : List UInt8
  datagrams : List (List UInt8)
  failure : Option Failure

namespace CommandRun

/-- A command that did what it was asked to. -/
def done (stdout : List UInt8) (datagrams : List (List UInt8)) : CommandRun :=
  ⟨0, stdout, datagrams, none⟩

/-- A command that failed. -/
def failed (stdout : List UInt8) (datagrams : List (List UInt8)) (failure : Failure) :
    CommandRun :=
  ⟨1, stdout, datagrams, some failure⟩

/-- A command that crashed. -/
def crashed (crash : Crash) : CommandRun :=
  ⟨101, [], [], some (.ofText crash.message)⟩

end CommandRun

namespace Command

/-- Listen to a source. -/
def listen (m : Machine) (l : ListenSettings) (source : Source) : CommandRun :=
  let run := l.run source m.storage m.clock
  match run.ending with
  | .error crash => .crashed crash
  | .ok failure => .failed run.stdout [] failure

/-- Carry out a command. -/
def run (m : Machine) : Command → CommandRun
  | udp bind port bufferSize l =>
    let doing := "binding " ++ bind ++ ":" ++ String.ofList (decimal port)
    match HostName.host? bind with
    | none =>
      .failed [] []
        ⟨[doing, "failed to lookup address information: Name or service not known"]⟩
    | some (host, scope) =>
      let name := "udp:" ++ SocketAddress.text ⟨host, scope, port⟩
      if !m.network.canListen host scope then
        .failed [] [] (.during doing (.system .addressNotAvailable))
      else
        match Datagram.bufferFault? bufferSize with
        | some crash => .crashed crash
        | none => listen m l (Datagram.source name bufferSize m.datagrams m.clock)
  | serial settings l =>
    match settings.openOn m.storage m.devices with
    | .error error => .failed [] [] ⟨["opening " ++ settings.device, error.message]⟩
    | .ok readings =>
      listen m l ((SerialLine.new settings.device).source readings m.clock)
  | info input format =>
    match Survey.ofFile m.storage input fun i => ⟨m.clock (2 * i), m.clock (2 * i + 1)⟩ with
    | .error failure => .failed [] [] failure
    | .ok ⟨_, .error crash⟩ => .crashed crash
    | .ok ⟨_, .ok survey⟩ => .done (Utf8.bytesOf (survey.render format)) []
  | replay input target interval forever onSerial =>
    if !isWait interval then .failed [] [] (.ofText "invalid interval")
    else if onSerial then
      if !m.hasTerminals then .failed [] [] (.ofText "creating pseudo-terminal")
      else
        match (Replay.toWriter m.storage input forever (.new none none)).2 with
        | .error failure => .failed [] [] failure
        | .ok _ => .done [] []
    else
      match Replay.toNetwork m.storage input m.network target with
      | (datagrams, .error failure) => .failed [] datagrams failure
      | (datagrams, .ok _) => .done [] datagrams

end Command

/-- The name and the version that a program goes by. -/
structure Program where
  name : String
  version : String
  deriving DecidableEq, Repr

/-- How a program is used. -/
def Program.usage (p : Program) : String :=
  "usage:\n" ++
  "  " ++ p.name ++ " udp --port <port> [--bind <host>] [--buffer-size <bytes>] <outputs>\n" ++
  "  " ++ p.name ++ " serial <device> [--baud <rate>] [--data-bits <5-8>]" ++
    " [--parity <none|odd|even>] [--stop-bits <1-2>] <outputs>\n" ++
  "  " ++ p.name ++ " info <capture> [--format <json|text>]\n" ++
  "  " ++ p.name ++ " replay <capture> [--target <address>] [--interval <secs>] [--forever]\n" ++
  "outputs, at least one of the first three:\n" ++
  "  --raw-csv <path> --decoded-csv <path> --json --ttl <secs>" ++
    " --keying <sequence-channel|sequence> --queue-capacity <num>\n"

/-- Carry out a command line. -/
def run (p : Program) (m : Machine) (args : List String) : CommandRun :=
  match Command.read args with
  | .ok command => command.run m
  | .error .usage => ⟨2, [], [], none⟩
  | .error .help => .done (Utf8.bytesOf p.usage) []
  | .error .version => .done (Utf8.bytesOf (p.name ++ " " ++ p.version ++ "\n")) []

end AisFeed.CommandLine
