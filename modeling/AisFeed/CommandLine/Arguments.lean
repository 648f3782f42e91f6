/-!
# Arguments of a command line

Options have a long name after two dashes and may have a letter after one. The value of an
option follows after an equals sign, right after the letter, or as the next argument, and then
does not start with a dash. All else are operands, and so is everything after two dashes alone.
No option is given twice. Arguments are read from the left, and the first of them that is wrong,
or that asks for help, decides.
-/

set_option autoImplicit false

namespace AisFeed.CommandLine

/-- An option with a value: its names, and how the text of a value is read. -/
structure Setting (α : Type) where
  name : String
  letter : Option Char
  read? : String → Option α

/-- What reading has to know of an option: its names and, if it has a value, which texts are
values. -/
structure Parameter where
  name : String
  letter : Option Char
  accepts? : Option (String → Bool)

/-- An option without a value. -/
def Parameter.flag (name : String) : Parameter :=
  ⟨name, none, none⟩

/-- Is `value` one for the option, if it has values, or none if it has not? -/
def Parameter.fits (p : Parameter) (value : Option String) : Bool :=
  match p.accepts?, value with
  | none, none => true
  | some accepts, some text => accepts text
  | _, _ => false

/-- The option of a setting. -/
def Setting.parameter {α : Type} (s : Setting α) : Parameter :=
  ⟨s.name, s.letter, some fun text => (s.read? text).isSome⟩

/-- What a command takes: its options and, in order, which texts its operands are. -/
structure Signature where
  parameters : List Parameter
  operands : List (String → Bool)

/-- Why a command line is not carried out. -/
inductive Refusal where
  /-- It is not understood. -/
  | usage
  /-- It asks for help. -/
  | help
  /-- It asks for the version. -/
  | version
  deriving DecidableEq, Repr

/-- The options and operands of a command line, in their order. -/
structure Arguments where
  options : List (String × Option String)
  operands : List String
  deriving DecidableEq, Repr

namespace Arguments

/-- No options and no operands. -/
def empty : Arguments := ⟨[], []⟩

/-- Is an option given? -/
def has (a : Arguments) (name : String) : Bool :=
  a.options.any fun o => o.1 = name

/-- Add an option with a value that fits it, if the option is not given yet. -/
def addOption (a : Arguments) (p : Parameter) (value : Option String) : Except Refusal Arguments :=
  if a.has p.name || !p.fits value then .error .usage
  else .ok { a with options := a.options ++ [(p.name, value)] }

/-- Add an operand, if there is one more and it can be `text`. -/
def addOperand (s : Signature) (a : Arguments) (text : String) : Except Refusal Arguments :=
  match s.operands[a.operands.length]? with
  | none => .error .usage
  | some accepts =>
    if accepts text then .ok { a with operands := a.operands ++ [text] } else .error .usage

/-- Add operands one after the other. -/
def addOperands (s : Signature) (a : Arguments) (texts : List String) : Except Refusal Arguments :=
  texts.foldlM (addOperand s) a

/-- Can the argument be the value of an option before it? -/
def isValue (argument : String) : Bool :=
  match argument.toList with
  | '-' :: _ :: _ => false
  | _ => true

/-- What an argument stands for. -/
inductive Spelled where
  /-- An option, with its value if that is there too. -/
  | known (p : Parameter) (value : Option String)
  | operand
  /-- What follows are operands. -/
  | operandsOnly
  | refused (r : Refusal)

/-- The option of the long name in `text`, which a value may follow. -/
def ofName (parameters : List Parameter) (text : List Char) : Spelled :=
  let name := String.ofList (text.takeWhile (· != '='))
  let value := match text.dropWhile (· != '=') with
    | [] => none
    | _ :: value => some (String.ofList value)
  match parameters.find? fun p => p.name = name with
  | some p => .known p value
  | none => .refused (if name = "help" && value.isNone then .help else .usage)

/-- The option of a letter, which a value may follow. -/
def ofLetter (parameters : List Parameter) (letter : Char) (text : List Char) : Spelled :=
  match parameters.find? fun p => p.letter = some letter with
  | some p =>
    match text with
    | [] => .known p none
    | '=' :: value => .known p (some (String.ofList value))
    | value => .known p (some (String.ofList value))
  | none => .refused (if letter = 'h' then .help else .usage)

/-- What an argument stands for among the options of a command. -/
def spelled (parameters : List Parameter) (argument : String) : Spelled :=
  match argument.toList with
  | ['-', '-'] => .operandsOnly
  | '-' :: '-' :: text => ofName parameters text
  | '-' :: letter :: text => ofLetter parameters letter text
  | _ => .operand

/-- Read arguments after those in `a`. -/
def readFrom (s : Signature) (a : Arguments) : List String → Except Refusal Arguments
  | [] => .ok a
  | argument :: rest =>
    match spelled s.parameters argument with
    | .refused r => .error r
    | .operandsOnly => a.addOperands s rest
    | .operand =>
      match a.addOperand s argument with
      | .error r => .error r
      | .ok a => readFrom s a rest
    | .known p value =>
      match value.isNone && p.accepts?.isSome, rest with
      | true, next :: rest =>
        match (if isValue next then a.addOption p (some next) else .error .usage) with
        | .error r => .error r
        | .ok a => readFrom s a rest
      | _, rest =>
        match a.addOption p value with
        | .error r => .error r
        | .ok a => readFrom s a rest

/-- The options and operands of `arguments`. -/
def read (s : Signature) (arguments : List String) : Except Refusal Arguments :=
  readFrom s .empty arguments

/-- The value of a setting, if it is given. -/
def get? {α : Type} (a : Arguments) (s : Setting α) : Option α :=
  ((a.options.find? fun o => o.1 = s.name).bind Prod.snd).bind s.read?

end Arguments

end AisFeed.CommandLine
