import ContentRules.Number.Binary32

/-!
The arguments of the program. Every option takes one value, which is attached to it or follows as
the next word, and may be given once. A word that starts with a hyphen is never the value of the
option before it, unless it is the hyphen alone.
-/

namespace ContentRules.CommandLine

open Number

/-- The options of the program. -/
inductive OptionName where
  | safariVersion | optimize | advancedBlocking | advancedBlockingFormat | maxJsonSizeBytes
  | outputFileName | outputDir
  deriving DecidableEq, Repr

namespace OptionName

def all : List OptionName :=
  [safariVersion, optimize, advancedBlocking, advancedBlockingFormat, maxJsonSizeBytes,
    outputFileName, outputDir]

/-- The name after two hyphens. -/
def long : OptionName → String
  | safariVersion => "safari-version"
  | optimize => "optimize"
  | advancedBlocking => "advanced-blocking"
  | advancedBlockingFormat => "advanced-blocking-format"
  | maxJsonSizeBytes => "max-json-size-bytes"
  | outputFileName => "output-file-name"
  | outputDir => "output-dir"

/-- The letter after one hyphen. -/
def short : OptionName → Char
  | safariVersion => 's'
  | optimize => 'o'
  | advancedBlocking => 'a'
  | advancedBlockingFormat => 'f'
  | maxJsonSizeBytes => 'm'
  | outputFileName => 'n'
  | outputDir => 'd'

end OptionName

/-- The values of all options. -/
structure Arguments where
  safariVersion : Binary32 := .finite false (13 * Binary32.one)
  optimize : Bool := false
  advancedBlocking : Bool := false
  advancedBlockingFormat : String := "json"
  /-- Zero stands for no limit. -/
  maxJsonSizeBytes : Nat := 0
  outputFileName : String := "unnamed_list"
  outputDir : String := "."

/-- Why the program does not start its work. -/
inductive Refusal where
  /-- The arguments ask for help. -/
  | help
  /-- The arguments are not understood. -/
  | usage
  deriving DecidableEq, Repr

def readFlag? : String → Option Bool
  | "true" => some true
  | "false" => some false
  | _ => none

/-- A number of bytes: decimal digits, with a plus sign or without, and a value of 64 bits. -/
def readSize? (s : String) : Option Nat :=
  let digits :=
    match s.toList with
    | '+' :: r => r
    | r => r
  if digits.isEmpty || !digits.all Char.isDigit then none
  else
    let n := Text.number 10 digits
    if n < 1 <<< 64 then some n else none

namespace Arguments

/-- The arguments with the value of an option set, if it is one that the option takes. -/
def set? (args : Arguments) (name : OptionName) (value : String) : Option Arguments :=
  match name with
  | .safariVersion =>
    (Binary32.read? value.toList).map fun n => { args with safariVersion := n }
  | .optimize => (readFlag? value).map fun b => { args with optimize := b }
  | .advancedBlocking => (readFlag? value).map fun b => { args with advancedBlocking := b }
  | .advancedBlockingFormat => some { args with advancedBlockingFormat := value }
  | .maxJsonSizeBytes => (readSize? value).map fun n => { args with maxJsonSizeBytes := n }
  | .outputFileName => some { args with outputFileName := value }
  | .outputDir => if value.isEmpty then none else some { args with outputDir := value }

end Arguments

/-- What a word of the arguments is. -/
inductive Word where
  | option (name : OptionName) (value : Option String)
  | help
  /-- Two hyphens end the options. -/
  | endOfOptions
  | other
  deriving DecidableEq, Repr

namespace Word

/-- An option with its name in full, and a value after an equals sign. -/
def ofLong (s : List Char) : Word :=
  let name := String.ofList (s.takeWhile (· != '='))
  let value :=
    match s.dropWhile (· != '=') with
    | _ :: r => some (String.ofList r)
    | [] => none
  if name = "help" && value.isNone then .help
  else
    match OptionName.all.find? fun o => o.long == name with
    | some o => .option o value
    | none => .other

/-- An option with its letter; what follows is its value, less an equals sign in front. -/
def ofShort (c : Char) (s : List Char) : Word :=
  if c = 'h' then .help
  else
    match OptionName.all.find? fun o => o.short == c with
    | none => .other
    | some o =>
      match s with
      | [] => .option o none
      | '=' :: r => .option o (some (String.ofList r))
      | r => .option o (some (String.ofList r))

def ofText (s : String) : Word :=
  match s.toList with
  | ['-', '-'] => .endOfOptions
  | '-' :: '-' :: r => ofLong r
  | '-' :: c :: r => ofShort c r
  | _ => .other

end Word

/-- The word cannot follow an option as its value. -/
def isHyphenated (s : String) : Bool := s.startsWith "-" && s != "-"

namespace Arguments

/-- The arguments after one more option, unless it was given before. -/
def setOnce (args : Arguments) (given : List OptionName) (name : OptionName) (value : String) :
    Except Refusal Arguments :=
  if given.contains name then .error .usage
  else
    match args.set? name value with
    | some args => .ok args
    | none => .error .usage

/-- Reads the words after those that set some options. -/
def readFrom (args : Arguments) (given : List OptionName) : List String → Except Refusal Arguments
  | [] => .ok args
  | word :: rest =>
    match Word.ofText word with
    | .help => .error .help
    | .other => .error .usage
    | .endOfOptions => if rest.isEmpty then .ok args else .error .usage
    | .option name (some value) =>
      match args.setOnce given name value with
      | .error e => .error e
      | .ok args => readFrom args (name :: given) rest
    | .option name none =>
      match rest with
      | [] => .error .usage
      | value :: rest =>
        if isHyphenated value then .error .usage
        else
          match args.setOnce given name value with
          | .error e => .error e
          | .ok args => readFrom args (name :: given) rest

/-- The arguments that the words of a command line make. -/
def read (words : List String) : Except Refusal Arguments := readFrom {} [] words

end Arguments

end ContentRules.CommandLine
