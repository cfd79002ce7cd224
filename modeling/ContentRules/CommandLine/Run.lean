import ContentRules.CommandLine.Arguments
import ContentRules.CommandLine.System
import ContentRules.Conversion.Convert
import ContentRules.Json.Pretty
import ContentRules.Json.Reader

/-!
A run of the program. It reads filters up to the first empty line, converts them, and appends the
rule list, indented, to a file; the advanced payload, if it is wanted, goes to a second file. The
settings are looked at before the filters.
-/

namespace ContentRules.CommandLine

/-- A text that is to go to the end of a file, and what is said once this is done. -/
structure Output where
  path : String
  /-- The text, or the complaint about its making. -/
  text : Except String String
  notice : String

/-- Why a run writes nothing. -/
inductive Stop where
  | refusal (reason : Refusal)
  | failure (complaint : String)

/-- The settings that the arguments ask for. -/
def Arguments.config (args : Arguments) : Except ConfigError Config := do
  let version ← Version.ofNumber args.safariVersion
  let format ← PayloadFormat.ofText args.advancedBlockingFormat
  let config : Config :=
    { version
      optimize := args.optimize
      advanced := if args.advancedBlocking then some format else none
      maxBytes := if args.maxJsonSizeBytes = 0 then none else some args.maxJsonSizeBytes }
  config.check
  return config

/-- The path of a file in a folder. A name from the top stands for itself. -/
def joinPath (folder name : String) : String :=
  if name.startsWith "/" then name
  else if folder.endsWith "/" then folder ++ name
  else folder ++ "/" ++ name

/-- The notice about entries that were written. -/
def writtenNotice (count : Nat) (what path : String) : String :=
  "Wrote " ++ toString count ++ " " ++ what ++ " to '" ++ path ++ "'"

/-- The indented text of what a compact text writes. -/
def indented (compact : String) : Except String String :=
  match Json.read? compact with
  | some v => .ok v.prettyText
  | none => .error "Invalid JSON payload"

/-- The output for the rule list. -/
def listOutput (args : Arguments) (list : LimitedList) : Output :=
  let path := joinPath args.outputDir (args.outputFileName ++ ".json")
  { path
    text := indented list.json
    notice := writtenNotice list.entries.length "entries" path }

/-- The output for the advanced payload. -/
def payloadOutput (args : Arguments) (payload : WrittenPayload) : Output :=
  let path :=
    joinPath args.outputDir (args.outputFileName ++ "-advanced." ++ payload.format.word)
  { path
    text := match payload.format with
      | .json => indented payload.text
      | .txt => .ok payload.text
    notice := writtenNotice payload.entries.length "advanced blocking entries" path }

/-- The outputs of a conversion, in the order in which they are written. -/
def outputs (args : Arguments) (c : Conversion) : List Output :=
  listOutput args c.list :: (c.advanced.map (payloadOutput args)).toList

/-- The complaint about settings that a conversion does not take. -/
def conversionFailure (e : ConfigError) : String :=
  "Conversion failed: invalid configuration: " ++ e.message

/-- What the words of a command line ask for. -/
def settings (words : List String) : Except Stop (Arguments × Config) := do
  let args ← (Arguments.read words).mapError .refusal
  let config ← args.config.mapError fun e => .failure e.message
  return (args, config)

/-- The outputs for the filters of an input. -/
def outputsOf (args : Arguments) (config : Config) (input : Input) : Except Stop (List Output) := do
  let lines ← input.lines.mapError .failure
  let conversion ← (convert config lines).mapError fun e => .failure (conversionFailure e)
  return outputs args conversion

/-- What the program is to write, given its arguments and its input. -/
def plan (words : List String) (input : Input) : Except Stop (List Output) := do
  let (args, config) ← settings words
  outputsOf args config input

/-- How a run ends: the exit code, the notices, and the complaint. -/
structure Ending where
  exitCode : Nat
  notices : List String := []
  complaint : Option String := none

/-- The exit code of a run that is broken off because nobody hears what it says. -/
def abortCode : Nat := 134

namespace System

variable (system : System)

/-- A run ends with a complaint, if somebody hears it. -/
def complain (complaint : String) : Ending :=
  if system.takesComplaints then ⟨1, [], some complaint⟩ else ⟨abortCode, [], none⟩

/-- Writes outputs in order, up to the first that fails. -/
def writeAll (current : Place) (t : FileTree) : List Output → FileTree × Ending
  | [] => (t, ⟨0, [], none⟩)
  | o :: rest =>
    match o.text with
    | .error complaint => (t, system.complain complaint)
    | .ok text =>
      match system.append current t o.path text with
      | (t, .error complaint) => (t, system.complain complaint)
      | (t, .ok ()) =>
        if system.takesNotice o.path then
          let (t, ending) := writeAll current t rest
          (t, { ending with notices := o.notice :: ending.notices })
        else (t, ⟨abortCode, [], none⟩)

/-- A run of the program in a folder of a tree. -/
def run (current : Place) (t : FileTree) (words : List String) : FileTree × Ending :=
  match plan words system.input with
  | .error (.refusal .help) => (t, ⟨0, [], none⟩)
  | .error (.refusal .usage) => (t, ⟨2, [], none⟩)
  | .error (.failure complaint) => (t, system.complain complaint)
  | .ok outputs => system.writeAll current t outputs

end System

/-- A run of the program in a system without faults. -/
def run (current : Place) (t : FileTree) (words : List String) (input : String) :
    FileTree × Ending :=
  (System.faultless input).run current t words

end ContentRules.CommandLine
