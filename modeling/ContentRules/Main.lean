import ContentRules.CommandLine.Run

/-!
The program: it takes filters from standard input and writes rule lists for Safari.
-/

namespace ContentRules.CommandLine

/-- What the program says when it is asked for help. -/
def helpText : String :=
  "Converts filter rules into content blockers for Safari.\n\n" ++
  "  -s, --safari-version <NUMBER>            version of Safari [default: 13]\n" ++
  "  -o, --optimize <true|false>              merge entries [default: false]\n" ++
  "  -a, --advanced-blocking <true|false>     write the advanced payload [default: false]\n" ++
  "  -f, --advanced-blocking-format <FORMAT>  json or txt [default: json]\n" ++
  "  -m, --max-json-size-bytes <BYTES>        0 for no limit [default: 0]\n" ++
  "  -n, --output-file-name <NAME>            without extension [default: unnamed_list]\n" ++
  "  -d, --output-dir <FOLDER>                where files are written [default: .]\n"

/-- The fault of a failed attempt to open a file, with the number that the system gave it. -/
def faultText : IO.Error → String
  | .noFileOrDirectory .. => PathError.notFound.message
  | .inappropriateType _ 20 _ => PathError.notAFolder.message
  | .inappropriateType _ 21 _ => PathError.isAFolder.message
  | e => toString e

/-- Says something to somebody, or gives the run up. -/
def say (out : IO.FS.Stream) (text : String) (code : UInt32) : IO UInt32 := do
  try
    out.putStrLn text
    out.flush
    return code
  catch _ => return abortCode.toUInt32

/-- Ends a run with a complaint. -/
def fail (complaint : String) : IO UInt32 := do say (← IO.getStderr) ("Error: " ++ complaint) 1

/-- Writes outputs in order and says what was written; the first failure ends the run. -/
def perform : List Output → IO UInt32
  | [] => return 0
  | o :: rest => do
    match o.text with
    | .error complaint => fail complaint
    | .ok text =>
      match ← (IO.FS.Handle.mk o.path .append).toBaseIO with
      | .error e => fail (openFailure o.path (faultText e))
      | .ok handle =>
        match ← (do handle.putStr text; handle.flush : IO Unit).toBaseIO with
        | .error e => fail (writeFailure o.path (toString e))
        | .ok () =>
          if (← say (← IO.getStdout) o.notice 0) = 0 then perform rest
          else return abortCode.toUInt32

/-- All that there is to read. -/
def readInput (stream : IO.FS.Stream) : IO Input := do
  let mut bytes := ByteArray.empty
  repeat
    match ← (stream.read 65536).toBaseIO with
    | .error e => return { bytes := bytes.data.toList, fault := some (toString e) }
    | .ok more =>
      if more.isEmpty then break
      bytes := bytes ++ more
  return { bytes := bytes.data.toList }

/-- Ends a run that writes nothing. -/
def stop : Stop → IO UInt32
  | .refusal .help => do
    let _ ← (IO.print helpText).toBaseIO
    return 0
  | .refusal .usage => do
    let _ ← (IO.eprint helpText).toBaseIO
    return 2
  | .failure complaint => fail complaint

end ContentRules.CommandLine

open ContentRules.CommandLine in
def main (words : List String) : IO UInt32 := do
  match settings words with
  | .error reason => stop reason
  | .ok (args, config) =>
    match outputsOf args config (← readInput (← IO.getStdin)) with
    | .error reason => stop reason
    | .ok outputs => perform outputs
