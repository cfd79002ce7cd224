import ContentRules.Text.Utf8

/-!
The input of a run. It holds bytes, which are read line by line as UTF-8, up to the first empty
line; what follows that line is never looked at.
-/

namespace ContentRules.CommandLine

/-- What there is to read. -/
structure Input where
  bytes : List UInt8
  /-- The fault that ends the input where it does not simply end. -/
  fault : Option String := none

namespace Input

def ofText (text : String) : Input := { bytes := Text.bytes text }

/-- What reading line by line gives: the pieces between line feeds. A fault takes the place of the
last piece, whose end is never seen. -/
def pieces (i : Input) : List (Except String (List UInt8)) :=
  let whole := i.bytes.splitOn 10
  match i.fault with
  | none => whole.map .ok
  | some fault => whole.dropLast.map .ok ++ [.error fault]

/-- The text of a line; carriage returns at its end do not count. -/
def lineOf (bytes : List UInt8) : Except String String :=
  match Text.ofBytes? bytes with
  | some text => .ok (String.ofList (text.toList.reverse.dropWhile (· == '\r')).reverse)
  | none => .error "stream did not contain valid UTF-8"

/-- Reads lines up to the first that is empty, after those that have been read. -/
def readLines (lines : Array String) :
    List (Except String (List UInt8)) → Except String (List String)
  | [] => .ok lines.toList
  | piece :: rest =>
    match piece.bind lineOf with
    | .error fault => .error ("Failed to read stdin: " ++ fault)
    | .ok line => if line.isEmpty then .ok lines.toList else readLines (lines.push line) rest

/-- The lines before the first empty one. -/
def lines (i : Input) : Except String (List String) := readLines #[] i.pieces

end Input

end ContentRules.CommandLine
