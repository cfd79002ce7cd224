import ContentRules.CommandLine.FileTree
import ContentRules.CommandLine.Input

/-!
The system around a run, as far as it can go wrong: input may break off, a file may not let itself
be opened or may not take a whole text, and what the program says may reach nobody.
-/

namespace ContentRules.CommandLine

/-- What goes wrong with an output, besides what its path is the reason of. -/
inductive OutputFault where
  /-- The file cannot be opened. -/
  | opening (fault : String)
  /-- The file takes so many bytes and no more. -/
  | writing (room : Nat) (fault : String)
  /-- That the text has been written cannot be said. -/
  | saying (fault : String)
  deriving DecidableEq, Repr

/-- The input of a run and the faults that it meets. -/
structure System where
  input : Input
  /-- The fault of the output that goes to a path. -/
  outputFault? : String → Option OutputFault := fun _ => none
  /-- Whether complaints reach anybody. -/
  takesComplaints : Bool := true

/-- A system without faults, where a text is all there is to read. -/
def System.faultless (text : String) : System := { input := .ofText text }

/-- The complaint about a file that cannot be opened. -/
def openFailure (path fault : String) : String := "Failed to open '" ++ path ++ "': " ++ fault

/-- The complaint about a file that does not take a whole text. -/
def writeFailure (path fault : String) : String := "Failed to write '" ++ path ++ "': " ++ fault

namespace System

variable (system : System)

/-- Puts a text at the end of the file that a path names, seen from a folder. A file that is missing
is made when it is opened, and what it takes before a fault stays in it. -/
def append (current : Place) (t : FileTree) (path text : String) : FileTree × Except String Unit :=
  let bytes := Text.bytes text
  match system.outputFault? path with
  | some (.opening fault) => (t, .error (openFailure path fault))
  | fault? =>
    match t.filePlace current path with
    | .error e => (t, .error (openFailure path e.message))
    | .ok place =>
      match fault? with
      | some (.writing room fault) =>
        if room < bytes.length then
          (t.append place (bytes.take room), .error (writeFailure path fault))
        else (t.append place bytes, .ok ())
      | _ => (t.append place bytes, .ok ())

/-- What is to be said about the output of a path can be said. -/
def takesNotice (path : String) : Bool :=
  match system.outputFault? path with
  | some (.saying _) => false
  | _ => true

end System

end ContentRules.CommandLine
