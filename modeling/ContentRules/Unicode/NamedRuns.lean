import ContentRules.Unicode.BinaryProperty.Table
import ContentRules.Unicode.RowTable
import ContentRules.Unicode.Script.Table

/-!
Sets of code points by name: scripts and the properties that a code point has or has not. A
directory is a text of items that end in semicolons; an item gives its names, an equals sign and
runs.
-/

namespace ContentRules.Unicode.NamedRuns

/-- The runs of the item with the given name. -/
def find? (directory : String) (name : String) : Option (RowTable Unit) :=
  (Text.pieces (· == ';') directory.toList).findSome? fun item =>
    match Text.cutFirst (· == '=') item with
    | none => none
    | some (names, runs) =>
      if (Text.words names).contains name.toList then
        some (RowTable.ofText (fun _ => ()) (String.ofList runs))
      else none

/-- The code points written in a script. -/
def script? (name : String) : Option (RowTable Unit) := find? Script.scriptText name

/-- The code points that a script uses, shared ones included. -/
def scriptExtension? (name : String) : Option (RowTable Unit) :=
  (find? Script.extensionText name).orElse fun _ => script? name

/-- The code points with a property. -/
def property? (name : String) : Option (RowTable Unit) := find? BinaryProperty.propertyText name

end ContentRules.Unicode.NamedRuns
