import ContentRules.Host.Mapping
import ContentRules.Host.Punycode
import ContentRules.Unicode.BidiClass
import ContentRules.Unicode.Category
import ContentRules.Unicode.JoiningType

/-!
The labels of a host name, the parts between its points. A label in Punycode is read first; what it
writes has to be a mapped label beyond ASCII. Then every label has to start with a base character,
to use joiners only where the script asks for them and, if any label is written from right to left,
to keep to one direction.
-/

namespace ContentRules.Host.Label

open Unicode

/-- What stands before a label in Punycode. -/
def mark : List Char := ['x', 'n', '-', '-']

/-- The most characters a label may have to be written in Punycode, and to be read from it. -/
def maxDecoded : Nat := 1000
def maxEncoded : Nat := 2000

/-- ASCII characters that no host may hold: controls, the blank, and what
delimits parts of a URL. -/
def isForbidden (c : Char) : Bool :=
  c.toNat ≤ 0x20 || c.toNat = 0x7F ||
    ['#', '%', '/', ':', '<', '>', '?', '@', '[', '\\', ']', '^', '|'].contains c

/-- The label in plain characters: one in Punycode is read, any other stands for itself. -/
def decode? (label : List Char) : Option (List Char) :=
  if mark.isPrefixOf label then
    let text := label.drop mark.length
    if !Text.isAscii text || maxEncoded < text.length then none
    else
      match Punycode.decode? text with
      | none => none
      | some plain =>
        if Text.isAscii plain || !Mapping.isMapped plain || mark.isPrefixOf plain ||
          plain.contains '.' then none else some plain
  else some label

/-- The label in ASCII. -/
def encode? (label : List Char) : Option (List Char) :=
  if Text.isAscii label then some label
  else if maxDecoded < label.length then none
  else some (mark ++ Punycode.encode label)

/-- The sign that suppresses a vowel, after which joiners may stand. -/
def isVirama (c : Char) : Bool := Composition.combiningClass c = 9

def joinsThrough (p : JoiningType → Bool) (s : List Char) : Bool :=
  match s.dropWhile fun c => JoiningType.of c == .transparent with
  | [] => false
  | c :: _ => p (JoiningType.of c)

/-- Joiners stand where they have a meaning: after a virama, and the non-joiner also between two
characters that would join. The characters before the text are given last first. -/
def joinersInPlace (before : List Char) : List Char → Bool
  | [] => true
  | c :: r =>
    let afterVirama := (before.head?.map isVirama).getD false
    let allowed :=
      if c.toNat = 0x200D then afterVirama
      else if c.toNat = 0x200C then
        afterVirama || (joinsThrough JoiningType.joinsNext before &&
            joinsThrough JoiningType.joinsPrevious r)
      else true
    allowed && joinersInPlace (c :: before) r

/-- The character combines with the one before it. No ASCII character does. -/
def isMark (c : Char) : Bool := 128 ≤ c.toNat && (Category.of c).isMark

/-- The label may stand in a host name, direction aside. -/
def isValid (label : List Char) : Bool :=
  !label.any isForbidden && joinersInPlace [] label && !(label.head?.map isMark).getD false

/-- The character makes the host name one with text from right to left. No ASCII character does. -/
def isRightToLeft (c : Char) : Bool :=
  128 ≤ c.toNat &&
    match BidiClass.of c with
    | .r | .al | .an => true
    | _ => false

def mayStandLeft : BidiClass → Bool
  | .l | .en | .es | .cs | .et | .on | .bn | .nsm => true
  | _ => false

def mayStandRight : BidiClass → Bool
  | .r | .al | .an | .en | .es | .cs | .et | .on | .bn | .nsm => true
  | _ => false

/-- The label keeps to one direction: the first character sets it, the last one that is no mark
belongs to it or is a number, and numbers of two kinds do not meet from right to left. -/
def keepsDirection (label : List Char) : Bool :=
  let classes := label.map BidiClass.of
  let tail := (classes.drop 1).reverse.dropWhile (· == .nsm)
  match classes.head?, tail.head? with
  | none, _ => true
  | some .l, last =>
    (last == none || last == some .l || last == some .en) && tail.all mayStandLeft
  | some first, last =>
    (first == .r || first == .al) &&
      (last == none || last == some .r || last == some .al || last == some .en ||
        last == some .an) &&
      tail.all mayStandRight && !(tail.contains .en && tail.contains .an)

end ContentRules.Host.Label
