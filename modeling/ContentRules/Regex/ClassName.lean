import ContentRules.Regex.CharSet
import ContentRules.Unicode.NamedRuns

/-!
The names under which regular expressions know classes of characters: general categories, scripts
and properties in `\p` escapes, and the names between colons inside brackets. Classes by age and for
breaking text into graphemes, words and sentences are left out: their names are refused.
-/

namespace ContentRules.Regex.ClassName

open Unicode

/-- Names are compared by their ASCII letters and digits alone, capitals small, and without a
leading `is`. The name `isc` keeps it, for `c` is a general category. -/
def normalize (name : List Char) : String :=
  let kept :=
    (name.filter fun c => c.toNat < 128 && c != ' ' && c != '_' && c != '-').map Char.toLower
  match (name.take 2).map Char.toLower with
  | ['i', 's'] => if kept = ['i', 's', 'c'] then "isc" else String.ofList (kept.drop 2)
  | _ => String.ofList kept

/-- The general categories and their groups by normalized name. Surrogates are no characters, so
their category has no name here. -/
def categories : List (List String × List Category) :=
  [(["lu", "uppercaseletter"], [.lu]),
    (["ll", "lowercaseletter"], [.ll]),
    (["lt", "titlecaseletter"], [.lt]),
    (["lc", "casedletter"], [.lu, .ll, .lt]),
    (["lm", "modifierletter"], [.lm]),
    (["lo", "otherletter"], [.lo]),
    (["l", "letter"], [.lu, .ll, .lt, .lm, .lo]),
    (["mn", "nonspacingmark"], [.mn]),
    (["mc", "spacingmark"], [.mc]),
    (["me", "enclosingmark"], [.me]),
    (["m", "mark", "combiningmark"], [.mn, .mc, .me]),
    (["nd", "decimalnumber", "digit"], [.nd]),
    (["nl", "letternumber"], [.nl]),
    (["no", "othernumber"], [.no]),
    (["n", "number"], [.nd, .nl, .no]),
    (["pc", "connectorpunctuation"], [.pc]),
    (["pd", "dashpunctuation"], [.pd]),
    (["ps", "openpunctuation"], [.ps]),
    (["pe", "closepunctuation"], [.pe]),
    (["pi", "initialpunctuation"], [.pi]),
    (["pf", "finalpunctuation"], [.pf]),
    (["po", "otherpunctuation"], [.po]),
    (["p", "punctuation", "punct"], [.pc, .pd, .ps, .pe, .pi, .pf, .po]),
    (["sm", "mathsymbol"], [.sm]),
    (["sc", "currencysymbol"], [.sc]),
    (["sk", "modifiersymbol"], [.sk]),
    (["so", "othersymbol"], [.so]),
    (["s", "symbol"], [.sm, .sc, .sk, .so]),
    (["zs", "spaceseparator"], [.zs]),
    (["zl", "lineseparator"], [.zl]),
    (["zp", "paragraphseparator"], [.zp]),
    (["z", "separator"], [.zs, .zl, .zp]),
    (["cc", "control", "cntrl"], [.cc]),
    (["cf", "format"], [.cf]),
    (["co", "privateuse"], [.co]),
    (["cn", "unassigned"], [.cn]),
    (["c", "other"], [.cc, .cf, .cs, .co, .cn])]

/-- The general category, or group of categories, of a normalized name. -/
def category? (name : String) : Option CharSet :=
  match name with
  | "any" => some .all
  | "ascii" => some (.range (Char.ofNat 0) (Char.ofNat 127))
  | "assigned" => some (.compl (.category [.cn]))
  | _ => (categories.find? (·.1.contains name)).map fun item => .category item.2

/-- Names that abbreviate a category although a property has the same abbreviation. -/
def isCategoryFirst (name : String) : Bool := name == "cf" || name == "sc" || name == "lc"

/-- The class of a single name: a property, else a general category, else a script. -/
def named? (name : List Char) : Option CharSet :=
  let name := normalize name
  let property := if isCategoryFirst name then none else (NamedRuns.property? name).map .runs
  (property.orElse fun _ => category? name).orElse fun _ => (NamedRuns.script? name).map .runs

/-- The class of the code points whose property has a value. -/
def valued? (property value : List Char) : Option CharSet :=
  let value := normalize value
  match normalize property with
  | "gc" => category? value
  | "generalcategory" => category? value
  | "sc" => (NamedRuns.script? value).map .runs
  | "script" => (NamedRuns.script? value).map .runs
  | "scx" => (NamedRuns.scriptExtension? value).map .runs
  | "scriptextensions" => (NamedRuns.scriptExtension? value).map .runs
  | _ => none

/-- The class that stands in braces after `\p`, and whether it is written with `!=` and so stands
for all other characters. -/
def braced? (text : List Char) : Option (CharSet × Bool) :=
  match Text.cutAt ['!', '='] text with
  | some (property, value) => (valued? property value).map (·, true)
  | none =>
    match (Text.cutFirst (· == ':') text).orElse fun _ => Text.cutFirst (· == '=') text with
    | some (property, value) => (valued? property value).map (·, false)
    | none => (named? text).map (·, false)

/-- The classes of ASCII characters that brackets name between colons. -/
def ascii? (name : List Char) : Option CharSet :=
  match String.ofList name with
  | "alnum" => some (.ranges [('0', '9'), ('A', 'Z'), ('a', 'z')])
  | "alpha" => some (.ranges [('A', 'Z'), ('a', 'z')])
  | "ascii" => some (.range (Char.ofNat 0) (Char.ofNat 127))
  | "blank" => some (.ranges [('\t', '\t'), (' ', ' ')])
  | "cntrl" => some (.ranges [(Char.ofNat 0, Char.ofNat 31), (Char.ofNat 127, Char.ofNat 127)])
  | "digit" => some .asciiDigit
  | "graph" => some (.range '!' '~')
  | "lower" => some (.range 'a' 'z')
  | "print" => some (.range ' ' '~')
  | "punct" => some (.ranges [('!', '/'), (':', '@'), ('[', Char.ofNat 96), ('{', '~')])
  | "space" => some .asciiBlank
  | "upper" => some (.range 'A' 'Z')
  | "word" => some .asciiWord
  | "xdigit" => some (.ranges [('0', '9'), ('A', 'F'), ('a', 'f')])
  | _ => none

end ContentRules.Regex.ClassName
