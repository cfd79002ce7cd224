import ContentRules.Advanced.Payload
import ContentRules.Native.SizeLimit
import ContentRules.Safari.Version

/-!
The settings of a conversion.
-/

namespace ContentRules

/-- What a conversion is to produce. -/
structure Config where
  version : Version := .standard
  /-- Make the rule list shorter where this changes nothing. -/
  optimize : Bool := false
  /-- The format of the advanced payload, if it is wanted. -/
  advanced : Option PayloadFormat := none
  /-- The most bytes that the rule list may have. -/
  maxBytes : Option Nat := none
  deriving DecidableEq

/-- A setting that no conversion can follow. -/
inductive ConfigError where
  | unsupportedFormat (text : String)
  | unsupportedVersion (text : String)
  | sizeBudgetTooSmall (bytes : Nat)
  deriving DecidableEq, Repr

namespace ConfigError

/-- The fault in words. -/
def message : ConfigError → String
  | unsupportedFormat text => "unsupported advanced blocking format: " ++ text
  | unsupportedVersion text => "unsupported Safari version: " ++ text
  | sizeBudgetTooSmall bytes =>
    "max json size of " ++ toString bytes ++ " bytes cannot hold an empty rule list"

end ConfigError

open Number in
/-- The version of a number, if there are rule lists for it. -/
def Version.ofNumber (number : Binary32) : Except ConfigError Version :=
  match Version.ofNumber? number with
  | some version => .ok version
  | none => .error (.unsupportedVersion (String.ofList number.chars))

/-- The format that a text names. -/
def PayloadFormat.ofText (text : String) : Except ConfigError PayloadFormat :=
  match PayloadFormat.ofText? text with
  | some format => .ok format
  | none => .error (.unsupportedFormat text)

/-- The budget of bytes holds at least an empty rule list. -/
def Config.check (config : Config) : Except ConfigError Unit :=
  match config.maxBytes with
  | none => .ok ()
  | some bytes => if bytes < emptyListBytes then .error (.sizeBudgetTooSmall bytes) else .ok ()

end ContentRules
