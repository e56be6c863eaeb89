import PinkyLex.Json.Input
import PinkyLex.Json.Real
import PinkyLex.Text.Quoted

namespace PinkyLex.Json

/-!
# Failures of reading

Reading a data file fails with a cause and a place.  A file can end too early,
break the rules of the notation, or be well formed and say something that makes
no sense where it stands.
-/

/-- What stands in a data file where something else is expected. -/
inductive Found where
  | null
  | boolean (value : Bool)
  | integer (value : Int)
  | real (value : Decimal)
  | string (value : String)
  | sequence
  | map
  deriving Repr, DecidableEq

namespace Found

/-- How a message names what was found. -/
def description : Found → String
  | null => "null"
  | boolean true => "boolean `true`"
  | boolean false => "boolean `false`"
  | integer value => "integer `" ++ toString value ++ "`"
  | real value => "floating point `" ++ value.toText ++ "`"
  | string value => "string " ++ Text.quoted value
  | sequence => "sequence"
  | map => "map"

end Found

/-- Why reading failed. -/
inductive FailureCause where
  | endInValue
  | endInString
  | endInList
  | endInObject
  | expectedValue
  | expectedIdent
  | expectedColon
  | expectedCommaInList
  | expectedCommaInObject
  | keyNotString
  | trailingComma
  | trailingCharacters
  | invalidNumber
  | numberOutOfRange
  | invalidEscape
  | loneSurrogate
  | unpairedSurrogate
  | controlCharacter
  | invalidType (found : Found) (expected : String)
  | unknownVariant (variant : String) (known : List String)
  | duplicateField (field : String)
  deriving Repr, DecidableEq

/-- The kinds of failures. -/
inductive FailureCategory where
  | ended
  | malformed
  | meaningless
  deriving Repr, DecidableEq

namespace FailureCause

/-- Quote a name for a message. -/
def marked (name : String) : String :=
  "`" ++ name ++ "`"

/-- How a message lists the names that are known. -/
def expectation : List String → String
  | [] => "there are no variants"
  | [only] => "expected " ++ marked only
  | [first, second] => "expected " ++ marked first ++ " or " ++ marked second
  | known => "expected one of " ++ ", ".intercalate (known.map marked)

/-- What went wrong, without the place. -/
def description : FailureCause → String
  | endInValue => "EOF while parsing a value"
  | endInString => "EOF while parsing a string"
  | endInList => "EOF while parsing a list"
  | endInObject => "EOF while parsing an object"
  | expectedValue => "expected value"
  | expectedIdent => "expected ident"
  | expectedColon => "expected `:`"
  | expectedCommaInList => "expected `,` or `]`"
  | expectedCommaInObject => "expected `,` or `\x7d`"
  | keyNotString => "key must be a string"
  | trailingComma => "trailing comma"
  | trailingCharacters => "trailing characters"
  | invalidNumber => "invalid number"
  | numberOutOfRange => "number out of range"
  | invalidEscape => "invalid escape"
  | loneSurrogate => "lone leading surrogate in hex escape"
  | unpairedSurrogate => "unexpected end of hex escape"
  | controlCharacter =>
      "control character (\\u0000-\\u001F) found while parsing a string"
  | invalidType found expected =>
      "invalid type: " ++ found.description ++ ", expected " ++ expected
  | unknownVariant variant known =>
      "unknown variant " ++ marked variant ++ ", " ++ expectation known
  | duplicateField field =>
      "duplicate field " ++ marked field

/-- The kind of failure that a cause leads to. -/
def category : FailureCause → FailureCategory
  | endInValue | endInString | endInList | endInObject =>
      .ended
  | invalidType .. | unknownVariant .. | duplicateField .. =>
      .meaningless
  | _ =>
      .malformed

end FailureCause

/-- Why and where reading failed. -/
structure Failure where
  cause : FailureCause
  place : Place
  deriving Repr, DecidableEq

/-- What went wrong and where. -/
def Failure.message (failure : Failure) : String :=
  failure.cause.description ++ " at line " ++ toString failure.place.line ++ " column " ++
    toString failure.place.column

end PinkyLex.Json
