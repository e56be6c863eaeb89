import PinkyLex.Segment.Basic
import PinkyLex.Text.Bytes

namespace PinkyLex

/-!
# Scan faults

A scan stops at the first place where no segment starts.  The fault says why,
on which line and at which byte of the source; its label marks the bytes that
are to blame.
-/

/-- A source with the name under which a report shows it. -/
structure NamedSource where
  name : String := "input"
  text : String := ""
  deriving Repr, DecidableEq

/-- Why no segment starts at a place. -/
inductive FaultCause where
  | unterminatedString (length : Nat)
  | unrecognizedCharacter (character : Char)
  | malformedOperator (lexeme : String)
  deriving Repr, DecidableEq

namespace FaultCause

/-- What went wrong, without the line. -/
def description : FaultCause → String
  | unterminatedString _ =>
      "unterminated string"
  | unrecognizedCharacter character =>
      "unrecognized character '" ++ String.singleton character ++ "'"
  | malformedOperator lexeme =>
      "malformed operator '" ++ lexeme ++ "'"

/-- The identifier of a cause in a report. -/
def code : FaultCause → String
  | unterminatedString _ => "pinky::scan::unterminated_string"
  | unrecognizedCharacter _ => "pinky::scan::unrecognized_character"
  | malformedOperator _ => "pinky::scan::malformed_operator"

/-- Advice on mending the source. -/
def help? : FaultCause → Option String
  | malformedOperator _ => some "equality is written '==' and assignment ':='"
  | _ => none

/-- The text of the label. -/
def label : FaultCause → String
  | unterminatedString _ => "string starts here"
  | unrecognizedCharacter _ => "here"
  | malformedOperator _ => "expected '=' after this"

/-- The number of bytes that the label marks. -/
def labelLength : FaultCause → Nat
  | unterminatedString length => length
  | unrecognizedCharacter character => character.utf8Size
  | malformedOperator lexeme => lexeme.utf8ByteSize

/-- Why no segment starts with a character that stands before the given rest. -/
def of (settings : Settings) (first : Char) (rest : List Char) : FaultCause :=
  if first = '=' then
    .malformedOperator "="
  else if settings.dialect.hasLiterals && Segment.isQuote first then
    .unterminatedString
      (Text.byteLength (first :: rest.takeWhile (Segment.insideString settings first)))
  else
    .unrecognizedCharacter first

end FaultCause

/-- Why and where a scan stopped; the source may be attached for a report. -/
structure Fault where
  cause : FaultCause
  line : Nat
  offset : Nat
  source : NamedSource := {}
  deriving Repr, DecidableEq

namespace Fault

/-- What went wrong and on which line. -/
def message (fault : Fault) : String :=
  "[line " ++ toString fault.line ++ "] " ++ fault.cause.description

/-- Attach the source for a report. -/
def withSource (fault : Fault) (name text : String) : Fault :=
  { fault with source := ⟨name, text⟩ }

end Fault

end PinkyLex
