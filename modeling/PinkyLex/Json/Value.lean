import PinkyLex.Json.Numeral
import PinkyLex.Json.Quoted

namespace PinkyLex.Json

/-!
# Values of a data file

Readers for the values that the program's own data files have: booleans, nulls
and one of several names.  Where another value stands, it is read far enough to
say what it is; lists and objects are recognised by their first character.

A name may stand in a string, or be the only key of an object whose value is
null.
-/

namespace Reader

/-- Go past the given characters. -/
def expectWord : List Char → Reader Unit
  | [] =>
      pure ()
  | expected :: others =>
      onNext (failHere .endInValue) fun next =>
        if next = expected then do
          skip 1
          expectWord others
        else
          failAhead .expectedIdent

/-- Going past at least one character is strict. -/
theorem strict_expectWord_cons (expected : Char) (others : List Char) :
    (expectWord (expected :: others)).Strict := by
  refine strict_onNext (strict_failAt _ _) fun next => ?_
  split
  · exact strictInside_skip_bind _
  · exact (strict_failAt _ _).inside

/-- Fail because a value of another type stands here; the type wanted is described. -/
def mismatch (expected : String) : Reader α :=
  let reject (found : Found) : Reader α :=
    failHere (.invalidType found expected)
  onNext (failHere .endInValue) fun next =>
    if next = 'n' then do
      expectWord ['n', 'u', 'l', 'l']
      reject .null
    else if next = 't' then do
      expectWord ['t', 'r', 'u', 'e']
      reject (.boolean true)
    else if next = 'f' then do
      expectWord ['f', 'a', 'l', 's', 'e']
      reject (.boolean false)
    else if next = '-' then do
      skip 1
      reject (← Numeral.readValue true)
    else if next.isDigit then do
      reject (← Numeral.readValue false)
    else if next = '"' then do
      skip 1
      reject (.string (← Quoted.readRest))
    else if next = '[' then
      reject .sequence
    else if next = '{' then
      reject .map
    else
      failAhead .expectedValue

/-- Read a boolean. -/
def boolean : Reader Bool :=
  dispatch .endInValue fun next =>
    if next = 't' then do
      expectWord ['t', 'r', 'u', 'e']
      pure true
    else if next = 'f' then do
      expectWord ['f', 'a', 'l', 's', 'e']
      pure false
    else
      mismatch "a boolean"

/-- Read a null. -/
def null : Reader Unit :=
  dispatch .endInValue fun next =>
    if next = 'n' then
      expectWord ['n', 'u', 'l', 'l']
    else
      mismatch "unit"

/-- Go past the colon between a key and its value. -/
def colon : Reader Unit :=
  dispatch .endInObject fun next =>
    if next = ':' then
      skip 1
    else
      failAhead .expectedColon

/-- Read a string after its opening quote, as one of the known names. -/
def nameRest (known : List String) (ofName? : String → Option α) : Reader α := do
  let name ← Quoted.readRest
  match ofName? name with
  | some value => pure value
  | none => failHere (.unknownVariant name known)

/-- Read one of the known names as the only key of an object, after the opening brace. -/
def nameObjectRest (known : List String) (ofName? : String → Option α) : Reader α := do
  let value ← dispatch .endInObject fun next =>
    if next = '"' then do
      skip 1
      nameRest known ofName?
    else if next = '}' then
      failAhead .expectedValue
    else
      failAhead .keyNotString
  colon
  null
  skipBlanks
  onNext (failHere .endInObject) fun next =>
    if next = '}' then do
      skip 1
      pure value
    else
      failHere .expectedValue

/-- Read one of the known names, in a string or as the only key of an object. -/
def name (known : List String) (ofName? : String → Option α) : Reader α :=
  dispatch .endInValue fun next =>
    if next = '"' then do
      skip 1
      nameRest known ofName?
    else if next = '{' then do
      skip 1
      nameObjectRest known ofName?
    else
      failAhead .expectedValue

end Reader

end PinkyLex.Json
