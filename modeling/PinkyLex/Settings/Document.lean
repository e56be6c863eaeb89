import PinkyLex.Json.Object
import PinkyLex.Json.Skip
import PinkyLex.Settings.Basic
import PinkyLex.Setup.Error

namespace PinkyLex

/-!
# Settings in a data file

Settings are an object with the optional members `dialect` and
`multiline_strings`, each at most once; other members are skipped.  They may
also be a list of the two values, in this order, which may break off early.
What is missing keeps its default.
-/

namespace Settings

/-- The settings as a one-line object. -/
def toJson (settings : Settings) : String :=
  "\x7b\"dialect\":\"" ++ settings.dialect.code ++ "\",\"multiline_strings\":" ++
    (if settings.multilineStrings then "true" else "false") ++ "\x7d"

/-- The values that a data file has given so far. -/
structure Given where
  dialect? : Option Dialect := none
  multilineStrings? : Option Bool := none
  deriving Repr, DecidableEq

/-- The settings with the given values and the defaults for the rest. -/
def ofGiven (given : Given) : Settings where
  dialect := given.dialect?.getD .pinky
  multilineStrings := given.multilineStrings?.getD true

open Json

/-- Read a dialect. -/
def readDialect : Reader Dialect :=
  Reader.name (Dialect.all.map Dialect.code) Dialect.ofCode?

/-- Fail because a member has been given before; a closing brace after its key is passed over. -/
def failDuplicate (field : String) : Reader α := do
  Reader.skipBlanks
  match ← Reader.peek with
  | some '}' =>
      Reader.skip 1
      Reader.failHere (.duplicateField field)
  | _ =>
      Reader.failHere (.duplicateField field)

/-- Read one member after its key. -/
def readMember (given : Given) (key : String) : Reader Given :=
  if key = "dialect" then
    if given.dialect?.isSome then
      failDuplicate key
    else do
      Reader.colon
      let dialect ← readDialect
      pure { given with dialect? := some dialect }
  else if key = "multiline_strings" then
    if given.multilineStrings?.isSome then
      failDuplicate key
    else do
      Reader.colon
      let allowed ← Reader.boolean
      pure { given with multilineStrings? := some allowed }
  else do
    Reader.colon
    skipValue
    pure given

/-- Go past the end of a list that has all its values. -/
def readListEnd : Reader Unit :=
  Reader.dispatch .endInList fun next =>
    if next = ']' then
      Reader.skip 1
    else if next = ',' then do
      Reader.skip 1
      Reader.skipBlanks
      match ← Reader.peek with
      | some ']' => Reader.failAhead .trailingComma
      | _ => Reader.failAhead .trailingCharacters
    else
      Reader.failAhead .trailingCharacters

/-- Read the second value of a list after its comma, and the end of the list. -/
def readSecond (given : Given) : Reader Given :=
  Reader.dispatch .endInValue fun next =>
    if next = ']' then
      Reader.failAhead .trailingComma
    else do
      let allowed ← Reader.boolean
      readListEnd
      pure { given with multilineStrings? := some allowed }

/-- Read what follows the first value of a list. -/
def readAfterFirst (given : Given) : Reader Given :=
  Reader.dispatch .endInList fun next =>
    if next = ']' then do
      Reader.skip 1
      pure given
    else if next = ',' then do
      Reader.skip 1
      readSecond given
    else
      Reader.failAhead .expectedCommaInList

/-- Read a list of values after its opening bracket. -/
def readList : Reader Given :=
  Reader.dispatch .endInList fun next =>
    if next = ']' then do
      Reader.skip 1
      pure {}
    else do
      let dialect ← readDialect
      readAfterFirst { dialect? := some dialect }

/-- Read settings. -/
def read : Reader Settings :=
  Reader.dispatch .endInValue fun next =>
    if next = '{' then do
      Reader.skip 1
      ofGiven <$> Reader.members readMember {}
    else if next = '[' then do
      Reader.skip 1
      ofGiven <$> readList
    else
      Reader.mismatch "struct ScanConfig"

/-- The settings that a data file gives. -/
def ofJson (text : String) : Except SetupError Settings :=
  (read.readAll text).mapError SetupError.malformed

/-- A data file without settings is malformed. -/
theorem malformed_of_ofJson
    {text : String}
    {error : SetupError}
    (failed : ofJson text = .error error) :
    ∃ failure, error = .malformed failure := by
  cases result : read.readAll text with
  | ok settings =>
      rw [ofJson, result] at failed
      cases failed
  | error failure =>
      rw [ofJson, result] at failed
      cases failed
      exact ⟨failure, rfl⟩

end Settings

end PinkyLex
