import PinkyLex.Json.Failure
import PinkyLex.Source.File
import PinkyLex.Vocabulary.Basic

namespace PinkyLex

/-!
# Setup errors

Settings and vocabularies come from data files.  Such a file may be unreadable
or malformed, and a vocabulary may have an entry that no scan can use.
-/

/-- Why settings or a vocabulary could not be loaded. -/
inductive SetupError where
  | unreadable (path : String) (reason : FileError)
  | malformed (failure : Json.Failure)
  | defective (defect : Vocabulary.Defect)
  deriving Repr, DecidableEq

/-- How a report words a defect of a vocabulary. -/
def Vocabulary.Defect.message : Vocabulary.Defect → String
  | notIdentifier spelling =>
      "'" ++ spelling ++ "' can never be scanned as an identifier"
  | notKeyword spelling kind =>
      "'" ++ spelling ++ "' maps to " ++ kind.name ++ ", which is not a keyword kind"

namespace SetupError

/-- How a report words an error. -/
def message : SetupError → String
  | unreadable path reason => "read '" ++ path ++ "': " ++ reason.message
  | malformed failure => "invalid JSON: " ++ failure.message
  | defective defect => defect.message

/-- How a report words what an error goes back to, if it goes back to anything. -/
def causes : SetupError → List String
  | unreadable _ reason => [reason.message]
  | malformed failure => [failure.message]
  | defective _ => []

end SetupError

end PinkyLex
