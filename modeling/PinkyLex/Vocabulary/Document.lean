import PinkyLex.Json.Object
import PinkyLex.Setup.Error

namespace PinkyLex

/-!
# Vocabularies in a data file

A vocabulary is an object that maps spellings to the codes of kinds.  The last
member wins for each spelling, and only the winners need to be valid.
-/

open Json

namespace TokenKind

/-- Read the code of a kind. -/
def read : Reader TokenKind :=
  Reader.name (all.map code) ofCode?

/-- The kind that a data file names. -/
def ofJson (text : String) : Except Failure TokenKind :=
  read.readAll text

end TokenKind

namespace Vocabulary

/-- Read one member after its key; members are collected with the latest one first. -/
def readMember (members : List (String × TokenKind)) (spelling : String) :
    Reader (List (String × TokenKind)) := do
  Reader.colon
  let kind ← TokenKind.read
  pure ((spelling, kind) :: members)

/-- Read the members of an object, in the order of the text. -/
def readPairs : Reader (List (String × TokenKind)) :=
  Reader.dispatch .endInValue fun next =>
    if next = '{' then do
      Reader.skip 1
      List.reverse <$> Reader.members readMember []
    else
      Reader.mismatch "a map"

/-- The vocabulary that a data file gives if its entries are checked in some order. -/
def ofJsonIn (order : EntryOrder) (text : String) : Except SetupError Vocabulary := do
  let pairs ← (readPairs.readAll text).mapError SetupError.malformed
  (takeOver empty (order.arrange (ofPairs pairs))).mapError SetupError.defective

/-- A data file without a vocabulary is malformed, or has an entry that no scan can use. -/
theorem malformed_or_defective_of_ofJsonIn
    {order : EntryOrder}
    {text : String}
    {error : SetupError}
    (failed : ofJsonIn order text = .error error) :
    (∃ failure, error = .malformed failure) ∨ ∃ defect, error = .defective defect := by
  cases result : readPairs.readAll text with
  | error failure =>
      rw [ofJsonIn, result] at failed
      cases failed
      exact .inl ⟨failure, rfl⟩
  | ok pairs =>
      rw [ofJsonIn, result] at failed
      change (takeOver empty (order.arrange (ofPairs pairs))).mapError SetupError.defective = _
        at failed
      cases taken : takeOver empty (order.arrange (ofPairs pairs)) with
      | ok vocabulary =>
          rw [taken] at failed
          cases failed
      | error defect =>
          rw [taken] at failed
          cases failed
          exact .inr ⟨defect, rfl⟩

/-- The vocabulary that a data file gives. -/
def ofJson (text : String) : Except SetupError Vocabulary :=
  ofJsonIn .listed text

end Vocabulary

end PinkyLex
