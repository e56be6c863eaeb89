import PinkyLex.Text.Alphabetic
import PinkyLex.Text.Numeric

namespace PinkyLex.Text

/-!
# Words

A word starts with an alphabetic character or an underscore and goes on with
alphabetic and numeric characters and underscores.
-/

/-- Whether a character is alphabetic or numeric. -/
def isAlphanumeric (character : Char) : Bool :=
  isAlphabetic character || isNumeric character

/-- Whether a word may start with a character. -/
def startsWord (character : Char) : Bool :=
  isAlphabetic character || character == '_'

/-- Whether a word may go on with a character. -/
def continuesWord (character : Char) : Bool :=
  isAlphanumeric character || character == '_'

/-- Whether some characters are one word. -/
def isWord : List Char → Bool
  | [] =>
      false
  | first :: rest =>
      startsWord first && rest.all continuesWord

/-- A word may go on with every character that it may start with. -/
theorem continuesWord_of_startsWord
    {character : Char}
    (starts : startsWord character = true) :
    continuesWord character = true := by
  simp only [startsWord, Bool.or_eq_true] at starts
  rcases starts with alphabetic | underscore
  · simp [continuesWord, isAlphanumeric, alphabetic]
  · simp [continuesWord, underscore]

end PinkyLex.Text
