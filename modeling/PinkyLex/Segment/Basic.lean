import PinkyLex.Settings.Basic
import PinkyLex.Text.Word
import PinkyLex.Token.Kind

namespace PinkyLex

/-!
# Segments

A source is cut into segments: line ends, blanks, comments, operators and, in a
dialect with literals, numbers, strings and words.  At every place the longest
possible segment is taken.  `Segment.reach?` says, for a text split into its
first character and the rest, what kind that segment has and how many
characters of the rest belong to it; so a segment is never empty, and what it
takes and what it leaves are a split of the text by construction.
-/

/-- What a segment is. -/
inductive SegmentKind where
  | lineEnd
  | blank
  | comment
  | operator (symbol : Operator)
  | integer
  | float
  | string
  | word
  deriving Repr, DecidableEq

/-- A piece of a source with its kind. -/
structure Segment where
  kind : SegmentKind
  text : List Char
  deriving Repr, DecidableEq

namespace Operator

/-- The operator written with two given characters. -/
def ofPair? : Char → Char → Option Operator
  | '=', '=' => some .equal
  | '~', '=' => some .notEqual
  | '<', '=' => some .lessEqual
  | '>', '=' => some .greaterEqual
  | ':', '=' => some .assign
  | _, _ => none

/-- The operator written with one given character. -/
def ofChar? : Char → Option Operator
  | '(' => some .leftParen
  | ')' => some .rightParen
  | '{' => some .leftBrace
  | '}' => some .rightBrace
  | '[' => some .leftBracket
  | ']' => some .rightBracket
  | '.' => some .dot
  | ',' => some .comma
  | '+' => some .plus
  | '-' => some .minus
  | '*' => some .star
  | '^' => some .caret
  | '/' => some .slash
  | ';' => some .semicolon
  | '?' => some .question
  | '%' => some .percent
  | '~' => some .not
  | '<' => some .less
  | '>' => some .greater
  | ':' => some .colon
  | _ => none

end Operator

namespace Segment

/-- Whether a character separates segments and means nothing else. -/
def isBlank (character : Char) : Bool :=
  character == ' ' || character == '\t' || character == '\r'

/-- Whether a character opens a string, which the same character closes. -/
def isQuote (character : Char) : Bool :=
  character == '"' || character == '\''

/-- Whether a character belongs to a comment that has begun. -/
def insideLine (character : Char) : Bool :=
  character != '\n'

/-- Whether a character belongs to the inside of a string that a quote has opened. -/
def insideString (settings : Settings) (quote character : Char) : Bool :=
  character != quote && (settings.multilineStrings || insideLine character)

/-- How far a comment goes on after its first character. -/
def commentReach? (dialect : Dialect) (first : Char) (rest : List Char) : Option Nat :=
  match dialect, first, rest with
  | .pinky, '-', '-' :: body =>
      some (1 + (body.takeWhile insideLine).length)
  | .hash, '#', body =>
      some (body.takeWhile insideLine).length
  | _, _, _ =>
      none

/-- The operator that starts with a character and how far it goes on, two characters before one. -/
def operatorReach? (first : Char) (rest : List Char) : Option (Operator × Nat) :=
  match rest.head?.bind (Operator.ofPair? first) with
  | some symbol =>
      some (symbol, 1)
  | none =>
      (Operator.ofChar? first).map fun symbol => (symbol, 0)

/-- The kind of a number and how far it goes on after its first digit. -/
def numberReach (rest : List Char) : SegmentKind × Nat :=
  let whole := (rest.takeWhile Char.isDigit).length
  match rest.dropWhile Char.isDigit with
  | '.' :: fraction =>
      let digits := (fraction.takeWhile Char.isDigit).length
      if digits = 0 then
        (.integer, whole)
      else
        (.float, whole + 1 + digits)
  | _ =>
      (.integer, whole)

/-- How far a string goes on after its opening quote, if it is closed. -/
def stringReach? (settings : Settings) (quote : Char) (rest : List Char) : Option Nat :=
  if (rest.dropWhile (insideString settings quote)).head? = some quote then
    some ((rest.takeWhile (insideString settings quote)).length + 1)
  else
    none

/-- How far a word goes on after its first character. -/
def wordReach (rest : List Char) : Nat :=
  (rest.takeWhile Text.continuesWord).length

/-- The kind of a literal or word and how far it goes on after its first character. -/
def literalReach?
    (settings : Settings)
    (first : Char)
    (rest : List Char) :
    Option (SegmentKind × Nat) :=
  if first.isDigit then
    some (numberReach rest)
  else if isQuote first then
    (stringReach? settings first rest).map fun count => (.string, count)
  else if Text.startsWord first then
    some (.word, wordReach rest)
  else
    none

/--
The kind of the longest segment that starts with a character, and how many of
the characters after it belong to that segment.
-/
def reach?
    (settings : Settings)
    (first : Char)
    (rest : List Char) :
    Option (SegmentKind × Nat) :=
  if first = '\n' then
    some (.lineEnd, 0)
  else if isBlank first then
    some (.blank, 0)
  else
    match commentReach? settings.dialect first rest with
    | some count =>
        some (.comment, count)
    | none =>
        match operatorReach? first rest with
        | some (symbol, count) =>
            some (.operator symbol, count)
        | none =>
            if settings.dialect.hasLiterals then
              literalReach? settings first rest
            else
              none

/-- The number of line ends inside a segment. -/
def lineEnds (segment : Segment) : Nat :=
  segment.text.count '\n'

end Segment

end PinkyLex
