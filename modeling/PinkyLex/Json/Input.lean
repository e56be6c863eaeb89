namespace PinkyLex.Json

/-!
# Places in a data file

A place is a line, counted from one, and the number of bytes of that line that
lie before it.  Some messages speak of the place of the next character and some
of the place one byte further, which may lie inside a character or, after a
line feed, on the next line.
-/

/-- A line and the number of bytes before the place on that line. -/
structure Place where
  line : Nat := 1
  column : Nat := 0
  deriving Repr, DecidableEq

namespace Place

/-- The place after some bytes of a character that stands here. -/
def afterBytes (place : Place) (character : Char) (count : Nat) : Place :=
  if character = '\n' then
    { line := place.line + 1, column := 0 }
  else
    { place with column := place.column + count }

/-- The place after a character that stands here. -/
def after (place : Place) (character : Char) : Place :=
  place.afterBytes character character.utf8Size

/-- The place after some characters that stand here. -/
def afterAll (place : Place) (characters : List Char) : Place :=
  characters.foldl after place

/-- The place some bytes further on, unless the text ends before it. -/
def advance? : Place → Nat → List Char → Option Place
  | place, 0, _ =>
      some place
  | _, _ + 1, [] =>
      none
  | place, count + 1, character :: rest =>
      if character.utf8Size ≤ count + 1 then
        advance? (place.after character) (count + 1 - character.utf8Size) rest
      else
        some (place.afterBytes character (count + 1))

end Place

/-- The part of a data file that has not been read, with its place. -/
structure Input where
  place : Place := {}
  rest : List Char
  deriving Repr, DecidableEq

namespace Input

/-- A whole data file. -/
def ofText (text : String) : Input :=
  { rest := text.toList }

/-- The place one byte further on, or the end of the text. -/
def ahead (input : Input) : Place :=
  match input.rest with
  | [] => input.place
  | next :: _ => input.place.afterBytes next 1

/-- The input after some of its characters. -/
def drop (input : Input) (count : Nat) : Input where
  place := input.place.afterAll (input.rest.take count)
  rest := input.rest.drop count

/-- Reading on never leaves more to read. -/
theorem length_drop_le
    (input : Input)
    (count : Nat) :
    (input.drop count).rest.length ≤ input.rest.length := by
  simp [drop]

/-- Reading on past at least one of the characters leaves less to read. -/
theorem length_drop_lt
    {input : Input}
    {count : Nat}
    (some_left : input.rest ≠ [])
    (positive : 0 < count) :
    (input.drop count).rest.length < input.rest.length := by
  have := List.length_pos_iff.mpr some_left
  simp only [drop, List.length_drop]
  omega

end Input

end PinkyLex.Json
