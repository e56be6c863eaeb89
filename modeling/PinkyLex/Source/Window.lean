import PinkyLex.Text.Bytes

namespace PinkyLex

/-!
# Windows

A window takes a source apart by hand, one character or one run of characters
at a time.  It knows the places of its lexeme as bytes of the source, and counts
lines as it is told to.  Cutting a text at a byte inside a character is impossible,
so what cuts may give nothing.
-/

/-- The part of a source that has not been read, with the byte at which it starts. -/
structure Unread where
  offset : Nat := 0
  rest : List Char
  deriving Repr, DecidableEq

namespace Unread

/-- A whole source. -/
def ofSource (source : String) : Unread where
  rest := source.toList

/-- Take the next character, if there is one. -/
def takeOne (unread : Unread) : Option Char × Unread :=
  match unread.rest with
  | [] =>
      (none, unread)
  | next :: others =>
      (some next, { offset := unread.offset + next.utf8Size, rest := others })

/-- Take some bytes, which must be those of whole characters. -/
def takeBytes? (unread : Unread) (count : Nat) : Option (List Char × Unread) := do
  let (taken, others) ← Text.splitAtByte? count unread.rest
  pure (taken, { offset := unread.offset + count, rest := others })

end Unread

/-- A lexeme of a source from the byte at which it starts up to what is unread, and the line. -/
structure Window where
  source : String
  unread : Unread
  start : Nat := 0
  line : Nat := 1
  deriving Repr, DecidableEq

namespace Window

/-- An empty window before a source. -/
def ofSource (source : String) : Window where
  source := source
  unread := .ofSource source

/-- The byte after the lexeme. -/
def stop (window : Window) : Nat :=
  window.unread.offset

/-- The lexeme, if it starts and stops between characters. -/
def lexeme? (window : Window) : Option String :=
  Text.slice? window.source window.start window.stop

/-- Begin a new lexeme where the window ends. -/
def beginLexeme (window : Window) : Window :=
  { window with start := window.stop }

/-- Count one more line. -/
def countLine (window : Window) : Window :=
  { window with line := window.line + 1 }

/-- The next character, if there is one. -/
def next? (window : Window) : Option Char :=
  window.unread.rest.head?

/-- The character that stands the given number of characters past the next one, if there is one. -/
def ahead? (window : Window) (distance : Nat) : Option Char :=
  window.unread.rest[distance]?

/-- Take the next character, if there is one, into the lexeme. -/
def takeOne (window : Window) : Option Char × Window :=
  let (next?, unread) := window.unread.takeOne
  (next?, { window with unread := unread })

/-- Take the next character into the lexeme if it is the expected one. -/
def accept (window : Window) (expected : Char) : Bool × Window :=
  if window.next? = some expected then
    (true, window.takeOne.2)
  else
    (false, window)

/--
Take the longest run of characters that satisfy a test into the lexeme, by its bytes:
those up to the first character that fails the test, or all that are left.
-/
def takeWhile? (window : Window) (test : Char → Bool) : Option Window := do
  let byte? := Text.byteOfFirst? (fun character => !test character) window.unread.rest
  let (_, unread) ← window.unread.takeBytes? (byte?.getD (Text.byteLength window.unread.rest))
  pure { window with unread := unread }

section Suffixes

variable {window next : Window}

theorem suffix_takeOne (window : Window) :
    window.takeOne.2.unread.rest <:+ window.unread.rest := by
  cases shape : window.unread.rest with
  | nil =>
      simp [takeOne, Unread.takeOne, shape]
  | cons character rest =>
      simp [takeOne, Unread.takeOne, shape]

theorem fst_takeOne (window : Window) :
    window.takeOne.1 = window.next? := by
  cases shape : window.unread.rest <;> simp [takeOne, Unread.takeOne, next?, shape]

/-- Taking a character leaves fewer characters. -/
theorem length_takeOne_lt
    {character : Char}
    (atHead : window.next? = some character) :
    window.takeOne.2.unread.rest.length < window.unread.rest.length := by
  obtain ⟨rest, shape⟩ := List.head?_eq_some_iff.mp atHead
  simp [takeOne, Unread.takeOne, shape]

theorem suffix_accept (window : Window) (expected : Char) :
    (window.accept expected).2.unread.rest <:+ window.unread.rest := by
  unfold accept
  split
  case isTrue =>
    exact window.suffix_takeOne
  case isFalse =>
    exact List.suffix_rfl

theorem suffix_takeWhile?
    {test : Char → Bool}
    (taken : window.takeWhile? test = some next) :
    next.unread.rest <:+ window.unread.rest := by
  obtain ⟨⟨front, unread⟩, cut, same⟩ := Option.bind_eq_some_iff.mp taken
  obtain ⟨parts, split, sameToo⟩ := Option.bind_eq_some_iff.mp cut
  cases same
  cases sameToo
  exact ⟨parts.1, Text.append_of_splitAtByte? split⟩

end Suffixes

/-- What can be done with a window. -/
inductive Operation where
  | beginLexeme
  | countLine
  | takeOne
  | look
  | lookAhead (distance : Nat)
  | accept (expected : Char)
  | takeWhile (test : Char → Bool)

/-- What an operation answers. -/
inductive Answer where
  | nothing
  | character (character? : Option Char)
  | accepted (success : Bool)
  deriving Repr, DecidableEq

/-- Do one operation; there is no outcome if it cuts a character apart. -/
def perform (window : Window) : Operation → Option (Answer × Window)
  | .beginLexeme =>
      some (.nothing, window.beginLexeme)
  | .countLine =>
      some (.nothing, window.countLine)
  | .takeOne =>
      some (.character window.takeOne.1, window.takeOne.2)
  | .look =>
      some (.character window.next?, window)
  | .lookAhead distance =>
      some (.character (window.ahead? distance), window)
  | .accept expected =>
      some (.accepted (window.accept expected).1, (window.accept expected).2)
  | .takeWhile test => do
      let after ← window.takeWhile? test
      pure (.nothing, after)

/-- Do one operation after the other. -/
def performAll (window : Window) : List Operation → Option Window
  | [] =>
      some window
  | operation :: others => do
      let (_, after) ← window.perform operation
      after.performAll others

end Window

end PinkyLex
