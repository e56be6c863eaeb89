import PinkyLex.Json.Reader

namespace PinkyLex.Json

/-!
# Strings of a data file

A string stands between double quotes.  A backslash starts an escape: one
letter, or `u` with four hexadecimal digits.  Characters beyond U+FFFF are
escaped as two surrogates, which must then stand together.

A string that nobody looks at is only skipped: its escapes must be well formed,
but its surrogates may stand alone.
-/

namespace Quoted

/-- The character that a one-letter escape stands for. -/
def ofLetter? : Char → Option Char
  | '"' => some '"'
  | '\\' => some '\\'
  | '/' => some '/'
  | 'b' => some '\x08'
  | 'f' => some '\x0c'
  | 'n' => some '\n'
  | 'r' => some '\r'
  | 't' => some '\t'
  | _ => none

/-- The value of a hexadecimal digit. -/
def hexValue? (character : Char) : Option Nat :=
  if character.isDigit then
    some (character.toNat - 48)
  else if 'a' ≤ character ∧ character ≤ 'f' then
    some (character.toNat - 87)
  else if 'A' ≤ character ∧ character ≤ 'F' then
    some (character.toNat - 55)
  else
    none

/-- The number that four hexadecimal digits at the front of a text stand for. -/
def fourDigits? : List Char → Option Nat
  | first :: second :: third :: fourth :: _ => do
      let thousands ← hexValue? first
      let hundreds ← hexValue? second
      let tens ← hexValue? third
      let ones ← hexValue? fourth
      pure (((thousands * 16 + hundreds) * 16 + tens) * 16 + ones)
  | _ =>
      none

/-- Fail because the four bytes at the front are not hexadecimal digits, or not there. -/
def failDigits : Reader α where
  run input :=
    match input.place.advance? 4 input.rest with
    | some place =>
        .error { cause := .invalidEscape, place := place }
    | none =>
        .error { cause := .endInString, place := input.place.afterAll input.rest }
  shrinks := by
    intro input after found success
    split at success <;> cases success

/-- Look at four hexadecimal digits. -/
def lookDigits : Reader (Option Nat) where
  run input :=
    .ok (fourDigits? input.rest, input)
  shrinks := by
    intro input after found success
    cases success
    exact Nat.le_refl _

/-- Read four hexadecimal digits. -/
def readDigits : Reader Nat := do
  match ← lookDigits with
  | some number =>
      Reader.skip 4
      pure number
  | none =>
      failDigits

/-- Whether a number is the first half of an escaped character beyond U+FFFF. -/
def isHighSurrogate (number : Nat) : Bool :=
  0xd800 ≤ number && number ≤ 0xdbff

/-- Whether a number is the second half of an escaped character beyond U+FFFF. -/
def isLowSurrogate (number : Nat) : Bool :=
  0xdc00 ≤ number && number ≤ 0xdfff

/-- The character that two surrogates stand for. -/
def joinSurrogates (high low : Nat) : Char :=
  Char.ofNat (0x10000 + (high - 0xd800) * 0x400 + (low - 0xdc00))

/-- Go past the expected character, or fail one byte further on. -/
def expectInPair (expected : Char) : Reader Unit :=
  Reader.onNext (Reader.failHere .endInString) fun next =>
    if next = expected then
      Reader.skip 1
    else
      Reader.failAhead .unpairedSurrogate

/-- Read what follows the letter `u` of an escape. -/
def readUnicode : Reader Char := do
  let number ← readDigits
  if isLowSurrogate number then
    Reader.failHere .loneSurrogate
  else if isHighSurrogate number then
    expectInPair '\\'
    expectInPair 'u'
    let second ← readDigits
    if isLowSurrogate second then
      pure (joinSurrogates number second)
    else
      Reader.failHere .loneSurrogate
  else
    pure (Char.ofNat number)

/-- Read what follows the backslash of an escape, given how to read what follows its `u`. -/
def readEscape (unicode : Reader α) (plain : Char → α) : Reader α :=
  Reader.onNext (Reader.failHere .endInString) fun next =>
    if next = 'u' then do
      Reader.skip 1
      unicode
    else
      match ofLetter? next with
      | some character => do
          Reader.skip 1
          pure (plain character)
      | none =>
          Reader.failAhead .invalidEscape

/-- Whether a character must be escaped in a string. -/
def isControl (character : Char) : Bool :=
  character.toNat < 0x20

/-- Read one more character of a string, or its closing quote. -/
def step (read : List Char) : Reader (List Char ⊕ String) :=
  Reader.onNext (Reader.failHere .endInString) fun next =>
    if next = '"' then do
      Reader.skip 1
      pure (.inr (String.ofList read.reverse))
    else if next = '\\' then do
      Reader.skip 1
      let character ← readEscape readUnicode id
      pure (.inl (character :: read))
    else if isControl next then
      Reader.failAhead .controlCharacter
    else do
      Reader.skip 1
      pure (.inl (next :: read))

theorem strict_step (read : List Char) : (step read).Strict := by
  refine Reader.strict_onNext (Reader.strict_failAt _ _) fun next => ?_
  split
  · exact Reader.strictInside_skip_bind _
  · split
    · exact Reader.strictInside_skip_bind _
    · split
      · exact (Reader.strict_failAt _ _).inside
      · exact Reader.strictInside_skip_bind _

/-- Read a string after its opening quote. -/
def readRest : Reader String :=
  Reader.loop step strict_step []

/-- Go past one more character of a string, or its closing quote. -/
def passOver (_ : Unit) : Reader (Unit ⊕ Unit) :=
  Reader.onNext (Reader.failHere .endInString) fun next =>
    if next = '"' then do
      Reader.skip 1
      pure (.inr ())
    else if next = '\\' then do
      Reader.skip 1
      readEscape (discard readDigits) fun _ => ()
      pure (.inl ())
    else if isControl next then
      Reader.failHere .controlCharacter
    else do
      Reader.skip 1
      pure (.inl ())

theorem strict_passOver (state : Unit) : (passOver state).Strict := by
  refine Reader.strict_onNext (Reader.strict_failAt _ _) fun next => ?_
  split
  · exact Reader.strictInside_skip_bind _
  · split
    · exact Reader.strictInside_skip_bind _
    · split
      · exact (Reader.strict_failAt _ _).inside
      · exact Reader.strictInside_skip_bind _

/-- Go past a string after its opening quote. -/
def passRest : Reader Unit :=
  Reader.loop passOver strict_passOver ()

end Quoted

end PinkyLex.Json
