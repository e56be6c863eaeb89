import PinkyLex.Json.Input
import PinkyLex.Text.Bytes

namespace PinkyLex.Json

/-!
# Forms of data files

What strings and objects of a data file look like, and what they stand for, is said
here of their texts alone.  A character of a string has many forms: as it is, with a
letter behind a backslash, or by its code in hexadecimal digits, in two halves if it
lies beyond U+FFFF.  What the members of an object look like behind their keys is up
to the kind of file.
-/

/-- Blanks between the parts of a data file. -/
def Blanks (text : List Char) : Prop :=
  ∀ character ∈ text, character ∈ [' ', '\n', '\t', '\r']

instance : DecidablePred Blanks :=
  List.decidableBAll fun character => character ∈ [' ', '\n', '\t', '\r']

theorem blanks_nil :
    Blanks [] := by
  decide

/-- The value of a hexadecimal digit, in lower case or in capitals. -/
def HexDigit (digit : Char) (value : Nat) : Prop :=
  "0123456789abcdef".toList[value]? = some digit ∨
    "0123456789ABCDEF".toList[value]? = some digit

/-- Four hexadecimal digits and the number that they stand for. -/
inductive CodeUnit : List Char → Nat → Prop where
  | digits {first second third fourth : Char} {thousands hundreds tens ones : Nat} :
      HexDigit first thousands →
      HexDigit second hundreds →
      HexDigit third tens →
      HexDigit fourth ones →
      CodeUnit [first, second, third, fourth]
        (thousands * 4096 + hundreds * 256 + tens * 16 + ones)

/-- The letters that stand for a character behind a backslash. -/
def letterEscapes : List (Char × Char) :=
  [('"', '"'), ('\\', '\\'), ('/', '/'), ('b', '\x08'), ('f', '\x0c'), ('n', '\n'), ('r', '\r'),
    ('t', '\t')]

/-- What a character may look like in a string. -/
inductive CharForm : List Char → Char → Prop where
  | plain {character : Char} :
      character ∉ ['"', '\\'] →
      0x20 ≤ character.toNat →
      CharForm [character] character
  | letter {letter character : Char} :
      (letter, character) ∈ letterEscapes →
      CharForm ['\\', letter] character
  | unicode {digits : List Char} {character : Char} :
      CodeUnit digits character.toNat →
      CharForm ('\\' :: 'u' :: digits) character
  | surrogates {digits more : List Char} {high low : Nat} {character : Char} :
      CodeUnit digits high →
      CodeUnit more low →
      0xd800 ≤ high ∧ high ≤ 0xdbff →
      0xdc00 ≤ low ∧ low ≤ 0xdfff →
      character.toNat = 0x10000 + (high - 0xd800) * 0x400 + (low - 0xdc00) →
      CharForm ('\\' :: 'u' :: (digits ++ '\\' :: 'u' :: more)) character

/-- What some characters may look like one after the other. -/
inductive CharsForm : List Char → List Char → Prop where
  | nil :
      CharsForm [] []
  | cons {text rest : List Char} {character : Char} {characters : List Char} :
      CharForm text character →
      CharsForm rest characters →
      CharsForm (text ++ rest) (character :: characters)

/-- What a string may look like, its quotes included. -/
inductive StringForm : List Char → String → Prop where
  | quoted {text : List Char} {value : String} :
      CharsForm text value.toList →
      StringForm ('"' :: (text ++ ['"'])) value

/-- Characters that need no escape may stand for themselves. -/
theorem charsForm_self
    {characters : List Char}
    (ordinary : ∀ character ∈ characters, character ∉ ['"', '\\'] ∧ 0x20 ≤ character.toNat) :
    CharsForm characters characters := by
  induction characters with
  | nil =>
      exact .nil
  | cons character characters inductionHypothesis =>
      obtain ⟨⟨plain, printable⟩, others⟩ := List.forall_mem_cons.mp ordinary
      exact .cons (.plain plain printable) (inductionHypothesis others)

/-- A string that needs no escape may stand as it is between its quotes. -/
theorem stringForm_self
    (value : String)
    (ordinary : ∀ character ∈ value.toList, character ∉ ['"', '\\'] ∧ 0x20 ≤ character.toNat) :
    StringForm ('"' :: (value.toList ++ ['"'])) value :=
  .quoted (charsForm_self ordinary)

section Objects

variable {Member : Type}

/-- What may stand behind a member of an object, the closing brace included. -/
inductive MembersForm (MemberForm : String → List Char → Member → Prop) :
    List Char → List Member → Prop where
  | close {blanks : List Char} :
      Blanks blanks →
      MembersForm MemberForm (blanks ++ ['}']) []
  | next
      {before after keyText text rest : List Char}
      {key : String}
      {member : Member}
      {members : List Member} :
      Blanks before →
      Blanks after →
      StringForm keyText key →
      MemberForm key text member →
      MembersForm MemberForm rest members →
      MembersForm MemberForm (before ++ ',' :: (after ++ (keyText ++ (text ++ rest))))
        (member :: members)

/-- What an object may look like, given what its members look like behind their keys. -/
inductive ObjectForm (MemberForm : String → List Char → Member → Prop) :
    List Char → List Member → Prop where
  | empty {blanks : List Char} :
      Blanks blanks →
      ObjectForm MemberForm ('{' :: (blanks ++ ['}'])) []
  | members
      {before keyText text rest : List Char}
      {key : String}
      {member : Member}
      {members : List Member} :
      Blanks before →
      StringForm keyText key →
      MemberForm key text member →
      MembersForm MemberForm rest members →
      ObjectForm MemberForm ('{' :: (before ++ (keyText ++ (text ++ rest))))
        (member :: members)

theorem ObjectForm.exists_cons
    {MemberForm : String → List Char → Member → Prop}
    {text : List Char}
    {members : List Member}
    (form : ObjectForm MemberForm text members) :
    ∃ rest, text = '{' :: rest := by
  cases form <;> exact ⟨_, rfl⟩

end Objects

/-- What a whole file may look like: a value between blanks. -/
inductive FileForm {Value : Type} (ValueForm : List Char → Value → Prop) :
    List Char → Value → Prop where
  | value {before text after : List Char} {value : Value} :
      Blanks before →
      ValueForm text value →
      Blanks after →
      FileForm ValueForm (before ++ (text ++ after)) value

end PinkyLex.Json
