namespace PinkyLex.Text

/-!
# Text as bytes

Offsets and lengths count the bytes of the UTF-8 form of a text.  A text can only be
cut at the bytes at which its characters start, and at its end.  Files and standard
input hold bytes, which are a text only if they are valid UTF-8.
-/

/-- The number of bytes of the UTF-8 form of some characters. -/
def byteLength : List Char → Nat
  | [] =>
      0
  | character :: rest =>
      character.utf8Size + byteLength rest

@[simp] theorem byteLength_nil :
    byteLength [] = 0 :=
  rfl

@[simp] theorem byteLength_cons
    (character : Char)
    (rest : List Char) :
    byteLength (character :: rest) = character.utf8Size + byteLength rest :=
  rfl

@[simp] theorem byteLength_append
    (first second : List Char) :
    byteLength (first ++ second) = byteLength first + byteLength second := by
  induction first with
  | nil =>
      simp
  | cons character rest inductionHypothesis =>
      simp [inductionHypothesis, Nat.add_assoc]

/--
The characters before a byte and those from it on, unless the byte lies inside a
character or past the end.
-/
def splitAtByte? : Nat → List Char → Option (List Char × List Char)
  | 0, text =>
      some ([], text)
  | _ + 1, [] =>
      none
  | count + 1, character :: rest =>
      if character.utf8Size ≤ count + 1 then do
        let (front, back) ← splitAtByte? (count + 1 - character.utf8Size) rest
        pure (character :: front, back)
      else
        none

theorem append_of_splitAtByte?
    {count : Nat}
    {text front back : List Char}
    (split : splitAtByte? count text = some (front, back)) :
    front ++ back = text := by
  fun_induction splitAtByte? count text generalizing front with
  | case1 text =>
      cases split
      rfl
  | case2 | case4 =>
      cases split
  | case3 count character rest fits inductionHypothesis =>
      obtain ⟨⟨before, after⟩, cut, same⟩ := Option.bind_eq_some_iff.mp split
      cases same
      rw [List.cons_append, inductionHypothesis cut]

/-- The byte at which the first character that satisfies a test starts, if there is one. -/
def byteOfFirst? (test : Char → Bool) : List Char → Option Nat
  | [] =>
      none
  | character :: rest =>
      if test character then
        some 0
      else do
        let byte ← byteOfFirst? test rest
        pure (character.utf8Size + byte)

/-- The text between two bytes, unless one lies inside a character or they are not in order. -/
def slice? (text : String) (start stop : Nat) : Option String :=
  if places :
      String.Pos.Raw.IsValid text ⟨start⟩ ∧
        String.Pos.Raw.IsValid text ⟨stop⟩ ∧
        start ≤ stop then
    some (text.extract (text.pos ⟨start⟩ places.1) (text.pos ⟨stop⟩ places.2.1))
  else
    none

/-- The text whose UTF-8 form the bytes are, if they are one. -/
def decode? (bytes : List UInt8) : Option String :=
  String.fromUTF8? bytes.toByteArray

/-- The UTF-8 form of a text. -/
def encode (text : String) : List UInt8 :=
  text.toByteArray.toList

end PinkyLex.Text
