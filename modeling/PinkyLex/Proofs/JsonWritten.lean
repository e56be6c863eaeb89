import PinkyLex.Json.Written
import PinkyLex.Proofs.JsonTreeReading

namespace PinkyLex.Json

/-!
# What is written to a data file

Strings are written with escapes and numbers in decimal digits, and both have the form
that a data file asks for.
-/

theorem hexDigit_of_lt
    {value : Nat}
    (bound : value < 16) :
    HexDigit (Text.hexDigit value) value := by
  left
  interval_cases value <;> rfl

/-- What a character is written as stands for it. -/
theorem charForm_escaped (character : Char) :
    CharForm (Written.escaped character) character := by
  unfold Written.escaped
  split
  case h_8 notQuote notBackslash _ _ _ _ _ =>
    split
    case isTrue control =>
      have code :
          CodeUnit ['0', '0', Text.hexDigit (character.toNat / 16),
            Text.hexDigit (character.toNat % 16)] character.toNat := by
        have digits := CodeUnit.digits (.inl rfl : HexDigit '0' 0) (.inl rfl : HexDigit '0' 0)
          (hexDigit_of_lt (show character.toNat / 16 < 16 by omega))
          (hexDigit_of_lt (show character.toNat % 16 < 16 by omega))
        have number : 0 * 4096 + 0 * 256 + character.toNat / 16 * 16 + character.toNat % 16 =
            character.toNat := by
          omega
        rwa [number] at digits
      exact .unicode code
    case isFalse printable =>
      refine .plain ?_ (Nat.le_of_not_lt printable)
      simp only [List.mem_cons, List.not_mem_nil, or_false, not_or]
      exact ⟨notQuote, notBackslash⟩
  all_goals exact .letter (by decide)

theorem charsForm_escaped (characters : List Char) :
    CharsForm (characters.flatMap Written.escaped) characters := by
  induction characters with
  | nil =>
      exact .nil
  | cons character characters inductionHypothesis =>
      exact .cons (charForm_escaped character) inductionHypothesis

/-- What a text is written as is a string that stands for it. -/
theorem stringForm_written (text : String) :
    StringForm (written text).toList text := by
  rw [written, String.toList_ofList]
  exact .quoted (charsForm_escaped text.toList)

/-- A key that needs no escape may stand as it is, its colon right behind it. -/
theorem keyForm_self
    (key : String)
    (ordinary : ∀ character ∈ key.toList, character ∉ ['"', '\\'] ∧ 0x20 ≤ character.toNat) :
    KeyForm ('"' :: (key.toList ++ ['"', ':'])) key := by
  have form := KeyForm.colon (stringForm_self key ordinary) blanks_nil
  simpa using form

namespace Numeral

/-- The numeral of a natural number in decimal digits. -/
def ofNatural (number : Nat) : Numeral where
  negative := false
  whole := Nat.toDigits 10 number
  fraction := []
  exponent? := none

/-- The natural number that a numeral stands for, if it is one that is kept with all its digits. -/
def toNatural? (numeral : Numeral) : Option Nat :=
  match numeral.toInteger? with
  | some (.ofNat number) => some number
  | _ => none

theorem ofDigits_toDigits (number : Nat) :
    ofDigits (Nat.toDigits 10 number) = number := by
  have same :
      ofDigits (Nat.toDigits 10 number) = Nat.ofDigitChars 10 (Nat.toDigits 10 number) 0 := by
    simp [ofDigits, Nat.ofDigitChars, Nat.mul_comm]
  rw [same, Nat.ofDigitChars_ten_toDigits]

theorem toNatural?_ofNatural
    {number : Nat}
    (bound : number < 2 ^ 64) :
    (ofNatural number).toNatural? = some number := by
  have within : number ≤ greatestInteger := Nat.le_pred_of_lt bound
  simp [toNatural?, toInteger?, ofNatural, ofDigits_toDigits, within]

theorem ofNatural_injective :
    Function.Injective ofNatural := by
  intro number other same
  rw [← ofDigits_toDigits number, ← ofDigits_toDigits other]
  exact congrArg (fun numeral => ofDigits numeral.whole) same

/-- The decimal digits of a number do not start with a needless zero. -/
theorem exists_cons_toDigits
    {number : Nat}
    (positive : 0 < number) :
    ∃ first rest, Nat.toDigits 10 number = first :: rest ∧ first ≠ '0' := by
  induction number using Nat.strongRecOn with
  | ind number inductionHypothesis =>
      by_cases small : number < 10
      · refine ⟨number.digitChar, [], Nat.toDigits_of_lt_base small, ?_⟩
        interval_cases number <;> decide
      · obtain ⟨first, rest, digits, notZero⟩ :=
          inductionHypothesis (number / 10) (by omega) (by omega)
        refine ⟨first, rest ++ [(number % 10).digitChar], ?_, notZero⟩
        rw [Nat.toDigits_of_base_le (by decide) (by omega), digits, List.cons_append]

theorem wholeForm_toDigits (number : Nat) :
    WholeForm (Nat.toDigits 10 number) := by
  rcases Nat.eq_zero_or_pos number with rfl | positive
  · exact .zero
  · obtain ⟨first, rest, digits, notZero⟩ := exists_cons_toDigits positive
    have allDigits (character : Char) (member : character ∈ Nat.toDigits 10 number) :
        character.isDigit = true :=
      Nat.isDigit_of_mem_toDigits (by decide) (by decide) member
    rw [digits] at allDigits ⊢
    exact .digits notZero ⟨List.cons_ne_nil first rest, allDigits⟩

/-- A natural number is written as its numeral. -/
theorem numeralForm_toDigits (number : Nat) :
    NumeralForm (Nat.toDigits 10 number) (ofNatural number) := by
  have form : NumeralForm ([] ++ (Nat.toDigits 10 number ++ ([] ++ []))) (ofNatural number) :=
    .parts (by decide) (wholeForm_toDigits number) .none .none
  simpa using form

end Numeral

end PinkyLex.Json
