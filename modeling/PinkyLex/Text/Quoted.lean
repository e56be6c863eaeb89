import PinkyLex.Text.Unprintable

namespace PinkyLex.Text

/-!
# Quoted text

A text between double quotes, in a form that stays on one line: quotes,
backslashes and the common control characters are written with a backslash,
and every other unprintable character by its code point.
-/

/-- The digit that stands for a value below sixteen, letters in lower case. -/
def hexDigit (value : Nat) : Char :=
  if value < 10 then
    Char.ofNat (48 + value)
  else
    Char.ofNat (87 + value)

/-- The hexadecimal digits of a number, without leading zeros. -/
def hexDigits (number : Nat) : List Char :=
  if number < 16 then
    [hexDigit number]
  else
    hexDigits (number / 16) ++ [hexDigit (number % 16)]
termination_by number

namespace Quoted

/-- What a character becomes between the quotes. -/
def escaped (character : Char) : List Char :=
  match character with
  | '\x00' => ['\\', '0']
  | '\t' => ['\\', 't']
  | '\n' => ['\\', 'n']
  | '\r' => ['\\', 'r']
  | '"' => ['\\', '"']
  | '\\' => ['\\', '\\']
  | _ =>
      if isUnprintable character then
        ['\\', 'u', '\x7b'] ++ hexDigits character.toNat ++ ['\x7d']
      else
        [character]

end Quoted

/-- A text between double quotes, on one line. -/
def quoted (text : String) : String :=
  String.ofList ('"' :: text.toList.flatMap Quoted.escaped ++ ['"'])

end PinkyLex.Text
