import PinkyLex.Text.Quoted

namespace PinkyLex.Json

/-!
# Writing strings to a data file

Quotes, backslashes and control characters are escaped, with one letter where
there is one; everything else is written as it is.
-/

namespace Written

/-- What a character becomes between the quotes. -/
def escaped (character : Char) : List Char :=
  match character with
  | '"' => ['\\', '"']
  | '\\' => ['\\', '\\']
  | '\x08' => ['\\', 'b']
  | '\x0c' => ['\\', 'f']
  | '\n' => ['\\', 'n']
  | '\r' => ['\\', 'r']
  | '\t' => ['\\', 't']
  | _ =>
      if character.toNat < 0x20 then
        ['\\', 'u', '0', '0', Text.hexDigit (character.toNat / 16),
          Text.hexDigit (character.toNat % 16)]
      else
        [character]

end Written

/-- A text as a string of a data file. -/
def written (text : String) : String :=
  String.ofList ('"' :: text.toList.flatMap Written.escaped ++ ['"'])

end PinkyLex.Json
