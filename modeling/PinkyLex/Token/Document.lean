import PinkyLex.Json.Written
import PinkyLex.Token.Basic

namespace PinkyLex

/-!
# Tokens as a data file

Tokens are written as a list of objects, one member a line, indented by two
spaces for each level.
-/

namespace Token

/-- A token as an object inside a list. -/
def toJson (token : Token) : String :=
  "  \x7b\n" ++
    "    \"kind\": " ++ Json.written token.kind.code ++ ",\n" ++
    "    \"lexeme\": " ++ Json.written token.lexeme ++ ",\n" ++
    "    \"line\": " ++ toString token.line ++ "\n" ++
  "  \x7d"

/-- Tokens as a list of objects. -/
def document (tokens : List Token) : String :=
  match tokens with
  | [] => "[]"
  | _ => "[\n" ++ ",\n".intercalate (tokens.map toJson) ++ "\n]"

end Token

end PinkyLex
