import PinkyLex.Token.Kind

namespace PinkyLex

/-!
# Tokens

A token is a piece of source text with its kind and the line on which it
starts.  A listing writes one token a line and escapes nothing.
-/

/-- A piece of source text with its kind and the number of the line on which it starts. -/
structure Token where
  kind : TokenKind
  lexeme : String
  line : Nat
  deriving Repr, DecidableEq

namespace Token

/-- One line of a listing, without its line end. -/
def toText (token : Token) : String :=
  token.kind.name ++ " '" ++ token.lexeme ++ "' line " ++ toString token.line

/-- A listing: every token on a line of its own. -/
def listing (tokens : List Token) : String :=
  String.join (tokens.map fun token => token.toText ++ "\n")

end Token

end PinkyLex
