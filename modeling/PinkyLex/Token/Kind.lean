namespace PinkyLex

/-!
# Kinds of tokens

A token is an operator, a keyword, an identifier or a literal.  Operators and
keywords have one fixed spelling each; the other kinds have many.  Every kind
has a name, used in listings, and a code, which is the name in capitals and is
what data files say.
-/

/-- Operators and punctuation. -/
inductive Operator where
  | leftParen
  | rightParen
  | leftBrace
  | rightBrace
  | leftBracket
  | rightBracket
  | dot
  | comma
  | plus
  | minus
  | star
  | caret
  | slash
  | semicolon
  | question
  | percent
  | equal
  | notEqual
  | not
  | lessEqual
  | less
  | greaterEqual
  | greater
  | assign
  | colon
  deriving Repr, DecidableEq

namespace Operator

/-- All operators, in the order in which kinds are listed. -/
def all : List Operator :=
  [leftParen, rightParen, leftBrace, rightBrace, leftBracket, rightBracket, dot, comma, plus,
    minus, star, caret, slash, semicolon, question, percent, equal, notEqual, not, lessEqual,
    less, greaterEqual, greater, assign, colon]

/-- The name of an operator in a listing. -/
def name : Operator → String
  | leftParen => "LParen"
  | rightParen => "RParen"
  | leftBrace => "LCurly"
  | rightBrace => "RCurly"
  | leftBracket => "LSquar"
  | rightBracket => "RSquar"
  | dot => "Dot"
  | comma => "Comma"
  | plus => "Plus"
  | minus => "Minus"
  | star => "Star"
  | caret => "Caret"
  | slash => "Slash"
  | semicolon => "Semicolon"
  | question => "Question"
  | percent => "Mod"
  | equal => "Eq"
  | notEqual => "Ne"
  | not => "Not"
  | lessEqual => "Le"
  | less => "Lt"
  | greaterEqual => "Ge"
  | greater => "Gt"
  | assign => "Assign"
  | colon => "Colon"

/-- How an operator is written in a source. -/
def spelling : Operator → String
  | leftParen => "("
  | rightParen => ")"
  | leftBrace => "\x7b"
  | rightBrace => "\x7d"
  | leftBracket => "["
  | rightBracket => "]"
  | dot => "."
  | comma => ","
  | plus => "+"
  | minus => "-"
  | star => "*"
  | caret => "^"
  | slash => "/"
  | semicolon => ";"
  | question => "?"
  | percent => "%"
  | equal => "=="
  | notEqual => "~="
  | not => "~"
  | lessEqual => "<="
  | less => "<"
  | greaterEqual => ">="
  | greater => ">"
  | assign => ":="
  | colon => ":"

end Operator

/-- The reserved words of the language. -/
inductive Keyword where
  | ifWord
  | thenWord
  | elseWord
  | trueWord
  | falseWord
  | andWord
  | orWord
  | whileWord
  | doWord
  | forWord
  | funcWord
  | nullWord
  | endWord
  | printWord
  | printlnWord
  | retWord
  deriving Repr, DecidableEq

namespace Keyword

/-- All keywords, in the order in which kinds are listed. -/
def all : List Keyword :=
  [ifWord, thenWord, elseWord, trueWord, falseWord, andWord, orWord, whileWord, doWord, forWord,
    funcWord, nullWord, endWord, printWord, printlnWord, retWord]

/-- The name of a keyword in a listing. -/
def name : Keyword → String
  | ifWord => "If"
  | thenWord => "Then"
  | elseWord => "Else"
  | trueWord => "True"
  | falseWord => "False"
  | andWord => "And"
  | orWord => "Or"
  | whileWord => "While"
  | doWord => "Do"
  | forWord => "For"
  | funcWord => "Func"
  | nullWord => "Null"
  | endWord => "End"
  | printWord => "Print"
  | printlnWord => "Println"
  | retWord => "Ret"

/-- How a keyword is written in a source, unless another vocabulary is in force. -/
def spelling : Keyword → String
  | ifWord => "if"
  | thenWord => "then"
  | elseWord => "else"
  | trueWord => "true"
  | falseWord => "false"
  | andWord => "and"
  | orWord => "or"
  | whileWord => "while"
  | doWord => "do"
  | forWord => "for"
  | funcWord => "func"
  | nullWord => "null"
  | endWord => "end"
  | printWord => "print"
  | printlnWord => "println"
  | retWord => "ret"

end Keyword

/-- What a token is. -/
inductive TokenKind where
  | operator (symbol : Operator)
  | integer
  | float
  | string
  | identifier
  | keyword (word : Keyword)
  deriving Repr, DecidableEq

namespace TokenKind

/-- All kinds, in the order in which they are listed. -/
def all : List TokenKind :=
  Operator.all.map .operator ++ [.integer, .float, .string, .identifier] ++
    Keyword.all.map .keyword

/-- The name of a kind in a listing. -/
def name : TokenKind → String
  | .operator symbol => symbol.name
  | .integer => "Integer"
  | .float => "Float"
  | .string => "String"
  | .identifier => "Identifier"
  | .keyword word => word.name

/-- The code of a kind in a data file: its name in capitals. -/
def code (kind : TokenKind) : String :=
  String.ofList (kind.name.toList.map Char.toUpper)

/-- The spelling of an operator or keyword, and a description of the other kinds. -/
def spelling : TokenKind → String
  | .operator symbol => symbol.spelling
  | .integer => "INTEGER"
  | .float => "FLOAT"
  | .string => "STRING"
  | .identifier => "IDENTIFIER"
  | .keyword word => word.spelling

/-- Whether a kind is a reserved word. -/
def isKeyword : TokenKind → Bool
  | .keyword _ => true
  | _ => false

/-- The kind with the given code. -/
def ofCode? (code : String) : Option TokenKind :=
  all.find? fun kind => kind.code = code

/-- Every kind is listed. -/
theorem mem_all (kind : TokenKind) : kind ∈ all := by
  cases kind with
  | operator symbol =>
      cases symbol <;> decide
  | keyword word =>
      cases word <;> decide
  | integer | float | string | identifier =>
      decide

end TokenKind

end PinkyLex
