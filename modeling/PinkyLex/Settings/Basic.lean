namespace PinkyLex

/-!
# Scanner settings

Two settings steer a scan: the dialect, which picks the comment marker and
whether literals and words exist at all, and whether a string literal may go
on past the end of its line.
-/

/-- The variants of the language. -/
inductive Dialect where
  | pinky
  | hash
  deriving Repr, DecidableEq

namespace Dialect

/-- All dialects, in the order in which they are listed. -/
def all : List Dialect :=
  [pinky, hash]

/-- How a data file or a command line names a dialect. -/
def code : Dialect → String
  | pinky => "pinky"
  | hash => "hash"

/-- The name of a dialect in a listing. -/
def name : Dialect → String
  | pinky => "Pinky"
  | hash => "Hash"

/-- Whether numbers, strings and words exist in a dialect. -/
def hasLiterals : Dialect → Bool
  | pinky => true
  | hash => false

/-- The characters that open a comment running to the end of the line. -/
def commentMarker : Dialect → List Char
  | pinky => ['-', '-']
  | hash => ['#']

/-- The dialect with the given code. -/
def ofCode? (code : String) : Option Dialect :=
  all.find? fun dialect => dialect.code = code

/-- The characters of a text, with the letters A to Z in lower case. -/
def foldCase (text : String) : List Char :=
  text.toList.map Char.toLower

/-- The dialect with the given code, in capitals or not if case is ignored. -/
def parse? (ignoreCase : Bool) (text : String) : Option Dialect :=
  if ignoreCase then
    all.find? fun dialect => foldCase dialect.code = foldCase text
  else
    ofCode? text

end Dialect

/-- What steers a scan. -/
structure Settings where
  dialect : Dialect := .pinky
  multilineStrings : Bool := true
  deriving Repr, DecidableEq

end PinkyLex
