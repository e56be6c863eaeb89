import PinkyLex.Text.Bytes

namespace PinkyLex

/-!
# Files

A file holds bytes, and what wants to read it may find none, or bytes that are
not a text.
-/

/-- Why a text cannot be read. -/
inductive FileError where
  | missing
  | directory
  | notText
  | other (description : String)
  deriving Repr, DecidableEq

/-- How a report words an error. -/
def FileError.message : FileError → String
  | missing => "No such file or directory (os error 2)"
  | directory => "Is a directory (os error 21)"
  | notText => "stream did not contain valid UTF-8"
  | other description => description

/-- What the files in reach hold: the bytes at a path, or why there are none. -/
abbrev Files :=
  String → Except FileError (List UInt8)

namespace Files

/-- A directory that has exactly the given files. -/
def ofList (entries : List (String × List UInt8)) : Files :=
  fun path =>
    match entries.lookup path with
    | some bytes => .ok bytes
    | none =>
        if path = "." ∨ path = ".." ∨ path = "/" then
          .error .directory
        else
          .error .missing

/-- The text at a path. -/
def readText (files : Files) (path : String) : Except FileError String := do
  let bytes ← files path
  match Text.decode? bytes with
  | some text => .ok text
  | none => .error .notText

end Files

end PinkyLex
