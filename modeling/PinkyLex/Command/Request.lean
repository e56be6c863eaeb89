import PinkyLex.Settings.Basic

namespace PinkyLex

/-!
# Command line requests

The command line names at most one source file, and options before or after it.
An option has its value in the same argument, after an equals sign, or in the
next one.  Nothing may be given twice, and after `--` every argument is a file.
-/

namespace Command

/-- How tokens are written. -/
inductive Format where
  | text
  | json
  deriving Repr, DecidableEq

namespace Format

/-- All formats. -/
def all : List Format :=
  [text, json]

/-- How a command line names a format. -/
def code : Format → String
  | text => "text"
  | json => "json"

/-- The format with the given code. -/
def ofCode? (code : String) : Option Format :=
  all.find? fun format => format.code = code

end Format

/-- What a command line asks for; nothing is filled in that was not given. -/
structure Request where
  file? : Option String := none
  dialect? : Option Dialect := none
  singleLineStrings : Bool := false
  vocabularyFile? : Option String := none
  settingsFile? : Option String := none
  format? : Option Format := none
  verbose : Bool := false
  deriving Repr, DecidableEq

/-- Options that have no value. -/
inductive Flag where
  | singleLineStrings
  | verbose
  deriving Repr, DecidableEq

/-- Options that have a value. -/
inductive Setting where
  | dialect
  | vocabularyFile
  | settingsFile
  | format
  deriving Repr, DecidableEq

/-- The flag with a long name. -/
def Flag.ofName? : String → Option Flag
  | "single-line-strings" => some .singleLineStrings
  | "verbose" => some .verbose
  | _ => none

/-- The option with a long name. -/
def Setting.ofName? : String → Option Setting
  | "dialect" => some .dialect
  | "keywords" => some .vocabularyFile
  | "config" => some .settingsFile
  | "format" => some .format
  | _ => none

/-- What one argument is. -/
inductive Argument where
  | file (path : String)
  | flag (flag : Flag)
  | setting (setting : Setting) (value? : Option String)
  | separator
  | unknown
  deriving Repr, DecidableEq

namespace Argument

/-- What a long option is, given its name and the characters after it. -/
def ofLong (name rest : List Char) : Argument :=
  match Setting.ofName? (String.ofList name), Flag.ofName? (String.ofList name), rest with
  | some named, _, [] =>
      .setting named none
  | some named, _, _ :: value =>
      .setting named (some (String.ofList value))
  | none, some named, [] =>
      .flag named
  | none, _, _ =>
      .unknown

/-- What an argument is. -/
def ofText (argument : String) : Argument :=
  match argument.toList with
  | ['-', '-'] =>
      .separator
  | '-' :: '-' :: long =>
      ofLong (long.takeWhile (· != '=')) (long.dropWhile (· != '='))
  | ['-', 'v'] =>
      .flag .verbose
  | '-' :: _ :: _ =>
      .unknown
  | _ =>
      .file argument

/-- Whether an argument can be the value of the option before it. -/
def isValue (argument : String) : Bool :=
  match argument.toList with
  | '-' :: _ :: _ => false
  | _ => true

end Argument

namespace Request

/-- Fill in a path, which must not be empty, unless there is one already. -/
def withPath? (known : Option String) (path : String) : Option (Option String) :=
  if known.isNone && !path.isEmpty then
    some (some path)
  else
    none

/-- Fill in the source file. -/
def withFile? (request : Request) (path : String) : Option Request := do
  let file? ← withPath? request.file? path
  pure { request with file? := file? }

/-- Fill in a flag. -/
def withFlag? (request : Request) (flag : Flag) : Option Request :=
  match flag with
  | .singleLineStrings =>
      if request.singleLineStrings then
        none
      else
        some { request with singleLineStrings := true }
  | .verbose =>
      if request.verbose then
        none
      else
        some { request with verbose := true }

/-- Fill in the value of an option. -/
def withSetting? (request : Request) (setting : Setting) (value : String) : Option Request :=
  match setting with
  | .dialect =>
      if request.dialect?.isSome then
        none
      else do
        let dialect ← Dialect.ofCode? value
        pure { request with dialect? := some dialect }
  | .format =>
      if request.format?.isSome then
        none
      else do
        let format ← Format.ofCode? value
        pure { request with format? := some format }
  | .vocabularyFile => do
      let path? ← withPath? request.vocabularyFile? value
      pure { request with vocabularyFile? := path? }
  | .settingsFile => do
      let path? ← withPath? request.settingsFile? value
      pure { request with settingsFile? := path? }

/-- Fill in what further arguments say, or reject them. -/
def extend? (request : Request) : List String → Option Request
  | [] =>
      some request
  | argument :: rest =>
      match Argument.ofText argument with
      | .separator =>
          rest.foldlM withFile? request
      | .file path =>
          (request.withFile? path).bind fun extended => extended.extend? rest
      | .flag flag =>
          (request.withFlag? flag).bind fun extended => extended.extend? rest
      | .setting setting (some value) =>
          (request.withSetting? setting value).bind fun extended => extended.extend? rest
      | .setting setting none =>
          match rest with
          | [] =>
              none
          | value :: later =>
              if Argument.isValue value then
                (request.withSetting? setting value).bind fun extended => extended.extend? later
              else
                none
      | .unknown =>
          none

/-- What a command line asks for, unless it is to be rejected. -/
def ofArguments? (arguments : List String) : Option Request :=
  extend? {} arguments

/-- The settings asked for, given those of the settings file or the defaults. -/
def adjust (request : Request) (settings : Settings) : Settings where
  dialect := request.dialect?.getD settings.dialect
  multilineStrings := settings.multilineStrings && !request.singleLineStrings

end Request

end Command

end PinkyLex
