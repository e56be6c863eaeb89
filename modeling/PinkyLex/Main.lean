import PinkyLex.Command.Run

/-!
# The command `pinky-scan`

The outer layer of the command: it reads the files that a request names, the log
level from the environment and, if there is no source file, all of the standard
input, and writes what a run leaves behind.
-/

namespace PinkyLex.Main

/-- The environment variable that sets the log level. -/
def levelVariable : String :=
  "RUST_LOG"

/-- What is written when the arguments are rejected. -/
def usage : String :=
  "usage: pinky-scan [-v] [--dialect pinky|hash] [--single-line-strings] [--keywords FILE] " ++
    "[--config FILE] [--format text|json] [FILE]"

/-- What a failed access to a file means. -/
def fileError : IO.Error → FileError
  | .noFileOrDirectory .. => .missing
  | .inappropriateType .. => .directory
  | other => .other (toString other)

/-- Read a file, or say why it cannot be read. -/
def readFile (path : String) : IO (Except FileError (List UInt8)) := do
  try
    let bytes ← IO.FS.readBinFile path
    pure (.ok bytes.toList)
  catch error =>
    pure (.error (fileError error))

/-- Read all files that a request names. -/
def readFiles (request : Command.Request) : IO Files := do
  let paths := [request.settingsFile?, request.vocabularyFile?, request.file?].filterMap id
  let contents ← paths.mapM fun path => do
    pure (path, ← readFile path)
  pure fun path => (contents.lookup path).getD (.error .missing)

/-- Read the standard input to its end, if a run gets so far as to answer it. -/
def readInput (request : Command.Request) (files : Files) : IO (List UInt8) := do
  match request.file?, Command.prepare .plain request files with
  | none, .ok _ =>
      let bytes ← (← IO.getStdin).readBinToEnd
      pure bytes.toList
  | _, _ =>
      pure []

/-- Write what a run leaves behind and give the exit code. -/
def finish (outcome : Command.Outcome) : IO UInt32 := do
  let errors ← IO.getStderr
  for line in outcome.log do
    errors.putStrLn line
  (← IO.getStdout).putStr outcome.output
  errors.putStr outcome.errors
  pure (UInt32.ofNat outcome.exitCode)

/-- Do what a request asks for and give the exit code. -/
def fulfil (request : Command.Request) : IO UInt32 := do
  let files ← readFiles request
  let levelText? ← IO.getEnv levelVariable
  let input ← readInput request files
  finish (Command.fulfil .plain request levelText? files input)

end PinkyLex.Main

/-- Run the command and give its exit code. -/
def main (arguments : List String) : IO UInt32 := do
  match PinkyLex.Command.Request.ofArguments? arguments with
  | none =>
      (← IO.getStderr).putStrLn PinkyLex.Main.usage
      PinkyLex.Main.finish .rejected
  | some request =>
      PinkyLex.Main.fulfil request
