import PinkyLex.Scan.Basic
import PinkyLex.Text.Quoted

namespace PinkyLex

/-!
# Logs

A scan leaves a log: an event at its start, one for each token, and one at its
end, which counts the tokens and says whether the scan finished or was aborted.
A log level decides which events are written, one a line.
-/

/-- How much of a log is written, from nothing to everything. -/
inductive LogLevel where
  | off
  | error
  | warn
  | info
  | debug
  | trace
  deriving Repr, DecidableEq

namespace LogLevel

/-- All levels, from nothing to everything. -/
def all : List LogLevel :=
  [off, error, warn, info, debug, trace]

/-- The position of a level on the scale. -/
def rank : LogLevel → Nat
  | off => 0
  | error => 1
  | warn => 2
  | info => 3
  | debug => 4
  | trace => 5

/-- The name of a level. -/
def name : LogLevel → String
  | off => "OFF"
  | error => "ERROR"
  | warn => "WARN"
  | info => "INFO"
  | debug => "DEBUG"
  | trace => "TRACE"

/--
The level with a name, in capitals or not, or with a number; an empty text stands for
errors only.  A filter that names the places events come from is not a level.
-/
def parse? (text : String) : Option LogLevel :=
  if text.isEmpty then
    some .error
  else if text.toList.all Char.isDigit then
    all.find? fun level => level.rank = Nat.ofDigitChars 10 text.toList 0
  else
    all.find? fun level => level.name.toList = text.toList.map Char.toUpper

/-- Whether a log at the first level has the events of the second. -/
def admits (level event : LogLevel) : Bool :=
  event.rank ≤ level.rank

end LogLevel

/-- Something that a log tells. -/
inductive LogEvent where
  | scanning (file : String) (bytes : Nat)
  | started (dialect : Dialect)
  | token (token : Token)
  | finished (tokens lines : Nat)
  | aborted (fault : Fault) (tokens : Nat)
  deriving Repr, DecidableEq

namespace LogEvent

/-- The lowest level at which an event is written. -/
def level : LogEvent → LogLevel
  | .token _ => .trace
  | _ => .debug

/-- What an event says. -/
def description : LogEvent → String
  | scanning file bytes =>
      "scanning file=" ++ file ++ " bytes=" ++ toString bytes
  | started dialect =>
      "scan started dialect=" ++ dialect.name
  | .token emitted =>
      "token kind=" ++ emitted.kind.name ++ " lexeme=" ++ Text.quoted emitted.lexeme ++
        " line=" ++ toString emitted.line
  | finished tokens lines =>
      "scan finished tokens=" ++ toString tokens ++ " lines=" ++ toString lines
  | aborted fault tokens =>
      "scan aborted err=" ++ fault.message ++ " tokens=" ++ toString tokens

/-- The line that a log has for an event. -/
def toText (event : LogEvent) : String :=
  event.level.name ++ " " ++ event.description

end LogEvent

/-- Everything there is to tell about a scan. -/
def Scan.events (dialect : Dialect) (scan : Scan) : List LogEvent :=
  let ending :=
    match scan.fault? with
    | none => LogEvent.finished scan.tokens.length scan.lines
    | some fault => LogEvent.aborted fault scan.tokens.length
  .started dialect :: scan.tokens.map LogEvent.token ++ [ending]

/-- The lines of a log at a level. -/
def LogLevel.write (level : LogLevel) (events : List LogEvent) : List String :=
  (events.filter fun event => level.admits event.level).map LogEvent.toText

end PinkyLex
