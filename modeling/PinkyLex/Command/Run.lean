import PinkyLex.Command.Report
import PinkyLex.Command.Request
import PinkyLex.Dialogue
import PinkyLex.Settings.Document
import PinkyLex.Token.Document
import PinkyLex.Vocabulary.Document

namespace PinkyLex.Command

/-!
# Runs of the command

A run loads the settings, then the vocabulary, then the source; the first stage
that fails ends it.  A source is scanned as a whole and either all of its tokens
are written or none.  Without a source file the standard input is answered line
by line.

How a fault is drawn with its source is up to a library, and in which order the
entries of a vocabulary are gone through may change from run to run.  A run takes
both from its platform.
-/

/-- What a run does not decide by itself. -/
structure Platform where
  order : Vocabulary.EntryOrder
  draw : Fault → String

/-- Entries as they are listed, and faults without their source. -/
def Platform.plain : Platform where
  order := .listed
  draw := Fault.message

/-- What a run leaves behind. -/
structure Outcome where
  exitCode : Nat
  output : String := ""
  errors : String := ""
  log : List String := []
  deriving Repr, DecidableEq

namespace Outcome

/-- A run whose arguments are rejected. -/
def rejected : Outcome where
  exitCode := 2

/-- A run that ends with a report. -/
def failed (report : Report) : Outcome where
  exitCode := 1
  errors := report.toText

end Outcome

/-- The settings that a request leads to. -/
def loadSettings (request : Request) (files : Files) : Except Report Settings :=
  match request.settingsFile? with
  | none =>
      .ok (request.adjust {})
  | some path =>
      match files.readText path with
      | .error reason =>
          .error (.ofSetupError (.unreadable path reason))
      | .ok text =>
          match Settings.ofJson text with
          | .error error => .error (.ofSetupError error)
          | .ok settings => .ok (request.adjust settings)

/-- The vocabulary that a request leads to. -/
def loadVocabulary
    (platform : Platform)
    (request : Request)
    (files : Files) :
    Except Report Vocabulary :=
  match request.vocabularyFile? with
  | none =>
      .ok .pinky
  | some path =>
      match files.readText path with
      | .error reason =>
          .error (.ofFileError ("read keyword table '" ++ path ++ "'") reason)
      | .ok text =>
          (Vocabulary.ofJsonIn platform.order text).mapError
            (.ofCause ("load keyword table '" ++ path ++ "'"))

/-- The settings and the vocabulary that a request leads to. -/
def prepare
    (platform : Platform)
    (request : Request)
    (files : Files) :
    Except Report (Settings × Vocabulary) := do
  let settings ← loadSettings request files
  let vocabulary ← loadVocabulary platform request files
  pure (settings, vocabulary)

/-- The level of the log: the one set from outside, or else the one asked for. -/
def logLevel (request : Request) (levelText? : Option String) : LogLevel :=
  (levelText?.bind LogLevel.parse?).getD (if request.verbose then .debug else .info)

/-- The tokens of a source in a format. -/
def dump (format : Format) (tokens : List Token) : String :=
  match format with
  | .text => Token.listing tokens
  | .json => Token.document tokens ++ "\n"

/-- Scan a source as a whole. -/
def scanSource
    (platform : Platform)
    (request : Request)
    (level : LogLevel)
    (settings : Settings)
    (vocabulary : Vocabulary)
    (path source : String) :
    Outcome :=
  let scan := Scan.ofSource settings vocabulary source
  let events := .scanning path source.utf8ByteSize :: scan.events settings.dialect
  match scan.result with
  | .ok tokens =>
      { exitCode := 0
        output := dump (request.format?.getD .text) tokens
        log := level.write events }
  | .error fault =>
      { exitCode := 1
        errors :=
          platform.draw (fault.withSource path source) ++ "\n" ++
            Report.toText { message := "scan failed" }
        log := level.write events }

/-- The report on a dialogue that has ended early. -/
def dialogueReport (error : FileError) : Report :=
  .ofFileError "run REPL" error

/-- Answer an input line by line. -/
def converse
    (level : LogLevel)
    (settings : Settings)
    (vocabulary : Vocabulary)
    (input : List UInt8) :
    Outcome :=
  let transcript := Dialogue.hold settings vocabulary input
  let ending :=
    match transcript.error? with
    | none => ""
    | some error => (dialogueReport error).toText
  { exitCode := if transcript.error?.isSome then 1 else 0
    output := transcript.output
    errors := transcript.errors ++ ending
    log := level.write (transcript.events settings.dialect) }

/-- Do what a request asks for. -/
def fulfil
    (platform : Platform)
    (request : Request)
    (levelText? : Option String)
    (files : Files)
    (input : List UInt8) :
    Outcome :=
  match prepare platform request files with
  | .error report =>
      .failed report
  | .ok (settings, vocabulary) =>
      let level := logLevel request levelText?
      match request.file? with
      | none =>
          converse level settings vocabulary input
      | some path =>
          match files.readText path with
          | .error reason =>
              .failed (.ofFileError ("read source file '" ++ path ++ "'") reason)
          | .ok source =>
              scanSource platform request level settings vocabulary path source

/-- Run the command. -/
def run
    (platform : Platform)
    (arguments : List String)
    (levelText? : Option String)
    (files : Files)
    (input : List UInt8) :
    Outcome :=
  match Request.ofArguments? arguments with
  | none =>
      .rejected
  | some request =>
      fulfil platform request levelText? files input

end PinkyLex.Command
