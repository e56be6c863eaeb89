import PinkyLex.Log
import PinkyLex.Source.File
import PinkyLex.Text.WhiteSpace

namespace PinkyLex

/-!
# Dialogues

In a dialogue every line of the input is scanned on its own, as if it were a
whole source, and answered at once: tokens on one channel, faults on the other.
A prompt stands before every line and before the end of the input.  Blank lines
get no answer.  A line that is not a text ends the dialogue.
-/

namespace Dialogue

/-- What is written before every line is read. -/
def prompt : String :=
  "> "

/-- The byte that ends a line. -/
def lineFeed : UInt8 :=
  10

/-- Put a byte in front of the first line. -/
def prepend (byte : UInt8) : List (List UInt8) → List (List UInt8)
  | [] =>
      [[byte]]
  | line :: lines =>
      (byte :: line) :: lines

/-- The lines of an input, each with its line feed; the last one may have none. -/
def splitLines : List UInt8 → List (List UInt8)
  | [] =>
      []
  | byte :: rest =>
      if byte = lineFeed then
        [byte] :: splitLines rest
      else
        prepend byte (splitLines rest)

/-- Whether a character may be part of a line end. -/
def isLineEnd (character : Char) : Bool :=
  character == '\n' || character == '\r'

/-- The characters of a line without its line end, of whatever length. -/
def withoutLineEnd (line : List Char) : List Char :=
  (line.reverse.dropWhile isLineEnd).reverse

/-- The source that a line consists of, unless the line is blank. -/
def source? (line : String) : Option String :=
  let text := withoutLineEnd line.toList
  if text.all Text.isWhiteSpace then
    none
  else
    some (String.ofList text)

/-- What happens to one line. -/
inductive Reply where
  | silence
  | scanned (scan : Scan)
  deriving Repr, DecidableEq

namespace Reply

/-- The reply to a line. -/
def toLine (settings : Settings) (vocabulary : Vocabulary) (line : String) : Reply :=
  match source? line with
  | none => .silence
  | some source => .scanned (Scan.ofSource settings vocabulary source)

/-- What a reply writes to the output. -/
def output : Reply → String
  | silence => ""
  | scanned scan =>
      match scan.result with
      | .ok tokens => Token.listing tokens
      | .error _ => ""

/-- What a reply writes to the error channel. -/
def errors : Reply → String
  | silence => ""
  | scanned scan =>
      match scan.result with
      | .ok _ => ""
      | .error fault => fault.message ++ "\n"

/-- What a reply leaves in the log. -/
def events (dialect : Dialect) : Reply → List LogEvent
  | silence => []
  | scanned scan => scan.events dialect

end Reply

section Replies

variable {settings : Settings} {vocabulary : Vocabulary} {line : String}

theorem source?_eq_none_iff :
    source? line = none ↔
      ∀ character ∈ withoutLineEnd line.toList, Text.isWhiteSpace character = true := by
  simp [source?]

/-- Nothing but white space gets no answer. -/
theorem Reply.toLine_of_white
    (white : ∀ character ∈ withoutLineEnd line.toList, Text.isWhiteSpace character = true) :
    toLine settings vocabulary line = .silence := by
  rw [toLine, source?_eq_none_iff.mpr white]

/-- Everything else is scanned without its line end. -/
theorem Reply.toLine_of_not_white
    (notWhite :
      ¬ ∀ character ∈ withoutLineEnd line.toList, Text.isWhiteSpace character = true) :
    toLine settings vocabulary line =
      .scanned (Scan.ofSource settings vocabulary (String.ofList (withoutLineEnd line.toList))) := by
  have found : source? line = some (String.ofList (withoutLineEnd line.toList)) := by
    rw [source?, if_neg (by rwa [List.all_eq_true])]
  rw [toLine, found]

variable {source : String}

theorem Reply.scanned_of_ok
    {tokens : List Token}
    (succeeds : scan settings vocabulary source = .ok tokens) :
    (scanned (Scan.ofSource settings vocabulary source)).output = Token.listing tokens ∧
      (scanned (Scan.ofSource settings vocabulary source)).errors = "" := by
  rw [scan] at succeeds
  simp [output, errors, succeeds]

theorem Reply.scanned_of_error
    {fault : Fault}
    (fails : scan settings vocabulary source = .error fault) :
    (scanned (Scan.ofSource settings vocabulary source)).output = "" ∧
      (scanned (Scan.ofSource settings vocabulary source)).errors = fault.message ++ "\n" := by
  rw [scan] at fails
  simp [output, errors, fails]

end Replies

/-- The replies to all lines before the first one that is not a text, and why it ended there. -/
structure Transcript where
  replies : List Reply
  error? : Option FileError
  deriving Repr, DecidableEq

namespace Transcript

/-- Everything written to the output: a prompt before every line and one at the end. -/
def output (transcript : Transcript) : String :=
  String.join (transcript.replies.map fun reply => prompt ++ reply.output) ++ prompt

/-- Everything written to the error channel. -/
def errors (transcript : Transcript) : String :=
  String.join (transcript.replies.map Reply.errors)

/-- Everything left in the log. -/
def events (dialect : Dialect) (transcript : Transcript) : List LogEvent :=
  transcript.replies.flatMap (Reply.events dialect)

/-- Put a reply in front of a transcript. -/
def cons (reply : Reply) (transcript : Transcript) : Transcript :=
  { transcript with replies := reply :: transcript.replies }

/-- The transcript of a dialogue about some lines. -/
def ofLines (settings : Settings) (vocabulary : Vocabulary) : List (List UInt8) → Transcript
  | [] =>
      { replies := [], error? := none }
  | line :: lines =>
      match Text.decode? line with
      | none =>
          { replies := [], error? := some .notText }
      | some text =>
          (ofLines settings vocabulary lines).cons (Reply.toLine settings vocabulary text)

end Transcript

/-- Hold a dialogue about an input. -/
def hold (settings : Settings) (vocabulary : Vocabulary) (input : List UInt8) : Transcript :=
  Transcript.ofLines settings vocabulary (splitLines input)

end Dialogue

end PinkyLex
