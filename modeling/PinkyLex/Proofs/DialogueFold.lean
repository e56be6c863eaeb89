import PinkyLex.Proofs.DialogueLines
import PinkyLex.Proofs.LineScan

namespace PinkyLex.Dialogue

/-!
# Dialogues line by line

A dialogue reads the lines of its input up to the first one that is not a text, and
answers each of them as if there were no other.  An answer is on the first line,
and it does not matter whether strings may have several lines.
-/

/-- An input has some lines that are read as texts, and the first line after them is no text. -/
structure ReadAs (input : List UInt8) (read : List String) (unread : List (List UInt8)) : Prop where
  lines : Lines lineFeed input (read.map Text.encode ++ unread)
  stops : ∀ line, unread.head? = some line → ∀ text, Text.encode text ≠ line

/-- What the error channel says about a cause. -/
inductive Worded : FaultCause → String → Prop where
  | unterminatedString (length : Nat) :
      Worded (.unterminatedString length) "unterminated string"
  | unrecognizedCharacter (character : Char) :
      Worded (.unrecognizedCharacter character)
        ("unrecognized character '" ++ String.singleton character ++ "'")
  | malformedOperator (lexeme : String) :
      Worded (.malformedOperator lexeme) ("malformed operator '" ++ lexeme ++ "'")

/-- What is written to the output and to the error channel in answer to a line. -/
inductive Answered (settings : Settings) (vocabulary : Vocabulary) (line : String) :
    String → String → Prop where
  | blank {text : List Char} :
      Strips line.toList text →
      (∀ character ∈ text, Text.isWhiteSpace character = true) →
      Answered settings vocabulary line "" ""
  | tokens {text : List Char} {tokens : List Token} :
      Strips line.toList text →
      (¬ ∀ character ∈ text, Text.isWhiteSpace character = true) →
      scan settings vocabulary (String.ofList text) = .ok tokens →
      (∀ token ∈ tokens, token.line = 1) →
      Answered settings vocabulary line
        (String.join (tokens.map fun token =>
          token.kind.name ++ " '" ++ token.lexeme ++ "' line " ++ toString token.line ++ "\n"))
        ""
  | fault {text : List Char} {fault : Fault} {words : String} :
      Strips line.toList text →
      (¬ ∀ character ∈ text, Text.isWhiteSpace character = true) →
      scan settings vocabulary (String.ofList text) = .error fault →
      fault.line = 1 →
      Worded fault.cause words →
      Answered settings vocabulary line
        ""
        ("[line " ++ toString fault.line ++ "] " ++ words ++ "\n")

theorem worded_description (cause : FaultCause) :
    Worded cause cause.description := by
  cases cause with
  | unterminatedString length =>
      exact .unterminatedString length
  | unrecognizedCharacter character =>
      exact .unrecognizedCharacter character
  | malformedOperator lexeme =>
      exact .malformedOperator lexeme

section Line

variable {line : String}

/-- A line that holds no line feed but at its end is answered on the first line. -/
theorem answered_toLine
    (sameLine : '\n' ∉ withoutLineEnd line.toList)
    (settings : Settings)
    (vocabulary : Vocabulary) :
    Answered settings vocabulary line
      (Reply.toLine settings vocabulary line).output
      (Reply.toLine settings vocabulary line).errors := by
  have strips := strips_withoutLineEnd line.toList
  by_cases white : ∀ character ∈ withoutLineEnd line.toList, Text.isWhiteSpace character = true
  · rw [Reply.toLine_of_white white]
    exact .blank strips white
  · rw [Reply.toLine_of_not_white white]
    cases result : scan settings vocabulary (String.ofList (withoutLineEnd line.toList)) with
    | ok tokens =>
        obtain ⟨listed, noErrors⟩ := Reply.scanned_of_ok result
        rw [listed, noErrors]
        exact .tokens strips white result (line_eq_one_of_scan sameLine result)
    | error fault =>
        obtain ⟨noOutput, told⟩ := Reply.scanned_of_error result
        rw [noOutput, told]
        exact .fault strips white result (Fault.line_eq_one sameLine result)
          (worded_description fault.cause)

/-- Whether strings may have several lines does not matter to such a line. -/
theorem Reply.toLine_multiline
    (sameLine : '\n' ∉ withoutLineEnd line.toList)
    (settings : Settings)
    (vocabulary : Vocabulary)
    (multiline : Bool) :
    toLine { settings with multilineStrings := multiline } vocabulary line =
      toLine settings vocabulary line := by
  by_cases white : ∀ character ∈ withoutLineEnd line.toList, Text.isWhiteSpace character = true
  · rw [toLine_of_white white, toLine_of_white white]
  · rw [toLine_of_not_white white, toLine_of_not_white white, Scan.ofSource_multiline sameLine]

end Line

section Input

variable {input : List UInt8} {read : List String} {unread : List (List UInt8)}

/-- The lines before the first one that is not a text are read, whatever they are. -/
theorem exists_texts (lines : List (List UInt8)) :
    ∃ (read : List String) (unread : List (List UInt8)),
      lines = read.map Text.encode ++ unread ∧
        ∀ line, unread.head? = some line → ∀ text, Text.encode text ≠ line := by
  induction lines with
  | nil =>
      exact ⟨[], [], rfl, by simp⟩
  | cons line lines inductionHypothesis =>
      cases decoded : Text.decode? line with
      | none =>
          refine ⟨[], line :: lines, rfl, ?_⟩
          rintro first ⟨⟩
          exact Text.decode?_eq_none_iff.mp decoded
      | some text =>
          obtain ⟨read, unread, rfl, stops⟩ := inductionHypothesis
          obtain rfl := Text.decode?_eq_some_iff.mp decoded
          exact ⟨text :: read, unread, rfl, stops⟩

theorem exists_readAs (input : List UInt8) :
    ∃ read unread, ReadAs input read unread := by
  obtain ⟨lines, cut⟩ := Lines.exists_lines lineFeed input
  obtain ⟨read, unread, rfl, stops⟩ := exists_texts lines
  exact ⟨read, unread, cut, stops⟩

variable (settings : Settings) (vocabulary : Vocabulary)

theorem Transcript.ofLines_encode
    (stops : ∀ line, unread.head? = some line → ∀ text, Text.encode text ≠ line) :
    ofLines settings vocabulary (read.map Text.encode ++ unread) =
      { replies := read.map (Reply.toLine settings vocabulary)
        error? := if unread = [] then none else some .notText } := by
  induction read with
  | nil =>
      cases unread with
      | nil =>
          rfl
      | cons line later =>
          have notText := Text.decode?_eq_none_iff.mpr (stops line rfl)
          simp [ofLines, notText]
  | cons text read inductionHypothesis =>
      rw [List.map_cons, List.cons_append, ofLines, Text.decode?_encode, inductionHypothesis]
      rfl

/-- A dialogue replies to each line that is read, and to nothing else. -/
theorem hold_of_readAs
    (readAs : ReadAs input read unread) :
    hold settings vocabulary input =
      { replies := read.map (Reply.toLine settings vocabulary)
        error? := if unread = [] then none else some .notText } := by
  rw [hold, lines_iff_splitLines.mp readAs.lines,
    Transcript.ofLines_encode settings vocabulary readAs.stops]

theorem ReadAs.lineEnd_not_mem
    (readAs : ReadAs input read unread)
    {line : String}
    (member : line ∈ read) :
    '\n' ∉ withoutLineEnd line.toList :=
  lineEnd_not_mem_of_encode readAs.lines (List.mem_append_left unread (List.mem_map_of_mem member))

end Input

/--
A dialogue puts together its answers to the lines of the input, up to the first
line that is not a text.  Every line is answered by itself; what comes after the
lines that are read and whether strings may have several lines makes no difference.
-/
theorem hold_folds_lines
    (settings : Settings)
    (vocabulary : Vocabulary)
    (input : List UInt8) :
    (∃ read unread, ReadAs input read unread) ∧
      ∀ read unread,
        ReadAs input read unread →
        (hold settings vocabulary input).output =
            String.join (read.map fun line =>
              "> " ++ (Reply.toLine settings vocabulary line).output) ++ "> " ∧
          (hold settings vocabulary input).errors =
            String.join (read.map fun line => (Reply.toLine settings vocabulary line).errors) ∧
          (∀ line ∈ read,
            Answered settings vocabulary line
              (Reply.toLine settings vocabulary line).output
              (Reply.toLine settings vocabulary line).errors) ∧
          (hold settings vocabulary input).error? = (if unread = [] then none else some .notText) ∧
          (∀ other later,
            ReadAs other read later →
            (hold settings vocabulary other).output = (hold settings vocabulary input).output ∧
              (hold settings vocabulary other).errors = (hold settings vocabulary input).errors) ∧
          ∀ multiline,
            hold { settings with multilineStrings := multiline } vocabulary input =
              hold settings vocabulary input := by
  refine ⟨exists_readAs input, ?_⟩
  intro read unread readAs
  have held := hold_of_readAs settings vocabulary readAs
  refine ⟨?output, ?errors, ?answers, ?stop, ?alike, ?multiline⟩
  case output =>
    rw [held, Transcript.output, List.map_map]
    rfl
  case errors =>
    rw [held, Transcript.errors, List.map_map]
    rfl
  case answers =>
    intro line member
    exact answered_toLine (readAs.lineEnd_not_mem member) settings vocabulary
  case stop =>
    rw [held]
  case alike =>
    intro other later readOther
    rw [held, hold_of_readAs settings vocabulary readOther]
    exact ⟨rfl, rfl⟩
  case multiline =>
    intro multiline
    rw [held, hold_of_readAs _ vocabulary readAs, Transcript.mk.injEq, List.map_inj_left]
    refine ⟨?_, rfl⟩
    intro line member
    exact Reply.toLine_multiline (readAs.lineEnd_not_mem member) settings vocabulary multiline

/-- A line with tokens, a blank one, one with a fault, and one that is no text before a last one. -/
def mixedInput : List UInt8 :=
  Text.encode "x := 1\n \u00a0\r\n= 1\n" ++ [255, 10, 120]

theorem hold_folds_lines_until_no_text :
    (hold {} .pinky mixedInput).output =
        "> Identifier 'x' line 1\nAssign ':=' line 1\nInteger '1' line 1\n> > > " ∧
      (hold {} .pinky mixedInput).errors = "[line 1] malformed operator '='\n" ∧
      (hold {} .pinky mixedInput).error? = some .notText := by
  have readAs : ReadAs mixedInput ["x := 1\n", " \u00a0\r\n", "= 1\n"] [[255, 10], [120]] := by
    refine ⟨lines_iff_splitLines.mpr (by decide +kernel), ?_⟩
    rintro line ⟨⟩
    exact Text.decode?_eq_none_iff.mp (by decide +kernel)
  obtain ⟨output, errors, -, stopped, -⟩ :=
    (hold_folds_lines {} .pinky mixedInput).2 _ _ readAs
  rw [output, errors, stopped]
  decide +kernel

end PinkyLex.Dialogue
