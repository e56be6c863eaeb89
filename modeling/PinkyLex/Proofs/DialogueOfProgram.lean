import PinkyLex.Proofs.BlankLines
import PinkyLex.Proofs.DialogueFold

namespace PinkyLex

/-!
# Dialogues about programs

A program in which every line can be scanned by itself gets the same tokens from a
dialogue as from one scan.  The dialogue answers each line with the tokens that
the scan finds on it, and has them all on line one.
-/

namespace Token

/-- A token as it is when its line is the first one. -/
def lineAlone (token : Token) : Token :=
  { token with line := 1 }

/-- The tokens on each of some lines, counted from one. -/
def byLine (count : Nat) (tokens : List Token) : List (List Token) :=
  (List.range' 1 count).map fun number => tokens.filter fun token => token.line = number

theorem map_lineAlone_eq_self
    {tokens : List Token}
    (onFirst : ∀ token ∈ tokens, token.line = 1) :
    tokens.map lineAlone = tokens := by
  have same : ∀ token ∈ tokens, lineAlone token = id token := by
    intro token member
    rw [lineAlone, ← onFirst token member]
    rfl
  rw [List.map_congr_left same, List.map_id]

/-- A token of the first line is listed with the number one. -/
theorem listing_map_lineAlone (tokens : List Token) :
    listing (tokens.map lineAlone) =
      String.join (tokens.map fun token =>
        token.kind.name ++ " '" ++ token.lexeme ++ "' line 1\n") := by
  rw [listing, List.map_map]
  congr 1
  apply List.map_congr_left
  intro token _
  simp only [Function.comp_apply, toText, lineAlone, String.append_assoc]
  rfl

/-- The first line takes its own tokens, and every later one those of the line before it. -/
theorem byLine_append
    {first later : List Token}
    (onFirst : ∀ token ∈ first, token.line = 1)
    (counted : ∀ token ∈ later, 1 ≤ token.line)
    (count : Nat) :
    byLine (count + 1) (first ++ later.map (below 1)) =
      first :: (byLine count later).map fun tokens => tokens.map (below 1) := by
  have onNext (number : Nat) (token : Token) :
      (below 1 token).line = number + 1 ↔ token.line = number :=
    Nat.add_right_cancel_iff
  rw [byLine, List.range'_succ, List.map_cons, List.range'_succ_left, List.map_map, byLine,
    List.map_map, List.cons.injEq]
  constructor
  · have here : first.filter (fun token => token.line = 1) = first := by
      simpa [List.filter_eq_self] using onFirst
    have notHere : (later.map (below 1)).filter (fun token => token.line = 1) = [] := by
      simp only [List.filter_eq_nil_iff, List.forall_mem_map, decide_eq_true_eq]
      intro token member
      have atLeast := counted token member
      simp only [below]
      omega
    rw [List.filter_append, here, notHere, List.append_nil]
  · apply List.map_congr_left
    intro number inRange
    have notThere : first.filter (fun token => token.line = number + 1) = [] := by
      simp only [List.filter_eq_nil_iff, decide_eq_true_eq]
      intro token member
      have atLeast := (List.mem_range'_1.mp inRange).1
      rw [onFirst token member]
      omega
    simp only [Function.comp_apply, List.filter_append, notThere, List.nil_append, List.filter_map,
      onNext, Function.comp_def]

end Token

namespace Dialogue

/-- Lines that are scanned one by one, and their tokens as those of a single text. -/
inductive ScannedByLine (settings : Settings) (vocabulary : Vocabulary) :
    List (List Char) → List Token → Prop where
  | nil :
      ScannedByLine settings vocabulary [] []
  | cons
      {body ending : List Char}
      {lines : List (List Char)}
      {first later : List Token} :
      '\n' ∉ body →
      (∀ character ∈ ending, character ∈ ['\n', '\r']) →
      scan settings vocabulary (String.ofList body) = .ok first →
      ScannedByLine settings vocabulary lines later →
      ScannedByLine settings vocabulary ((body ++ ending) :: lines)
        (first ++ later.map (Token.below 1))

variable {settings : Settings} {vocabulary : Vocabulary} {lines : List (List Char)}
variable {tokens : List Token}

/-- Where strings stay on their line, a text that can be scanned is scanned line by line. -/
theorem scannedByLine_of_scan
    {text : List Char}
    (singleLine : settings.multilineStrings = false)
    (cut : Lines '\n' text lines)
    (succeeds : scan settings vocabulary (String.ofList text) = .ok tokens) :
    ScannedByLine settings vocabulary lines tokens := by
  have atEnd (body : List Char) {tokens : List Token}
      (sameLine : '\n' ∉ body)
      (succeeds : scan settings vocabulary (String.ofList body) = .ok tokens) :
      ScannedByLine settings vocabulary [body] tokens := by
    have single :
        ScannedByLine settings vocabulary [body ++ []] (tokens ++ [].map (Token.below 1)) :=
      .cons sameLine (by simp) succeeds .nil
    simpa using single
  induction cut generalizing tokens with
  | nil =>
      rw [scan_eq, String.toList_ofList, Tiling.cut_nil, Scan.result_ofTiling_nil] at succeeds
      cases succeeds
      exact .nil
  | last _ sameLine =>
      exact atEnd _ sameLine succeeds
  | @line body rest lines sameLine _ inductionHypothesis =>
      have split :
          String.ofList (body ++ '\n' :: rest) = String.ofList body ++ "\n" ++ String.ofList rest := by
        rw [List.append_cons, String.ofList_append, String.ofList_append]
      rw [split] at succeeds
      cases before : scan settings vocabulary (String.ofList body) with
      | error fault =>
          rw [scan_append_newLine_of_error before (.inl singleLine)] at succeeds
          cases succeeds
      | ok first =>
          rw [scan_append_newLine_of_ok before, String.toList_ofList,
            List.count_eq_zero.mpr sameLine] at succeeds
          cases after : scan settings vocabulary (String.ofList rest) with
          | error fault =>
              simp [after] at succeeds
          | ok later =>
              simp only [after, Except.ok.injEq] at succeeds
              subst succeeds
              exact .cons sameLine (by simp) before (inductionHypothesis after)

/-- A line that can be scanned is answered with its tokens, whatever ends it. -/
theorem Reply.toLine_of_scan
    {body ending : List Char}
    (sameLine : '\n' ∉ body)
    (lineEnds : ∀ character ∈ ending, character ∈ ['\n', '\r'])
    (succeeds : scan settings vocabulary (String.ofList body) = .ok tokens)
    (multiline : Bool) :
    let reply := toLine { settings with multilineStrings := multiline } vocabulary
      (String.ofList (body ++ ending))
    reply.output = Token.listing tokens ∧ reply.errors = "" := by
  intro reply
  have stripped : withoutLineEnd (String.ofList (body ++ ending)).toList = withoutLineEnd body := by
    rw [String.toList_ofList, withoutLineEnd_append lineEnds]
  have strips := strips_withoutLineEnd body
  generalize withoutLineEnd body = text at stripped strips
  obtain ⟨returns, rfl, allReturns, -⟩ := strips
  rw [List.mem_append, not_or] at sameLine
  obtain ⟨notInText, notInReturns⟩ := sameLine
  have allBlank : ∀ character ∈ returns, character ∈ [' ', '\t', '\r'] := by
    intro character member
    rcases List.mem_pair.mp (allReturns character member) with rfl | rfl
    · exact absurd member notInReturns
    · decide
  have alone := scan_of_append_blanks allBlank succeeds
  have answered : reply = toLine settings vocabulary (String.ofList (text ++ returns ++ ending)) :=
    toLine_multiline (by rwa [stripped]) settings vocabulary multiline
  rw [answered]
  by_cases white : ∀ character ∈ text, Text.isWhiteSpace character = true
  · have blank := blank_scan white settings vocabulary
    rw [alone] at blank
    cases blank
    rw [toLine_of_white (by rwa [stripped])]
    exact ⟨rfl, rfl⟩
  · rw [toLine_of_not_white (by rwa [stripped]), stripped]
    exact scanned_of_ok alone

namespace ScannedByLine

variable (scanned : ScannedByLine settings vocabulary lines tokens)
include scanned

theorem one_le_line :
    ∀ token ∈ tokens, 1 ≤ token.line := by
  cases scanned with
  | nil =>
      exact fun _ member => absurd member List.not_mem_nil
  | cons sameLine _ succeeds _ =>
      rw [List.forall_mem_append, List.forall_mem_map]
      constructor
      · exact fun token member => (line_eq_one_of_scan sameLine succeeds token member).ge
      · exact fun token _ => Nat.le_add_left 1 token.line

theorem flatten_byLine :
    (Token.byLine lines.length tokens).flatten = tokens := by
  induction scanned with
  | nil =>
      rfl
  | cons sameLine _ succeeds later inductionHypothesis =>
      rw [List.length_cons,
        Token.byLine_append (line_eq_one_of_scan sameLine succeeds) later.one_le_line,
        List.flatten_cons, ← List.map_flatten, inductionHypothesis]

theorem outputs_eq
    (multiline : Bool) :
    (lines.map fun line =>
      (Reply.toLine { settings with multilineStrings := multiline } vocabulary
        (String.ofList line)).output) =
      (Token.byLine lines.length tokens).map fun group =>
        Token.listing (group.map Token.lineAlone) := by
  induction scanned with
  | nil =>
      rfl
  | cons sameLine lineEnds succeeds later inductionHypothesis =>
      have onFirst := line_eq_one_of_scan sameLine succeeds
      rw [List.map_cons, (Reply.toLine_of_scan sameLine lineEnds succeeds multiline).1,
        inductionHypothesis, List.length_cons, Token.byLine_append onFirst later.one_le_line,
        List.map_cons, Token.map_lineAlone_eq_self onFirst, List.map_map]
      -- How far down a token was makes no difference once its line is the first one.
      simp only [Function.comp_def, List.map_map]
      rfl

theorem errors_eq
    (multiline : Bool) :
    ∀ line ∈ lines,
      (Reply.toLine { settings with multilineStrings := multiline } vocabulary
        (String.ofList line)).errors = "" := by
  induction scanned with
  | nil =>
      simp
  | cons sameLine lineEnds succeeds _ inductionHypothesis =>
      rw [List.forall_mem_cons]
      exact ⟨(Reply.toLine_of_scan sameLine lineEnds succeeds multiline).2, inductionHypothesis⟩

end ScannedByLine

/--
A program that can be scanned where strings stay on their line is answered without
a fault.  Each of its lines is answered with the tokens that stand on it, as if it
were the first line, and these tokens are those of the program in their order.
-/
theorem hold_of_scan
    {dialect : Dialect}
    {vocabulary : Vocabulary}
    {text : String}
    {tokens : List Token}
    (succeeds : scan ⟨dialect, false⟩ vocabulary text = .ok tokens)
    (multiline : Bool) :
    (∃ lines, Lines '\n' text.toList lines) ∧
      ∀ lines,
        Lines '\n' text.toList lines →
        (hold ⟨dialect, multiline⟩ vocabulary (Text.encode text)).error? = none ∧
          (hold ⟨dialect, multiline⟩ vocabulary (Text.encode text)).errors = "" ∧
          (hold ⟨dialect, multiline⟩ vocabulary (Text.encode text)).output =
            String.join ((Token.byLine lines.length tokens).map fun group =>
              "> " ++ String.join (group.map fun token =>
                token.kind.name ++ " '" ++ token.lexeme ++ "' line 1\n")) ++ "> " ∧
          (Token.byLine lines.length tokens).flatten = tokens := by
  refine ⟨Lines.exists_lines '\n' text.toList, ?_⟩
  intro lines cut
  have scanned := scannedByLine_of_scan rfl cut (by rwa [String.ofList_toList])
  have readAs : ReadAs (Text.encode text) (lines.map String.ofList) [] := by
    refine ⟨?_, by simp⟩
    have encoded := lines_encode cut
    rw [String.ofList_toList] at encoded
    rwa [List.append_nil, List.map_map]
  rw [hold_of_readAs _ vocabulary readAs]
  refine ⟨rfl, ?errors, ?output, scanned.flatten_byLine⟩
  case errors =>
    rw [Transcript.errors, ← String.toList_inj, String.toList_join, List.map_map, List.map_map,
      List.flatMap_map, List.flatMap_eq_nil_iff.mpr]
    · rfl
    · exact fun line member => congrArg String.toList (scanned.errors_eq multiline line member)
  case output =>
    have prompted := congrArg (List.map ("> " ++ ·)) (scanned.outputs_eq multiline)
    simp only [List.map_map, Token.listing_map_lineAlone, Function.comp_def] at prompted
    rw [Transcript.output, List.map_map, List.map_map]
    exact congrArg (String.join · ++ "> ") prompted

/-- Four lines, two of them without tokens, with line ends of one character and of two. -/
def fourLines : String :=
  "if x\r\n\n-- y\r\n'a'"

theorem hold_of_scan_four_lines :
    scan ⟨.pinky, false⟩ .pinky fourLines =
        .ok [⟨.keyword .ifWord, "if", 1⟩, ⟨.identifier, "x", 1⟩, ⟨.string, "'a'", 4⟩] ∧
      (hold ⟨.pinky, true⟩ .pinky (Text.encode fourLines)).error? = none ∧
      (hold ⟨.pinky, true⟩ .pinky (Text.encode fourLines)).errors = "" ∧
      (hold ⟨.pinky, true⟩ .pinky (Text.encode fourLines)).output =
        "> If 'if' line 1\nIdentifier 'x' line 1\n> > > String ''a'' line 1\n> " := by
  have succeeds : scan ⟨.pinky, false⟩ .pinky fourLines =
      .ok [⟨.keyword .ifWord, "if", 1⟩, ⟨.identifier, "x", 1⟩, ⟨.string, "'a'", 4⟩] := by
    decide +kernel
  have last : Lines '\n' "'a'".toList _ :=
    .last (by decide) (by decide)
  have comment : Lines '\n' ("-- y\r".toList ++ '\n' :: _) _ :=
    .line (by decide) last
  have empty : Lines '\n' ([] ++ '\n' :: _) _ :=
    .line List.not_mem_nil comment
  have cut : Lines '\n' ("if x\r".toList ++ '\n' :: _) _ :=
    .line (by decide) empty
  obtain ⟨noError, noErrors, output, -⟩ := (hold_of_scan succeeds true).2 _ cut
  refine ⟨succeeds, noError, noErrors, output.trans ?_⟩
  decide +kernel

end Dialogue

end PinkyLex
