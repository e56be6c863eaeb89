import PinkyLex.Proofs.Trivia

namespace PinkyLex

/-!
# Line endings of two characters

A source may end its lines with a carriage return and a line feed instead of the
line feed alone.  Between segments the carriage return is a blank; behind a
comment and in a string it becomes part of the segment.  So the segments differ
under the two styles, but what they become does not, and a place where the one
source gets stuck is a place where the other does.
-/

namespace Text

/-- A text with a carriage return put before every line feed. -/
def crlf (text : List Char) : List Char :=
  text.flatMap fun character => if character = '\n' then ['\r', '\n'] else [character]

/-- A source with a carriage return put before every line feed. -/
def crlfString (source : String) : String :=
  String.ofList (crlf source.toList)

/-- A character that is no part of a line ending. -/
def WithinLine (character : Char) : Prop :=
  character ∉ ['\r', '\n']

instance : DecidablePred WithinLine :=
  fun character => inferInstanceAs (Decidable (character ∉ ['\r', '\n']))

variable {character : Char} {text front back : List Char}

theorem WithinLine.ne_return (within : WithinLine character) :
    character ≠ '\r' := by
  rintro rfl
  exact within (by decide)

theorem WithinLine.ne_lineEnd (within : WithinLine character) :
    character ≠ '\n' := by
  rintro rfl
  exact within (by decide)

@[simp] theorem crlf_nil :
    crlf [] = [] :=
  rfl

@[simp] theorem crlf_cons_lineEnd (rest : List Char) :
    crlf ('\n' :: rest) = '\r' :: '\n' :: crlf rest :=
  rfl

theorem crlf_cons
    (different : character ≠ '\n')
    (rest : List Char) :
    crlf (character :: rest) = character :: crlf rest := by
  simp [crlf, different]

@[simp] theorem crlf_append
    (text later : List Char) :
    crlf (text ++ later) = crlf text ++ crlf later :=
  List.flatMap_append

@[simp] theorem crlf_eq_nil_iff :
    crlf text = [] ↔ text = [] := by
  cases text with
  | nil =>
      simp
  | cons first rest =>
      by_cases lineEnd : first = '\n'
      · simp [lineEnd]
      · simp [crlf_cons lineEnd]

/-- Every character is kept, and only carriage returns are put in. -/
theorem mem_crlf_iff
    (notReturn : character ≠ '\r') :
    character ∈ crlf text ↔ character ∈ text := by
  induction text with
  | nil =>
      simp
  | cons first rest inductionHypothesis =>
      by_cases lineEnd : first = '\n'
      · simp [lineEnd, notReturn, inductionHypothesis]
      · simp [crlf_cons lineEnd, inductionHypothesis]

theorem count_crlf (text : List Char) :
    (crlf text).count '\n' = text.count '\n' := by
  induction text with
  | nil =>
      rfl
  | cons first rest inductionHypothesis =>
      by_cases lineEnd : first = '\n'
      · simp [lineEnd, inductionHypothesis]
      · simp [crlf_cons lineEnd, List.count_cons, inductionHypothesis]

/-- A text on one line stays as it is. -/
theorem crlf_eq_self
    (sameLine : '\n' ∉ text) :
    crlf text = text := by
  induction text with
  | nil =>
      rfl
  | cons first rest inductionHypothesis =>
      rw [List.mem_cons, not_or] at sameLine
      rw [crlf_cons (Ne.symm sameLine.1), inductionHypothesis sameLine.2]

/-- A place behind a character within a line is a place of the text as it was. -/
theorem exists_split_of_crlf
    (within : WithinLine character)
    (split : crlf text = front ++ character :: back) :
    ∃ before after,
      text = before ++ character :: after ∧
        crlf before = front ∧
        crlf after = back := by
  induction text generalizing front with
  | nil =>
      simp at split
  | cons first rest inductionHypothesis =>
      by_cases lineEnd : first = '\n'
      · subst lineEnd
        rw [crlf_cons_lineEnd] at split
        match front with
        | [] =>
            exact absurd (List.cons.inj split).1.symm within.ne_return
        | [first] =>
            simp only [List.cons_append, List.nil_append, List.cons.injEq] at split
            exact absurd split.2.1.symm within.ne_lineEnd
        | first :: second :: front =>
            simp only [List.cons_append, List.cons.injEq] at split
            obtain ⟨rfl, rfl, later⟩ := split
            obtain ⟨before, after, rfl, rfl, rfl⟩ := inductionHypothesis later
            exact ⟨'\n' :: before, after, rfl, rfl, rfl⟩
      · rw [crlf_cons lineEnd] at split
        cases front with
        | nil =>
            obtain ⟨rfl, rfl⟩ := List.cons.inj split
            exact ⟨[], rest, rfl, rfl, rfl⟩
        | cons head front =>
            obtain ⟨rfl, later⟩ := List.cons.inj split
            obtain ⟨before, after, rfl, rfl, rfl⟩ := inductionHypothesis later
            exact ⟨first :: before, after, rfl, crlf_cons lineEnd before, rfl⟩

/-- A text starts as it did if it starts within a line. -/
theorem exists_cons_of_crlf
    (within : WithinLine character)
    (split : crlf text = character :: back) :
    ∃ after, text = character :: after ∧ crlf after = back := by
  have atStart : crlf text = [] ++ character :: back :=
    split
  obtain ⟨before, after, rfl, empty, behind⟩ := exists_split_of_crlf within atStart
  rw [crlf_eq_nil_iff] at empty
  exact ⟨after, by rw [empty, List.nil_append], behind⟩

/-- What lies within a line and starts a text started it before. -/
theorem prefix_of_prefix_crlf
    (within : '\r' ∉ front ∧ '\n' ∉ front)
    (starts : front <+: crlf text) :
    front <+: text := by
  induction front generalizing text with
  | nil =>
      exact List.nil_prefix
  | cons first front inductionHypothesis =>
      simp only [List.mem_cons, not_or] at within
      obtain ⟨⟨notReturn, noReturn⟩, notLineEnd, noLineEnd⟩ := within
      have withinFirst : WithinLine first := by
        simp [WithinLine, Ne.symm notReturn, Ne.symm notLineEnd]
      obtain ⟨back, split⟩ := starts
      obtain ⟨after, rfl, behind⟩ := exists_cons_of_crlf withinFirst split.symm
      rw [List.prefix_cons_inj]
      exact inductionHypothesis ⟨noReturn, noLineEnd⟩ ⟨back, behind.symm⟩

theorem withinLine_of_continuesWord
    (continues : continuesWord character = true) :
    WithinLine character := by
  intro ending
  simp only [List.mem_cons, List.not_mem_nil, or_false] at ending
  rcases ending with rfl | rfl <;> exact absurd continues (by decide)

theorem withinLine_of_isDigit
    (digit : character.isDigit = true) :
    WithinLine character :=
  withinLine_of_continuesWord (continuesWord_of_isDigit digit)

end Text

theorem Operator.withinLine_spelling (symbol : Operator) :
    '\r' ∉ symbol.spelling.toList ∧ '\n' ∉ symbol.spelling.toList := by
  cases symbol <;> decide

namespace Segment

variable {settings : Settings} {kind : SegmentKind} {text tail : List Char}

theorem withinLine_commentMarker (dialect : Dialect) :
    '\r' ∉ dialect.commentMarker ∧ '\n' ∉ dialect.commentMarker := by
  cases dialect <;> decide

theorem withinLine_of_quote
    {quote : Char}
    (quoted : quote ∈ ['"', '\'']) :
    Text.WithinLine quote := by
  simp only [List.mem_cons, List.not_mem_nil, or_false] at quoted
  rcases quoted with rfl | rfl <;> decide

theorem Form.kind_of_lineEnd
    (form : Form settings kind ['\n']) :
    kind = .lineEnd := by
  obtain ⟨found, count, reached, -, sameKind⟩ := takesAtLeast_of_form form []
  cases reached
  exact (sameKind rfl).symm

/-- A segment of any other kind than these two stays on its line. -/
theorem Form.lineEnd_not_mem
    (form : Form settings kind text)
    (notLineEnd : kind ≠ .lineEnd)
    (notString : kind ≠ .string) :
    '\n' ∉ text := by
  intro lineEnd
  rcases form.of_lineEnd_mem lineEnd with rfl | ⟨string, -⟩
  · exact notLineEnd form.kind_of_lineEnd
  · exact notString string

/-- What becomes a token has the form of its kind with carriage returns put into it too. -/
theorem Form.crlf
    (form : Form settings kind text)
    (loud : ¬ Silent ⟨kind, text⟩) :
    Form settings kind (Text.crlf text) := by
  by_cases string : kind = .string
  · subst string
    cases form with
    | @string quote body literals quoted notInside sameLine =>
        have within := withinLine_of_quote quoted
        rw [Text.crlf_cons within.ne_lineEnd, Text.crlf_append, Text.crlf_cons within.ne_lineEnd,
          Text.crlf_nil]
        refine .string literals quoted ?_ ?_
        · rwa [Text.mem_crlf_iff within.ne_return]
        · intro singleLine
          rw [Text.crlf_eq_self (sameLine singleLine)]
          exact sameLine singleLine
  · rwa [Text.crlf_eq_self (form.lineEnd_not_mem (fun lineEnd => loud (.inl lineEnd)) string)]

/-- A text that goes on into one with carriage returns goes on without them. -/
theorem RunsOn.of_crlf
    {dialect : Dialect}
    (runsOn : RunsOn dialect (Text.crlf text) (Text.crlf tail)) :
    RunsOn dialect text tail := by
  generalize front : Text.crlf text = first at runsOn
  generalize back : Text.crlf tail = second at runsOn
  cases runsOn with
  | word starts continues =>
      have within :=
        Text.withinLine_of_continuesWord (Text.continuesWord_of_startsWord starts)
      have nextWithin := Text.withinLine_of_continuesWord continues
      obtain ⟨rest, rfl, -⟩ := Text.exists_cons_of_crlf within front
      obtain ⟨later, rfl, -⟩ := Text.exists_cons_of_crlf nextWithin back
      exact .word starts continues
  | number digit nextDigit =>
      obtain ⟨rest, rfl, -⟩ := Text.exists_cons_of_crlf (Text.withinLine_of_isDigit digit) front
      obtain ⟨later, rfl, -⟩ := Text.exists_cons_of_crlf (Text.withinLine_of_isDigit nextDigit) back
      exact .number digit nextDigit
  | @fraction digits later next run digit =>
      have sameLine : '\n' ∉ text := by
        rw [← Text.mem_crlf_iff (by decide), front]
        intro lineEnd
        exact absurd (run.allDigits _ lineEnd) (by decide)
      rw [Text.crlf_eq_self sameLine] at front
      obtain ⟨behind, rfl, afterPoint⟩ := Text.exists_cons_of_crlf (by decide) back
      obtain ⟨later, rfl, -⟩ :=
        Text.exists_cons_of_crlf (Text.withinLine_of_isDigit digit) afterPoint
      exact .fraction (front ▸ run) digit
  | @equal first later member =>
      have within : Text.WithinLine first := by
        simp only [List.mem_cons, List.not_mem_nil, or_false] at member
        rcases member with rfl | rfl | rfl | rfl <;> decide
      obtain ⟨rest, rfl, empty⟩ := Text.exists_cons_of_crlf within front
      obtain ⟨later, rfl, -⟩ := Text.exists_cons_of_crlf (by decide) back
      obtain rfl := Text.crlf_eq_nil_iff.mp empty
      exact .equal member
  | comment pinky =>
      obtain ⟨rest, rfl, empty⟩ := Text.exists_cons_of_crlf (by decide) front
      obtain ⟨later, rfl, -⟩ := Text.exists_cons_of_crlf (by decide) back
      obtain rfl := Text.crlf_eq_nil_iff.mp empty
      exact .comment pinky

/-- A segment that becomes a token is the longest one with carriage returns put in too. -/
theorem Longest.crlf
    (longest : Longest settings ⟨kind, text⟩ (text ++ tail))
    (loud : ¬ Silent ⟨kind, text⟩) :
    Longest settings ⟨kind, Text.crlf text⟩ (Text.crlf text ++ Text.crlf tail) :=
  (longest.form.crlf loud).longest_of_not_runsOn loud
    fun runsOn => longest.not_runsOn loud runsOn.of_crlf

theorem Stuck.ne_lineEnd
    {first : Char}
    {rest : List Char}
    (stuck : Stuck settings (first :: rest)) :
    first ≠ '\n' := by
  rintro rfl
  exact stuck _ _ .lineEnd (by simp)

/-- Where no segment starts, none starts with carriage returns put in either. -/
theorem Stuck.crlf
    (stuck : Stuck settings text) :
    Stuck settings (Text.crlf text) := by
  cases text with
  | nil =>
      exact stuck
  | cons first rest =>
      -- Of a segment that starts in the new text, the first character alone is one in the old text.
      have notAlone {kind : SegmentKind} : ¬ Form settings kind [first] :=
        fun form => stuck kind [first] form (by simp)
      have notLineEnd := stuck.ne_lineEnd
      intro kind other form starts
      have within := starts
      rw [Text.crlf_cons notLineEnd] at starts
      obtain ⟨body, after, shape, -⟩ := form.exists_cons starts
      cases form with
      | lineEnd =>
          exact notLineEnd (List.cons.inj shape).1.symm
      | blank blank =>
          obtain ⟨rfl, -⟩ := List.cons.inj shape
          exact notAlone (.blank blank)
      | comment sameLine =>
          have marker := Text.prefix_of_prefix_crlf (withinLine_commentMarker settings.dialect)
            ((List.prefix_append _ _).trans within)
          have comment : Form settings .comment (settings.dialect.commentMarker ++ []) :=
            .comment List.not_mem_nil
          rw [List.append_nil] at comment
          exact stuck _ _ comment marker
      | operator symbol =>
          exact stuck _ _ (.operator symbol)
            (Text.prefix_of_prefix_crlf symbol.withinLine_spelling within)
      | integer literals run =>
          have digit := run.allDigits first (by simp [shape])
          exact notAlone (.integer literals ⟨by simp, by simp [digit]⟩)
      | @float whole fraction literals run =>
          obtain ⟨digit, digits, rfl⟩ := List.exists_cons_of_ne_nil run.nonempty
          obtain ⟨rfl, -⟩ := List.cons.inj shape
          have isDigit := run.allDigits digit List.mem_cons_self
          exact notAlone (.integer literals ⟨by simp, by simp [isDigit]⟩)
      | @string quote inside literals quoted notInside sameLine =>
          have withinQuote := withinLine_of_quote quoted
          obtain ⟨later, split⟩ := within
          simp only [List.cons_append, List.append_assoc, List.nil_append] at split
          obtain ⟨old, afterOpening, behind⟩ := Text.exists_cons_of_crlf withinQuote split.symm
          obtain ⟨before, later, rfl, rfl, -⟩ := Text.exists_split_of_crlf withinQuote behind
          rw [Text.mem_crlf_iff withinQuote.ne_return] at notInside
          rw [Text.mem_crlf_iff (by decide)] at sameLine
          refine stuck _ _ (.string literals quoted notInside sameLine) ⟨later, ?_⟩
          rw [afterOpening]
          simp
      | word literals startsWord =>
          obtain ⟨rfl, -⟩ := List.cons.inj shape
          exact notAlone (.word literals startsWord (by simp))

end Segment

namespace Token

/-- A token with a carriage return put before every line feed of its lexeme. -/
def crlf (token : Token) : Token :=
  { token with lexeme := Text.crlfString token.lexeme }

end Token

namespace Segment

variable {settings : Settings} {text : List Char}

/-- One segment becomes what the other becomes, with carriage returns put into it. -/
structure Returned (plain returned : Segment) : Prop where
  lineEnds : returned.lineEnds = plain.lineEnds
  token? (vocabulary : Vocabulary) (line : Nat) :
    returned.token? vocabulary line = (plain.token? vocabulary line).map Token.crlf

theorem returned_of_loud
    {kind : SegmentKind}
    (form : Form settings kind text)
    (loud : ¬ Silent ⟨kind, text⟩) :
    Returned ⟨kind, text⟩ ⟨kind, Text.crlf text⟩ where
  lineEnds :=
    Text.count_crlf text
  token? vocabulary line := by
    have sameKind :
        tokenKind? vocabulary ⟨kind, Text.crlf text⟩ = tokenKind? vocabulary ⟨kind, text⟩ := by
      cases kind with
      | word =>
          rw [Text.crlf_eq_self (form.lineEnd_not_mem (by simp) (by simp))]
      | _ =>
          rfl
    simp only [token?, sameKind, Option.map_map]
    congr 1
    funext kind
    simp [Token.crlf, Text.crlfString]

theorem returned_of_silent
    {plain returned : Segment}
    (silentPlain : plain.Silent)
    (silentReturned : returned.Silent)
    (lineEnds : returned.lineEnds = plain.lineEnds) :
    Returned plain returned where
  lineEnds :=
    lineEnds
  token? vocabulary line := by
    rw [token?, token?, tokenKind?_eq_none_iff.mpr silentPlain,
      tokenKind?_eq_none_iff.mpr silentReturned]
    rfl

end Segment

namespace Tiling

/-- One tiling becomes what the other becomes, with carriage returns put into it. -/
structure Returned (plain returned : Tiling) : Prop where
  remainder : returned.remainder = Text.crlf plain.remainder
  tokens (vocabulary : Vocabulary) (line : Nat) :
    Segment.tokensFrom vocabulary line returned.segments =
      (Segment.tokensFrom vocabulary line plain.segments).map Token.crlf

namespace Returned

variable {plain returned : Tiling}

theorem cons
    {first second : Segment}
    (tilings : Returned plain returned)
    (segments : Segment.Returned first second) :
    Returned (plain.cons first) (returned.cons second) where
  remainder :=
    tilings.remainder
  tokens vocabulary line := by
    have head := segments.token? vocabulary line
    have later := tilings.tokens vocabulary (line + first.lineEnds)
    simp only [Tiling.cons, Segment.tokensFrom, segments.lineEnds, head, later, List.map_append]
    cases Segment.token? vocabulary line first <;> rfl

/-- A carriage return between segments is a blank. -/
theorem cons_return_iff :
    Returned plain (returned.cons ⟨.blank, ['\r']⟩) ↔ Returned plain returned := by
  constructor
  · rintro ⟨remainder, tokens⟩
    exact ⟨remainder, tokens⟩
  · rintro ⟨remainder, tokens⟩
    exact ⟨remainder, tokens⟩

end Returned

theorem cut_cons_return
    (settings : Settings)
    (later : List Char) :
    cut settings ('\r' :: later) = (cut settings later).cons ⟨.blank, ['\r']⟩ := by
  have reached : Segment.reach? settings '\r' later = some (.blank, 0) :=
    rfl
  simpa using cut_cons_of_some reached

/-- A comment with the carriage return behind it is a comment. -/
theorem cut_comment_return
    {settings : Settings}
    {text : List Char}
    (form : Segment.Form settings .comment text)
    (later : List Char) :
    cut settings (text ++ '\r' :: '\n' :: later) =
      (cut settings ('\n' :: later)).cons ⟨.comment, text ++ ['\r']⟩ := by
  cases form with
  | @comment body sameLine =>
      have longer : '\n' ∉ body ++ ['\r'] := by
        simp [sameLine]
      have cut := cut_append_of_longest (Segment.longest_comment settings later longer)
      simpa using cut

/-- What is silent stays silent, though a carriage return behind a comment becomes part of it. -/
theorem returned_cut_of_silent
    {settings : Settings}
    {kind : SegmentKind}
    {text rest : List Char}
    (longest : Segment.Longest settings ⟨kind, text⟩ (text ++ rest))
    (silent : Segment.Silent ⟨kind, text⟩)
    (later : Returned (cut settings rest) (cut settings (Text.crlf rest))) :
    Returned ((cut settings rest).cons ⟨kind, text⟩)
      (cut settings (Text.crlf text ++ Text.crlf rest)) := by
  have form : Segment.Form settings kind text := longest.form
  rcases form.silent_cases silent with ⟨character, space, rfl⟩ | rfl
  · by_cases lineEnd : character = '\n'
    · subst lineEnd
      have both : Text.crlf ['\n'] ++ Text.crlf rest = '\r' :: '\n' :: Text.crlf rest :=
        rfl
      rw [both, cut_cons_return, cut_cons_lineEnd, Returned.cons_return_iff]
      exact later.cons (Segment.returned_of_silent silent (.inl rfl) rfl)
    · obtain ⟨other, silentOther, longestOther⟩ :=
        Segment.exists_longest_space settings (Text.crlf rest) space
      rw [Text.crlf_cons lineEnd, Text.crlf_nil, cut_append_of_longest longestOther]
      exact later.cons (Segment.returned_of_silent silent silentOther rfl)
  · rw [Text.crlf_eq_self (form.lineEnd_not_mem (by simp) (by simp))]
    rcases longest.lineEnd_of_comment with rfl | ⟨below, rfl⟩
    · rw [Text.crlf_nil, cut_append_of_longest longest]
      exact later.cons (Segment.returned_of_silent silent silent rfl)
    · rw [Text.crlf_cons_lineEnd, cut_cons_return, Returned.cons_return_iff] at later
      rw [Text.crlf_cons_lineEnd, cut_comment_return form]
      refine later.cons (Segment.returned_of_silent silent (.inr (.inr rfl)) ?_)
      simp [Segment.lineEnds]

/-- A text is cut into what its segments become with carriage returns put in. -/
theorem returned_cut
    (settings : Settings)
    (text : List Char) :
    Returned (cut settings text) (cut settings (Text.crlf text)) := by
  induction text using Segment.longest_induction settings with
  | stuck text stuck =>
      rw [cut_of_stuck stuck, cut_of_stuck stuck.crlf]
      exact ⟨rfl, fun _ _ => rfl⟩
  | append segment rest longest inductionHypothesis =>
      obtain ⟨kind, text⟩ := segment
      rw [cut_append_of_longest longest, Text.crlf_append]
      by_cases silent : Segment.Silent ⟨kind, text⟩
      · exact returned_cut_of_silent longest silent inductionHypothesis
      · rw [cut_append_of_longest (longest.crlf silent)]
        exact inductionHypothesis.cons (Segment.returned_of_loud longest.form silent)

/-- What is cut off grows by the carriage returns put into it. -/
theorem flatten_cut_crlf
    (settings : Settings)
    (text : List Char) :
    ((cut settings (Text.crlf text)).segments.map Segment.text).flatten =
      Text.crlf ((cut settings text).segments.map Segment.text).flatten := by
  have whole := flatten_cut settings (Text.crlf text)
  have grown := congrArg Text.crlf (flatten_cut settings text)
  rw [(returned_cut settings text).remainder] at whole
  rw [Text.crlf_append] at grown
  exact List.append_cancel_right (whole.trans grown.symm)

end Tiling

/-- Causes that agree but for the length of a string that is left open. -/
inductive FaultCause.Alike : FaultCause → FaultCause → Prop where
  | openString (length other : Nat) :
      Alike (.unterminatedString length) (.unterminatedString other)
  | same (cause : FaultCause) :
      Alike cause cause

theorem FaultCause.alike_of
    (settings : Settings)
    (first : Char)
    (rest later : List Char) :
    Alike (of settings first rest) (of settings first later) := by
  by_cases equal : first = '='
  · subst equal
    exact .same (.malformedOperator "=")
  · by_cases string : settings.dialect = .pinky ∧ first ∈ ['"', '\'']
    · rw [of_quote string.1 string.2, of_quote string.1 string.2]
      exact .openString _ _
    · rw [of_other equal string, of_other equal string]
      exact .same (.unrecognizedCharacter first)

/-- One fault of a source is another with carriage returns put in, which only moves it. -/
structure Fault.Returned (source : String) (plain returned : Fault) : Prop where
  cause : plain.cause.Alike returned.cause
  line : returned.line = plain.line
  offset :
    ∃ before after,
      source = before ++ after ∧
        before.utf8ByteSize = plain.offset ∧
        (Text.crlfString before).utf8ByteSize = returned.offset

section Scans

variable {settings : Settings} {vocabulary : Vocabulary} {source : String}

theorem scan_crlfString_of_ok
    {tokens : List Token}
    (scanned : scan settings vocabulary source = .ok tokens) :
    scan settings vocabulary (Text.crlfString source) = .ok (tokens.map Token.crlf) := by
  obtain ⟨segments, cut, rfl⟩ := scan_eq_ok_iff.mp scanned
  have returned := Tiling.returned_cut settings source.toList
  rw [cut] at returned
  rw [scan_eq_ok_iff]
  refine ⟨(Tiling.cut settings (Text.crlf source.toList)).segments, ?_, ?_⟩
  · rw [Text.crlfString, String.toList_ofList, ← Text.crlf_nil, ← returned.remainder]
  · exact (returned.tokens vocabulary 1).symm

theorem scan_crlfString_of_error
    {fault : Fault}
    (failed : scan settings vocabulary source = .error fault) :
    ∃ other,
      scan settings vocabulary (Text.crlfString source) = .error other ∧
        fault.Returned source other := by
  obtain ⟨segments, first, rest, cut, rfl⟩ := scan_eq_error_iff.mp failed
  obtain ⟨tiled, stuck⟩ := Tiled.iff_cut.mpr cut
  have remainder := (Tiling.returned_cut settings source.toList).remainder
  have flat := Tiling.flatten_cut_crlf settings source.toList
  rw [cut, Text.crlf_cons stuck.ne_lineEnd] at remainder
  rw [cut] at flat
  refine ⟨_, scan_eq_error_iff.mpr ⟨(Tiling.cut settings (Text.crlf source.toList)).segments, first,
    Text.crlf rest, ?_, rfl⟩, ?_⟩
  · rw [Text.crlfString, String.toList_ofList, ← remainder]
  · refine ⟨FaultCause.alike_of settings first rest _, ?_, ?_⟩
    · simp only [Segment.totalLineEnds_eq, flat, Text.count_crlf]
    · refine ⟨String.ofList (segments.map Segment.text).flatten, String.ofList (first :: rest),
        ?_, ?_, ?_⟩
      · rw [← String.ofList_append, tiled.flatten_append, String.ofList_toList]
      · rw [Text.utf8ByteSize_ofList, Scan.byteLength_eq]
      · rw [Text.crlfString, String.toList_ofList, Text.utf8ByteSize_ofList, Scan.byteLength_eq,
          flat]

theorem Token.Emitted.crlf_eq_self_or
    {token : Token}
    (emitted : token.Emitted settings vocabulary) :
    token.crlf = token ∨ token.kind = .string ∧ settings.multilineStrings = true := by
  obtain ⟨kind, form, means⟩ := emitted.exists_form
  by_cases lineEnd : '\n' ∈ token.lexeme.toList
  · right
    rcases form.of_lineEnd_mem lineEnd with single | ⟨rfl, multiline⟩
    · rw [single] at form
      obtain rfl := form.kind_of_lineEnd
      cases means
    · exact ⟨(Option.some.inj means).symm, multiline⟩
  · left
    rw [Token.crlf, Text.crlfString, Text.crlf_eq_self lineEnd, String.ofList_toList]

end Scans

/--
With a carriage return before every line feed, a source has the same tokens on the
same lines, and only strings of several lines change with it.  A fault keeps its
cause and its line, and moves as far as the text before it grows.
-/
theorem scan_crlfString
    (settings : Settings)
    (vocabulary : Vocabulary)
    (source : String) :
    match scan settings vocabulary source with
    | .ok tokens =>
        scan settings vocabulary (Text.crlfString source) = .ok (tokens.map Token.crlf) ∧
          ∀ token ∈ tokens,
            token.crlf = token ∨ token.kind = .string ∧ settings.multilineStrings = true
    | .error fault =>
        ∃ other,
          scan settings vocabulary (Text.crlfString source) = .error other ∧
            fault.Returned source other := by
  cases scanned : scan settings vocabulary source with
  | ok tokens =>
      refine ⟨scan_crlfString_of_ok scanned, fun token member => ?_⟩
      exact Token.Emitted.crlf_eq_self_or ⟨source, tokens, scanned, member⟩
  | error fault =>
      exact scan_crlfString_of_error scanned

/-- A string of two lines, a comment and a fault behind them. -/
theorem scan_crlfString_after_string :
    scan {} .pinky "'a\r\nb' -- c\r\n+" =
        .ok [⟨.string, "'a\r\nb'", 1⟩, ⟨.operator .plus, "+", 3⟩] ∧
      ∃ other,
        scan {} .pinky "'a\r\nb' -- c\r\n=" = .error other ∧
          Fault.Returned "'a\nb' -- c\n=" ⟨.malformedOperator "=", 3, 11, {}⟩ other := by
  have scanned : scan {} .pinky "'a\nb' -- c\n+" =
      .ok [⟨.string, "'a\nb'", 1⟩, ⟨.operator .plus, "+", 3⟩] := by
    decide +kernel
  have failed : scan {} .pinky "'a\nb' -- c\n=" = .error ⟨.malformedOperator "=", 3, 11, {}⟩ := by
    decide +kernel
  constructor
  · have both := scan_crlfString {} .pinky "'a\nb' -- c\n+"
    rw [scanned] at both
    exact both.1
  · have both := scan_crlfString {} .pinky "'a\nb' -- c\n="
    rw [failed] at both
    exact both

end PinkyLex
