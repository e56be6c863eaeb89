import PinkyLex.Proofs.Lines
import PinkyLex.Proofs.Trivia
import PinkyLex.Proofs.VocabularyChange

namespace PinkyLex

/-!
# One dialect inside the other

A source of the dialect without literals can be respelled, line by line, so that
the other dialect finds the same tokens on the same lines.  A source in which
neither dialect has something of its own needs no respelling: both give the same
tokens or the same fault.
-/

namespace Respelling

/-- Put a space behind every minus, so that no two of them meet. -/
def spread (text : List Char) : List Char :=
  text.flatMap fun character => if character = '-' then ['-', ' '] else [character]

/-- Respell a line: what stands before its comment is spread, and the comment gets the other marker. -/
def ofLine (line : List Char) : List Char :=
  let code := spread (line.takeWhile (· != '#'))
  match line.dropWhile (· != '#') with
  | [] => code
  | _ :: comment => code ++ '-' :: '-' :: comment

/-- Respell a text line by line. -/
def ofText (text : List Char) : List Char :=
  ['\n'].intercalate ((text.splitOn '\n').map ofLine)

/-- Respell a source. -/
def ofSource (source : String) : String :=
  String.ofList (ofText source.toList)

theorem ofLine_append
    {code : List Char}
    (noComment : '#' ∉ code)
    (line : List Char) :
    ofLine (code ++ line) = spread code ++ ofLine line := by
  have inCode : ∀ character ∈ code, (character != '#') = true := by
    intro character member
    rw [bne_iff_ne]
    exact fun marker => noComment (marker ▸ member)
  unfold ofLine
  rw [List.takeWhile_append_of_pos inCode, List.dropWhile_append_of_pos inCode]
  cases line.dropWhile (· != '#') with
  | nil =>
      simp [spread]
  | cons marker comment =>
      simp [spread]

/-- What stands in front of a text, without a line end, stands in front of its first line. -/
theorem splitOn_append
    {front : List Char}
    (sameLine : '\n' ∉ front)
    (rest : List Char) :
    (front ++ rest).splitOn '\n' = (rest.splitOn '\n').modifyHead (front ++ ·) := by
  induction front with
  | nil =>
      cases lines : rest.splitOn '\n' <;> simp [lines]
  | cons character front inductionHypothesis =>
      rw [List.mem_cons, not_or] at sameLine
      have onLine : (character == '\n') = false :=
        beq_eq_false_iff_ne.mpr (Ne.symm sameLine.1)
      rw [List.cons_append, List.splitOn_cons_eq_if_modifyHead, onLine,
        inductionHypothesis sameLine.2]
      rw [if_neg Bool.false_ne_true, List.modifyHead_modifyHead]
      rfl

/-- A text is respelled by its first line and what follows. -/
theorem ofText_append_of_line
    {front spelled rest : List Char}
    (sameLine : '\n' ∉ front)
    (spells :
      ∀ line,
        (rest.splitOn '\n').head? = some line →
        ofLine (front ++ line) = spelled ++ ofLine line) :
    ofText (front ++ rest) = spelled ++ ofText rest := by
  unfold ofText
  rw [splitOn_append sameLine]
  cases lines : rest.splitOn '\n' with
  | nil =>
      exact absurd lines (List.splitOn_ne_nil _ rest)
  | cons line later =>
      have first := spells line (by rw [lines]; rfl)
      rw [List.modifyHead_cons, List.map_cons, first, List.map_cons]
      cases later <;> simp [List.intercalate]

theorem ofText_append
    {front : List Char}
    (sameLine : '\n' ∉ front)
    (noComment : '#' ∉ front)
    (rest : List Char) :
    ofText (front ++ rest) = spread front ++ ofText rest :=
  ofText_append_of_line sameLine fun line _ => ofLine_append noComment line

theorem ofText_nil :
    ofText [] = [] :=
  rfl

theorem ofText_lineEnd (rest : List Char) :
    ofText ('\n' :: rest) = '\n' :: ofText rest := by
  have lines : ('\n' :: rest).splitOn '\n' = [] :: rest.splitOn '\n' := by
    simp [List.splitOn_cons_eq_if_modifyHead]
  unfold ofText
  rw [lines, List.map_cons, List.intercalate_cons_of_ne_nil]
  · rfl
  · simp [List.splitOn_ne_nil]

/-- A text goes on to the end of its first line. -/
theorem exists_lineEnd (text : List Char) :
    ∃ body rest,
      text = body ++ rest ∧
        '\n' ∉ body ∧
        (rest = [] ∨ ∃ later, rest = '\n' :: later) := by
  obtain ⟨lines, cut⟩ := Lines.exists_lines '\n' text
  cases cut with
  | nil =>
      exact ⟨[], [], rfl, List.not_mem_nil, .inl rfl⟩
  | last _ sameLine =>
      exact ⟨text, [], by simp, sameLine, .inl rfl⟩
  | line sameLine _ =>
      exact ⟨_, _, rfl, sameLine, .inr ⟨_, rfl⟩⟩

/-- A comment keeps what it says and gets the other marker. -/
theorem ofText_comment
    {body rest : List Char}
    (sameLine : '\n' ∉ body)
    (toLineEnd : rest = [] ∨ ∃ later, rest = '\n' :: later) :
    ofText ('#' :: body ++ rest) = '-' :: '-' :: body ++ ofText rest := by
  apply ofText_append_of_line
  · simpa using sameLine
  · intro line first
    have empty : line = [] := by
      rcases toLineEnd with rfl | ⟨later, rfl⟩
      · simpa using first.symm
      · simpa [List.splitOn_cons_eq_if_modifyHead] using first.symm
    subst empty
    simp [ofLine, spread]

/-- A respelled text starts with an equals sign only if the text does. -/
theorem head?_eq_of_ofText
    {text : List Char}
    (equal : (ofText text).head? = some '=') :
    text.head? = some '=' := by
  cases text with
  | nil =>
      cases equal
  | cons first rest =>
      by_cases lineEnd : first = '\n'
      · rw [lineEnd, ofText_lineEnd] at equal
        cases equal
      · by_cases comment : first = '#'
        · obtain ⟨body, later, rfl, sameLine, toLineEnd⟩ := exists_lineEnd rest
          rw [comment, ← List.cons_append, ofText_comment sameLine toLineEnd] at equal
          cases equal
        · have front : '\n' ∉ [first] ∧ '#' ∉ [first] := by
            simp [eq_comm, lineEnd, comment]
          rw [← List.singleton_append, ofText_append front.1 front.2] at equal
          by_cases minus : first = '-'
          · simp [spread, minus] at equal
          · simpa [spread, minus] using equal

end Respelling

namespace Operator

theorem not_mem_spelling (symbol : Operator) :
    '\n' ∉ symbol.spelling.toList ∧ '#' ∉ symbol.spelling.toList := by
  cases symbol <;> decide

theorem spread_spelling
    {symbol : Operator}
    (notMinus : symbol ≠ .minus) :
    Respelling.spread symbol.spelling.toList = symbol.spelling.toList := by
  cases symbol with
  | minus =>
      exact absurd rfl notMinus
  | _ =>
      rfl

theorem eq_minus_of_spelling
    {symbol : Operator}
    (spelled : symbol.spelling.toList = ['-']) :
    symbol = .minus := by
  cases symbol with
  | minus =>
      rfl
  | _ =>
      exact absurd spelled (by decide)

end Operator

namespace Segment

/-- Segments that become the token of one segment, if it becomes one, and count its line ends. -/
structure StandFor
    (vocabulary : Vocabulary)
    (segment : Segment)
    (segments : List Segment) :
    Prop where
  tokens :
    ∀ line, tokensFrom vocabulary line segments = (segment.token? vocabulary line).toList
  lineEnds :
    totalLineEnds segments = segment.lineEnds

theorem StandFor.of_silent
    (vocabulary : Vocabulary)
    {segment other : Segment}
    (silent : segment.Silent)
    (otherSilent : other.Silent)
    (lineEnds : other.lineEnds = segment.lineEnds) :
    StandFor vocabulary segment [other] where
  tokens line := by
    rw [tokensFrom_of_silent vocabulary (by simpa using otherSilent), token?,
      tokenKind?_eq_none_iff.mpr silent]
    rfl
  lineEnds := by
    simpa using lineEnds

/-- An operator goes on where its text is respelled only if it did so before. -/
theorem runsOn_of_ofText
    {symbol : Operator}
    {rest : List Char}
    (notMinus : symbol ≠ .minus)
    (runsOn : RunsOn .pinky symbol.spelling.toList (Respelling.ofText rest)) :
    RunsOn .hash symbol.spelling.toList rest := by
  generalize spelled : symbol.spelling.toList = text at runsOn
  generalize respelled : Respelling.ofText rest = tail at runsOn
  have notLiteral {first : Char} {later : List Char} (shape : text = first :: later) :
      startsLiteral first = false :=
    (Operator.head_spelling (spelled.trans shape)).2.2.2.2
  cases runsOn with
  | word starts _ =>
      have notStart := notLiteral rfl
      simp [startsLiteral, starts] at notStart
  | number digit _ =>
      have notDigit := notLiteral rfl
      simp [startsLiteral, digit] at notDigit
  | fraction digits _ =>
      obtain ⟨first, later, shape⟩ := List.exists_cons_of_ne_nil digits.nonempty
      have notDigit := notLiteral shape
      have digit := digits.allDigits first (shape ▸ List.mem_cons_self)
      simp [startsLiteral, digit] at notDigit
  | equal member =>
      obtain ⟨later, rfl⟩ := List.head?_eq_some_iff.mp
        (Respelling.head?_eq_of_ofText (congrArg List.head? respelled))
      exact .equal member
  | comment =>
      exact absurd (Operator.eq_minus_of_spelling spelled) notMinus

section Respelled

variable (vocabulary : Vocabulary) (multiline : Bool) {settings : Settings}
variable {kind : SegmentKind} {text rest : List Char}

theorem exists_respelled_space
    {character : Char}
    (space : character ∈ [' ', '\t', '\r', '\n'])
    (silent : Silent ⟨kind, [character]⟩) :
    ∃ segments,
      Tiled ⟨.pinky, multiline⟩ (Respelling.ofText ([character] ++ rest)) segments
          (Respelling.ofText rest) ∧
        StandFor vocabulary ⟨kind, [character]⟩ segments := by
  have same : Respelling.ofText ([character] ++ rest) = [character] ++ Respelling.ofText rest := by
    simp only [List.mem_cons, List.not_mem_nil, or_false] at space
    rcases space with rfl | rfl | rfl | rfl
    · exact Respelling.ofText_append (by decide) (by decide) rest
    · exact Respelling.ofText_append (by decide) (by decide) rest
    · exact Respelling.ofText_append (by decide) (by decide) rest
    · exact Respelling.ofText_lineEnd rest
  obtain ⟨other, otherSilent, longest⟩ :=
    exists_longest_space ⟨.pinky, multiline⟩ (Respelling.ofText rest) space
  rw [same]
  exact ⟨_, .cons longest (.nil _), .of_silent vocabulary silent otherSilent rfl⟩

theorem exists_respelled_comment
    (hash : settings.dialect = .hash)
    (longest : Longest settings ⟨.comment, text⟩ (text ++ rest)) :
    ∃ segments,
      Tiled ⟨.pinky, multiline⟩ (Respelling.ofText (text ++ rest)) segments
          (Respelling.ofText rest) ∧
        StandFor vocabulary ⟨.comment, text⟩ segments := by
  have toLineEnd := longest.lineEnd_of_comment
  have form : Form settings .comment text := longest.form
  cases form with
  | @comment body sameLine =>
      rw [hash, Dialect.commentMarker, List.singleton_append, Respelling.ofText_comment sameLine toLineEnd]
      have respelled : Longest ⟨.pinky, multiline⟩ ⟨.comment, '-' :: '-' :: body⟩
          ('-' :: '-' :: body ++ Respelling.ofText rest) := by
        rcases toLineEnd with rfl | ⟨later, rfl⟩
        · rw [Respelling.ofText_nil, List.append_nil]
          exact Form.longest (.comment sameLine)
        · rw [Respelling.ofText_lineEnd]
          exact longest_comment ⟨.pinky, multiline⟩ _ sameLine
      refine ⟨_, .cons respelled (.nil _), ?_⟩
      exact .of_silent vocabulary (.inr (.inr rfl)) (.inr (.inr rfl)) rfl

theorem exists_respelled_operator
    {symbol : Operator}
    (hash : settings.dialect = .hash)
    (longest :
      Longest settings ⟨.operator symbol, symbol.spelling.toList⟩
        (symbol.spelling.toList ++ rest)) :
    ∃ segments,
      Tiled ⟨.pinky, multiline⟩ (Respelling.ofText (symbol.spelling.toList ++ rest)) segments
          (Respelling.ofText rest) ∧
        StandFor vocabulary ⟨.operator symbol, symbol.spelling.toList⟩ segments := by
  have loud : ¬ Silent ⟨.operator symbol, symbol.spelling.toList⟩ := by
    simp [Silent]
  have quiet := longest.not_runsOn loud
  obtain ⟨sameLine, noComment⟩ := symbol.not_mem_spelling
  rw [Respelling.ofText_append sameLine noComment]
  by_cases minus : symbol = .minus
  · subst minus
    have space : ' ' ∈ [' ', '\t', '\r', '\n'] := by decide
    have minus : Longest ⟨.pinky, multiline⟩ ⟨.operator .minus, ['-']⟩
        (['-'] ++ ' ' :: Respelling.ofText rest) :=
      Form.longest_of_not_runsOn (.operator .minus) loud (not_runsOn_space space)
    obtain ⟨other, silent, blank⟩ :=
      exists_longest_space ⟨.pinky, multiline⟩ (Respelling.ofText rest) space
    refine ⟨_, .cons minus (.cons blank (.nil _)), ?_, rfl⟩
    intro line
    rw [tokensFrom, tokensFrom_of_silent vocabulary (by simpa using silent), List.append_nil]
    rfl
  · rw [Operator.spread_spelling minus]
    rw [hash] at quiet
    refine ⟨_, .cons (Form.longest_of_not_runsOn (.operator symbol) loud ?_) (.nil _), ?_, rfl⟩
    · exact fun runsOn => quiet (runsOn_of_ofText minus runsOn)
    · intro line
      exact List.append_nil _

/-- Where its text is respelled, a segment of the dialect without literals has others in its place. -/
theorem Longest.exists_respelled
    {segment : Segment}
    (hash : settings.dialect = .hash)
    (longest : Longest settings segment (segment.text ++ rest)) :
    ∃ segments,
      Tiled ⟨.pinky, multiline⟩ (Respelling.ofText (segment.text ++ rest)) segments
          (Respelling.ofText rest) ∧
        StandFor vocabulary segment segments := by
  obtain ⟨kind, text⟩ := segment
  have form : Form settings kind text := longest.form
  by_cases silent : Silent ⟨kind, text⟩
  · rcases form.silent_cases silent with ⟨character, space, rfl⟩ | rfl
    · exact exists_respelled_space vocabulary multiline space silent
    · exact exists_respelled_comment vocabulary multiline hash longest
  · obtain ⟨first, later, rfl⟩ := List.exists_cons_of_ne_nil form.ne_nil
    rcases form.token_cases silent with ⟨symbol, rfl, spelled⟩ | ⟨literals, -⟩
    · simp only [← spelled] at longest ⊢
      exact exists_respelled_operator vocabulary multiline hash longest
    · cases hash.symm.trans literals

end Respelled

end Segment

namespace Tiled

variable {settings : Settings} {text remainder : List Char} {segments : List Segment}

/-- A tiling in the dialect without literals has one with the same tokens in the other dialect. -/
theorem exists_respelled
    (vocabulary : Vocabulary)
    (multiline : Bool)
    (hash : settings.dialect = .hash)
    (tiled : Tiled settings text segments remainder) :
    ∃ others,
      Tiled ⟨.pinky, multiline⟩ (Respelling.ofText text) others (Respelling.ofText remainder) ∧
        ∀ line,
          Segment.tokensFrom vocabulary line others =
            Segment.tokensFrom vocabulary line segments := by
  induction tiled with
  | nil remainder =>
      exact ⟨[], .nil _, fun _ => rfl⟩
  | @cons segment rest remainder segments longest _ inductionHypothesis =>
      obtain ⟨front, tiledFront, standFor⟩ := longest.exists_respelled vocabulary multiline hash
      obtain ⟨others, tiledOthers, sameTokens⟩ := inductionHypothesis
      refine ⟨front ++ others, tiledFront.append tiledOthers, ?_⟩
      intro line
      rw [Segment.tokensFrom_append, standFor.tokens, standFor.lineEnds, sameTokens]
      rfl

end Tiled

/-- A text in which neither dialect has something of its own. -/
structure Neutral (text : List Char) : Prop where
  noMarker : '#' ∉ text
  noDoubleMinus : ¬ ['-', '-'] <:+: text
  noDigit : ∀ character ∈ text, character.isDigit = false
  noQuote : ∀ character ∈ text, character ∉ ['"', '\'']
  noWord : ∀ character ∈ text, Text.isAlphabetic character = false ∧ character ≠ '_'

namespace Neutral

variable {text : List Char} {first : Char} {rest : List Char}

theorem of_suffix
    {later : List Char}
    (neutral : Neutral text)
    (suffix : later <:+ text) :
    Neutral later where
  noMarker member :=
    neutral.noMarker (suffix.mem member)
  noDoubleMinus inside :=
    neutral.noDoubleMinus (inside.trans suffix.isInfix)
  noDigit character member :=
    neutral.noDigit character (suffix.mem member)
  noQuote character member :=
    neutral.noQuote character (suffix.mem member)
  noWord character member :=
    neutral.noWord character (suffix.mem member)

theorem startsLiteral_eq_false
    (neutral : Neutral (first :: rest)) :
    Segment.startsLiteral first = false := by
  have notDigit := neutral.noDigit first List.mem_cons_self
  have notQuote : Segment.isQuote first = false := by
    rw [Bool.eq_false_iff]
    exact fun quoted => neutral.noQuote first List.mem_cons_self (Segment.isQuote_iff.mp quoted)
  obtain ⟨notAlphabetic, notUnderscore⟩ := neutral.noWord first List.mem_cons_self
  simp [Segment.startsLiteral, Text.startsWord, notDigit, notQuote, notAlphabetic, notUnderscore]

theorem commentReach?_eq_none
    (neutral : Neutral (first :: rest))
    (dialect : Dialect) :
    Segment.commentReach? dialect first rest = none := by
  refine Segment.commentReach?_eq_none ?_ ?_
  · rintro ⟨rfl, -⟩
    exact neutral.noMarker List.mem_cons_self
  · rintro ⟨rfl, -, follows⟩
    obtain ⟨body, rfl⟩ := List.head?_eq_some_iff.mp follows
    exact neutral.noDoubleMinus ⟨[], body, rfl⟩

/-- Both dialects take the same segment from a neutral text. -/
theorem reach?_eq
    (neutral : Neutral (first :: rest))
    (settings other : Settings) :
    Segment.reach? settings first rest = Segment.reach? other first rest := by
  simp only [Segment.reach?, neutral.commentReach?_eq_none,
    Segment.literalReach?_eq_none neutral.startsLiteral_eq_false, ite_self]

theorem cause_eq
    (neutral : Neutral (first :: rest))
    (settings other : Settings) :
    FaultCause.of settings first rest = FaultCause.of other first rest := by
  have notQuote := neutral.noQuote first List.mem_cons_self
  by_cases equal : first = '='
  · subst equal
    rfl
  · rw [FaultCause.of_other equal (fun string => notQuote string.2),
      FaultCause.of_other equal (fun string => notQuote string.2)]

theorem cut_eq
    (neutral : Neutral text)
    (settings other : Settings) :
    Tiling.cut settings text = Tiling.cut other text := by
  induction text using Segment.longest_induction settings with
  | stuck text stuck =>
      cases text with
      | nil =>
          rw [Tiling.cut_nil, Tiling.cut_nil]
      | cons first rest =>
          have nothing := (neutral.reach?_eq settings other).symm.trans (Segment.stuck_iff.mp stuck)
          rw [Tiling.cut_of_stuck stuck, Tiling.cut_cons_of_none nothing]
  | append segment rest longest inductionHypothesis =>
      have same : Segment.Longest other segment (segment.text ++ rest) := by
        obtain ⟨kind, text⟩ := segment
        obtain ⟨first, body, rfl⟩ := List.exists_cons_of_ne_nil longest.form.ne_nil
        rw [List.cons_append] at neutral longest ⊢
        rw [Segment.longest_iff_reach?] at longest ⊢
        exact (neutral.reach?_eq settings other).symm.trans longest
      rw [Tiling.cut_append_of_longest longest, Tiling.cut_append_of_longest same,
        inductionHypothesis (neutral.of_suffix (List.suffix_append segment.text rest))]

end Neutral

section Scans

variable {multiline : Bool} {vocabulary : Vocabulary} {source : String}

/-- What the dialect without literals finds in a source, the other finds in the respelled source. -/
theorem scan_respelled
    {tokens : List Token}
    (succeeds : scan ⟨.hash, multiline⟩ vocabulary source = .ok tokens)
    (otherMultiline : Bool)
    (otherVocabulary : Vocabulary) :
    scan ⟨.pinky, otherMultiline⟩ otherVocabulary (Respelling.ofSource source) = .ok tokens := by
  rw [scan_eq_of_hash vocabulary rfl, ← scan_eq_of_hash otherVocabulary rfl] at succeeds
  obtain ⟨segments, cut, rfl⟩ := scan_eq_ok_iff.mp succeeds
  obtain ⟨others, tiled, sameTokens⟩ :=
    (Tiled.iff_cut.mpr cut).1.exists_respelled otherVocabulary otherMultiline rfl
  rw [scan_eq_ok_iff, Respelling.ofSource, String.toList_ofList]
  refine ⟨others, ?_, (sameTokens 1).symm⟩
  exact Tiled.iff_cut.mp ⟨tiled, Segment.stuck_nil _⟩

/-- Both dialects give the same tokens or the same fault for a neutral source. -/
theorem scan_eq_of_neutral
    (neutral : Neutral source.toList)
    (otherMultiline : Bool)
    (otherVocabulary : Vocabulary) :
    scan ⟨.hash, multiline⟩ vocabulary source =
      scan ⟨.pinky, otherMultiline⟩ otherVocabulary source := by
  rw [scan_eq_of_hash vocabulary rfl, ← scan_eq_of_hash otherVocabulary rfl, scan_eq, scan_eq,
    neutral.cut_eq ⟨.hash, multiline⟩ ⟨.pinky, otherMultiline⟩]
  have flat := Tiling.flatten_cut ⟨.pinky, otherMultiline⟩ source.toList
  cases cut : Tiling.cut ⟨.pinky, otherMultiline⟩ source.toList with
  | mk segments remainder =>
      rw [cut] at flat
      cases remainder with
      | nil =>
          rw [Scan.result_ofTiling_nil, Scan.result_ofTiling_nil]
      | cons first rest =>
          have atRemainder := neutral.of_suffix ⟨_, flat⟩
          rw [Scan.result_ofTiling_cons, Scan.result_ofTiling_cons,
            atRemainder.cause_eq ⟨.hash, multiline⟩ ⟨.pinky, otherMultiline⟩]

end Scans

/--
The dialect without literals lies inside the other one.  Where it finds tokens,
the other finds the same in the respelled source; and a source in which neither
has something of its own gives the same tokens or the same fault in both.
-/
theorem scan_hash_embeds
    (multiline otherMultiline : Bool)
    (vocabulary otherVocabulary : Vocabulary)
    (source : String) :
    (∀ tokens,
      scan ⟨.hash, multiline⟩ vocabulary source = .ok tokens →
      scan ⟨.pinky, otherMultiline⟩ otherVocabulary (Respelling.ofSource source) = .ok tokens) ∧
    (Neutral source.toList →
      scan ⟨.hash, multiline⟩ vocabulary source =
        scan ⟨.pinky, otherMultiline⟩ otherVocabulary source) :=
  ⟨fun _ succeeds => scan_respelled succeeds otherMultiline otherVocabulary,
    fun neutral => scan_eq_of_neutral neutral otherMultiline otherVocabulary⟩

/-- Minuses in a row are spread, and a quote in a comment stays in the comment. -/
theorem scan_hash_embeds_minuses :
    Respelling.ofSource "(--#it's\n<=#-\n-" = "(- - --it's\n<=---\n- " ∧
      scan ⟨.pinky, true⟩ .empty "(- - --it's\n<=---\n- " =
        .ok [⟨.operator .leftParen, "(", 1⟩, ⟨.operator .minus, "-", 1⟩,
          ⟨.operator .minus, "-", 1⟩, ⟨.operator .lessEqual, "<=", 2⟩,
          ⟨.operator .minus, "-", 3⟩] ∧
      Neutral "<=-\n- =+".toList ∧
      scan ⟨.hash, false⟩ .pinky "<=-\n- =+" = scan ⟨.pinky, true⟩ .empty "<=-\n- =+" := by
  have respelled : Respelling.ofSource "(--#it's\n<=#-\n-" = "(- - --it's\n<=---\n- " := by
    decide +kernel
  have found : scan ⟨.hash, false⟩ .pinky "(--#it's\n<=#-\n-" =
      .ok [⟨.operator .leftParen, "(", 1⟩, ⟨.operator .minus, "-", 1⟩,
        ⟨.operator .minus, "-", 1⟩, ⟨.operator .lessEqual, "<=", 2⟩,
        ⟨.operator .minus, "-", 3⟩] := by
    decide +kernel
  have shape : "<=-\n- =+".toList = ['<', '=', '-', '\n', '-', ' ', '=', '+'] := by
    decide +kernel
  have neutral : Neutral "<=-\n- =+".toList := by
    rw [shape]
    constructor
    case noMarker => decide
    case noDoubleMinus => decide
    all_goals
      simp only [List.forall_mem_cons, List.not_mem_nil, false_imp_iff, implies_true]
      decide +kernel
  have embedded := (scan_hash_embeds false true .pinky .empty "(--#it's\n<=#-\n-").1 _ found
  rw [respelled] at embedded
  exact ⟨respelled, embedded, neutral, (scan_hash_embeds false true .pinky .empty _).2 neutral⟩

end PinkyLex
