import PinkyLex.Proofs.ScanLines
import PinkyLex.Proofs.TokenForm

namespace PinkyLex

/-!
# Trivia between tokens

Spaces, line ends and comments that a line end closes are cut off as they are,
whatever stands behind them, and become no tokens.  No token goes on into a
separator, which starts with a space or a line end.
-/

/-- Spaces, line ends and comments that a line end closes. -/
inductive Trivia (dialect : Dialect) : List Char → Prop where
  | nil :
      Trivia dialect []
  | space {character : Char} {rest : List Char} :
      character ∈ [' ', '\t', '\r', '\n'] →
      Trivia dialect rest →
      Trivia dialect (character :: rest)
  | comment {body rest : List Char} :
      '\n' ∉ body →
      Trivia dialect rest →
      Trivia dialect (dialect.commentMarker ++ body ++ '\n' :: rest)

theorem Trivia.of_spaces
    (dialect : Dialect)
    {text : List Char}
    (spaces : ∀ character ∈ text, character ∈ [' ', '\t', '\r', '\n']) :
    Trivia dialect text := by
  induction text with
  | nil =>
      exact .nil
  | cons character text inductionHypothesis =>
      obtain ⟨space, later⟩ := List.forall_mem_cons.mp spaces
      exact .space space (inductionHypothesis later)

/-- Trivia that start with a space or a line end. -/
inductive Separator (dialect : Dialect) : List Char → Prop where
  | space {character : Char} {rest : List Char} :
      character ∈ [' ', '\t', '\r', '\n'] →
      Trivia dialect rest →
      Separator dialect (character :: rest)

theorem Separator.exists_space
    {dialect : Dialect}
    {gap : List Char}
    (separator : Separator dialect gap) :
    ∃ character rest, character ∈ [' ', '\t', '\r', '\n'] ∧ gap = character :: rest := by
  cases separator with
  | space space later =>
      exact ⟨_, _, space, rfl⟩

theorem Separator.trivia
    {dialect : Dialect}
    {gap : List Char}
    (separator : Separator dialect gap) :
    Trivia dialect gap := by
  cases separator with
  | space space later =>
      exact .space space later

namespace Segment

variable {character : Char} {text body tail : List Char}

theorem exists_longest_space
    (settings : Settings)
    (tail : List Char)
    (space : character ∈ [' ', '\t', '\r', '\n']) :
    ∃ kind,
      Silent ⟨kind, [character]⟩ ∧
        Longest settings ⟨kind, [character]⟩ ([character] ++ tail) := by
  simp only [List.mem_cons, List.not_mem_nil, or_false] at space
  rcases space with rfl | rfl | rfl | rfl
  · exact ⟨.blank, .inr (.inl rfl), longest_iff_reach?.mpr rfl⟩
  · exact ⟨.blank, .inr (.inl rfl), longest_iff_reach?.mpr rfl⟩
  · exact ⟨.blank, .inr (.inl rfl), longest_iff_reach?.mpr rfl⟩
  · exact ⟨.lineEnd, .inl rfl, longest_iff_reach?.mpr rfl⟩

/-- A comment ends before the end of its line. -/
theorem longest_comment
    (settings : Settings)
    (tail : List Char)
    (sameLine : '\n' ∉ body) :
    Longest settings ⟨.comment, settings.dialect.commentMarker ++ body⟩
      (settings.dialect.commentMarker ++ body ++ '\n' :: tail) := by
  have inside : ∀ character ∈ body, insideLine character = true := by
    intro character member
    rw [insideLine, bne_iff_ne]
    exact fun lineEnd => sameLine (lineEnd ▸ member)
  have stops (next : Char) (atHead : ('\n' :: tail).head? = some next) :
      insideLine next = false := by
    cases atHead
    rfl
  have run := takeWhile_append_of_stops inside stops
  cases dialect : settings.dialect with
  | pinky =>
      apply longest_iff_reach?.mpr
      simp [reach?, isBlank, commentReach?, dialect, run, Nat.add_comm]
  | hash =>
      apply longest_iff_reach?.mpr
      simp [reach?, isBlank, commentReach?, dialect, run]

theorem not_runsOn_nil
    (dialect : Dialect)
    (text : List Char) :
    ¬ RunsOn dialect text [] := by
  intro runsOn
  cases runsOn

theorem continuesWord_of_space
    (space : character ∈ [' ', '\t', '\r', '\n']) :
    Text.continuesWord character = false := by
  simp only [List.mem_cons, List.not_mem_nil, or_false] at space
  rcases space with rfl | rfl | rfl | rfl <;> decide

/-- No text goes on into a space or a line end. -/
theorem not_runsOn_space
    {dialect : Dialect}
    (space : character ∈ [' ', '\t', '\r', '\n']) :
    ¬ RunsOn dialect text (character :: tail) := by
  have notWord := continuesWord_of_space space
  intro runsOn
  cases runsOn with
  | word _ goesOn =>
      simp [notWord] at goesOn
  | number _ digit =>
      simp [Text.continuesWord_of_isDigit digit] at notWord
  | fraction | equal | comment =>
      exact absurd space (by decide)

section Silent

variable {settings : Settings} {vocabulary : Vocabulary} {line : Nat}
variable {kind : SegmentKind} {segments : List Segment} {first : Char} {token : Token}

/-- No token starts with a space or a line end. -/
theorem Form.not_space
    {rest : List Char}
    (form : Form settings kind (first :: rest))
    (loud : ¬ Silent ⟨kind, first :: rest⟩) :
    first ∉ [' ', '\t', '\r', '\n'] := by
  intro space
  have notWord := continuesWord_of_space space
  rcases form.token_cases loud with
    ⟨symbol, -, spelled⟩ | ⟨-, ⟨digit, -⟩ | ⟨quoted, -⟩ | ⟨starts, -⟩⟩
  · obtain ⟨notLineEnd, notBlank, -⟩ := Operator.head_spelling spelled
    simp_all [isBlank]
  · simp [Text.continuesWord_of_isDigit digit] at notWord
  · simp only [List.mem_cons, List.not_mem_nil, or_false] at quoted
    rcases quoted with rfl | rfl <;> exact absurd space (by decide)
  · simp [Text.continuesWord_of_startsWord starts] at notWord

/-- What is silent is a space, a line end or a comment. -/
theorem Form.silent_cases
    (form : Form settings kind text)
    (silent : Silent ⟨kind, text⟩) :
    (∃ character ∈ [' ', '\t', '\r', '\n'], text = [character]) ∨ kind = .comment := by
  cases form with
  | lineEnd =>
      exact .inl ⟨'\n', by decide, rfl⟩
  | @blank character blank =>
      exact .inl ⟨character, List.mem_append_left ['\n'] blank, rfl⟩
  | comment =>
      exact .inr rfl
  | operator | integer | float | string | word =>
      rcases silent with lineEnd | blank | comment <;> contradiction

/-- A comment goes on to the end of its line. -/
theorem Longest.lineEnd_of_comment
    (longest : Longest settings ⟨.comment, text⟩ (text ++ tail)) :
    tail = [] ∨ ∃ rest, tail = '\n' :: rest := by
  cases tail with
  | nil =>
      exact .inl rfl
  | cons next rest =>
      right
      by_contra noLineEnd
      have single : [next] <+: next :: rest := by simp
      have form : Form settings .comment text := longest.form
      cases form with
      | @comment body sameLine =>
          apply longest.not_form_append single (by simp)
          rw [List.append_assoc]
          refine .comment ?_
          rw [List.mem_append, not_or, List.mem_singleton]
          exact ⟨sameLine, fun lineEnd => noLineEnd ⟨rest, by rw [lineEnd]⟩⟩

/-- Tokens behind a comment are further down. -/
theorem Longest.line_lt_of_comment
    (longest : Longest settings ⟨.comment, text⟩ (text ++ tail))
    (cut : Tiling.cut settings tail = ⟨segments, []⟩)
    (member : token ∈ tokensFrom vocabulary line segments) :
    line < token.line := by
  rcases longest.lineEnd_of_comment with rfl | ⟨rest, rfl⟩
  · obtain ⟨rfl, -⟩ := Tiling.mk.inj ((Tiling.cut_nil settings).symm.trans cut)
    cases member
  · obtain ⟨rfl, -⟩ := Tiling.mk.inj ((Tiling.cut_cons_lineEnd settings rest).symm.trans cut)
    have furtherDown : token ∈ tokensFrom vocabulary (line + 1) (Tiling.cut settings rest).segments :=
      member
    obtain ⟨segment, -, below, -⟩ := exists_of_mem_tokensFrom furtherDown
    exact below

end Silent

variable (vocabulary : Vocabulary)

theorem tokensFrom_of_silent
    {segments : List Segment}
    (silent : ∀ segment ∈ segments, segment.Silent)
    (line : Nat) :
    tokensFrom vocabulary line segments = [] := by
  induction segments generalizing line with
  | nil =>
      rfl
  | cons segment segments inductionHypothesis =>
      obtain ⟨silentFirst, silentRest⟩ := List.forall_mem_cons.mp silent
      rcases tokensFrom_cons_cases vocabulary line segment segments with
        ⟨-, same⟩ | ⟨loud, -⟩
      · rw [same, inductionHypothesis silentRest]
      · exact absurd silentFirst loud

/-- What is silent only moves the tokens behind it down. -/
theorem tokensFrom_append_of_silent
    {segments : List Segment}
    (silent : ∀ segment ∈ segments, segment.Silent)
    (line : Nat)
    (later : List Segment) :
    tokensFrom vocabulary line (segments ++ later) =
      tokensFrom vocabulary (line + (segments.map Segment.text).flatten.count '\n') later := by
  rw [tokensFrom_append, tokensFrom_of_silent vocabulary silent, totalLineEnds_eq,
    List.nil_append]

end Segment

/-- Trivia are cut into silent segments, whatever stands behind them. -/
theorem Trivia.exists_tiled
    {settings : Settings}
    {gap : List Char}
    (trivia : Trivia settings.dialect gap)
    (tail : List Char) :
    ∃ segments,
      (∀ segment ∈ segments, segment.Silent) ∧
        (segments.map Segment.text).flatten = gap ∧
        Tiled settings (gap ++ tail) segments tail := by
  induction trivia with
  | nil =>
      exact ⟨[], by simp, rfl, .nil tail⟩
  | @space character rest space later inductionHypothesis =>
      obtain ⟨segments, silent, flat, tiled⟩ := inductionHypothesis
      obtain ⟨kind, silentFirst, longest⟩ := Segment.exists_longest_space settings (rest ++ tail) space
      exact ⟨⟨kind, [character]⟩ :: segments, List.forall_mem_cons.mpr ⟨silentFirst, silent⟩,
        by simp [flat], .cons longest tiled⟩
  | @comment body rest sameLine later inductionHypothesis =>
      obtain ⟨segments, silent, flat, tiled⟩ := inductionHypothesis
      have comment := Segment.longest_comment settings (rest ++ tail) sameLine
      have lineEnd : Segment.Longest settings Segment.newLine (Segment.newLine.text ++ (rest ++ tail)) :=
        Segment.longest_iff_reach?.mpr rfl
      refine ⟨⟨.comment, settings.dialect.commentMarker ++ body⟩ :: Segment.newLine :: segments,
        ?_, ?_, ?_⟩
      · rw [List.forall_mem_cons, List.forall_mem_cons]
        exact ⟨.inr (.inr rfl), .inl rfl, silent⟩
      · simp [flat, Segment.newLine]
      · rw [List.append_assoc, List.cons_append]
        exact .cons comment (.cons lineEnd tiled)

/-- A text of trivia alone is cut into silent segments and nothing is left. -/
theorem Trivia.exists_cut
    {settings : Settings}
    {gap : List Char}
    (trivia : Trivia settings.dialect gap) :
    ∃ segments,
      (∀ segment ∈ segments, segment.Silent) ∧ Tiling.cut settings gap = ⟨segments, []⟩ := by
  obtain ⟨segments, silent, -, tiled⟩ := trivia.exists_tiled []
  rw [List.append_nil] at tiled
  exact ⟨segments, silent, Tiled.iff_cut.mp ⟨tiled, Segment.stuck_nil settings⟩⟩

end PinkyLex
