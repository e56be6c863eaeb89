import PinkyLex.Proofs.WrittenTokens

namespace PinkyLex

/-!
# Scans of written tokens

The gap before a token is cut off as it is, and then the token itself just if its
lexeme does not run on into what is written behind it.  If it does, a longer
segment stands there: a token with another lexeme, or a comment, which moves all
further tokens to another line.
-/

namespace Tiled

variable {settings : Settings} {vocabulary : Vocabulary} {line : Nat}
variable {text tail : List Char} {segments : List Segment} {token : Token} {tokens : List Token}

/-- If the first token stands where the text starts, its lexeme does not run on. -/
theorem not_runsOn_of_line
    {kind : SegmentKind}
    {tokenKind : TokenKind}
    {lexeme : String}
    (form : Segment.Form settings kind lexeme.toList)
    (loud : ¬ Segment.Silent ⟨kind, lexeme.toList⟩)
    (tiled : Tiled settings (lexeme.toList ++ tail) segments [])
    (collected :
      Segment.tokensFrom vocabulary line segments = ⟨tokenKind, lexeme, line⟩ :: tokens) :
    ¬ Segment.RunsOn settings.dialect lexeme.toList tail := by
  obtain ⟨segment, rest, later, split, longest, tiledLater, ⟨silent, same⟩ | ⟨alsoLoud, same⟩⟩ :=
    tiled.first_token_cases collected
  · -- A space starts no lexeme, and a comment would leave the token for a later line.
    exfalso
    obtain ⟨first, lexemeRest, shape⟩ := List.exists_cons_of_ne_nil form.ne_nil
    obtain ⟨segmentKind, segmentText⟩ := segment
    rcases longest.form.silent_cases silent with ⟨character, space, single⟩ | isComment
    · rw [shape] at form loud split
      simp only at single
      rw [single] at split
      obtain ⟨rfl, -⟩ := List.cons.inj split
      exact form.not_space loud space
    · simp only at isComment
      subst isComment
      have cut := Tiled.iff_cut.mp ⟨tiledLater, Segment.stuck_nil settings⟩
      have member := List.mem_of_mem_head? (congrArg List.head? same)
      have below := longest.line_lt_of_comment cut member
      simp only at below
      omega
  · simp only at same
    rw [same] at split ⊢
    obtain rfl := List.append_cancel_left split
    exact longest.not_runsOn alsoLoud

/-- If the lexemes put together are the text, the first one does not run on. -/
theorem not_runsOn_of_lexemes
    (tiled : Tiled settings (token.lexeme.toList ++ tail) segments [])
    (collected : Segment.tokensFrom vocabulary line segments = token :: tokens)
    (lexemes : (tokens.map fun token => token.lexeme.toList).flatten = tail) :
    ¬ Segment.RunsOn settings.dialect token.lexeme.toList tail := by
  obtain ⟨segment, rest, later, split, longest, tiledLater, ⟨silent, same⟩ | ⟨alsoLoud, lexeme⟩⟩ :=
    tiled.first_token_cases collected
  · have bound := Segment.length_lexemes_le vocabulary (line + segment.lineEnds) later
    have positive := List.length_pos_iff.mpr longest.form.ne_nil
    have whole := congrArg List.length split
    have flat := congrArg List.length tiledLater.flatten_append
    rw [same, List.map_cons, List.flatten_cons, lexemes] at bound
    simp only [List.append_nil, List.length_append] at bound whole flat
    omega
  · rw [lexeme] at split ⊢
    obtain rfl := List.append_cancel_left split
    exact longest.not_runsOn alsoLoud

end Tiled

namespace Piece

variable {settings : Settings} {vocabulary : Vocabulary}
variable {before : List Char} {piece : Piece settings vocabulary}
variable {rest : List (Piece settings vocabulary)}

/-- A gap is cut off as it is, and only its line ends matter to the tokens behind it. -/
theorem exists_gap
    (piece : Piece settings vocabulary)
    (tail : List Char) :
    ∃ silent,
      Tiling.cut settings (piece.gap ++ tail) = (Tiling.cut settings tail).prepend silent ∧
        ∀ line segments,
          Segment.tokensFrom vocabulary line (silent ++ segments) =
            Segment.tokensFrom vocabulary (line + piece.gap.count '\n') segments := by
  have trivia : Trivia settings.dialect piece.gap := by
    rcases piece.spaced with empty | separator
    · rw [empty]
      exact .nil
    · exact separator.trivia
  obtain ⟨silent, allSilent, flat, tiled⟩ := trivia.exists_tiled tail
  refine ⟨silent, tiled.cut_eq, ?_⟩
  intro line segments
  rw [Segment.tokensFrom_append_of_silent vocabulary allSilent, flat]

/-- The pieces are cut up whole and give their tokens, where some text stands before them. -/
def Rescans (before : List Char) (pieces : List (Piece settings vocabulary)) : Prop :=
  ∃ segments,
    Tiling.cut settings (written pieces) = ⟨segments, []⟩ ∧
      Segment.tokensFrom vocabulary (1 + before.count '\n') segments = placed before pieces

theorem Rescans.not_runsOn
    (rescans : Rescans before (piece :: rest)) :
    ¬ Segment.RunsOn settings.dialect piece.lexeme (written rest) := by
  obtain ⟨segments, cut, collected⟩ := rescans
  obtain ⟨silent, cutGap, moved⟩ := piece.exists_gap (piece.lexeme ++ written rest)
  obtain ⟨kind, form, loud, -⟩ := piece.emitted.exists_loud
  rw [written, cutGap, Tiling.prepend_eq_iff] at cut
  obtain ⟨later, cutLexeme, rfl⟩ := cut
  have tiled := (Tiled.iff_cut.mpr cutLexeme).1
  rw [moved, Nat.add_assoc, ← List.count_append, placed] at collected
  exact Tiled.not_runsOn_of_line form loud tiled collected

/-- A lexeme that does not run on is cut off as it is, and what follows is cut in turn. -/
theorem rescans_cons_of_not_runsOn
    (quiet : ¬ Segment.RunsOn settings.dialect piece.lexeme (written rest)) :
    Rescans before (piece :: rest) ↔ Rescans (before ++ piece.gap ++ piece.lexeme) rest := by
  obtain ⟨silent, cutGap, moved⟩ := piece.exists_gap (piece.lexeme ++ written rest)
  obtain ⟨kind, form, loud, becomes⟩ := piece.emitted.exists_loud
  have longest := form.longest_of_not_runsOn loud quiet
  have cutWhole :
      Tiling.cut settings (written (piece :: rest)) =
        (Tiling.cut settings (written rest)).prepend (silent ++ [⟨kind, piece.lexeme⟩]) := by
    have cutLexeme := Tiling.cut_append_of_longest longest
    rw [written, cutGap]
    simp only [lexeme, cutLexeme, Tiling.cons, Tiling.prepend, List.append_assoc,
      List.singleton_append]
  have collected (segments : List Segment) :
      Segment.tokensFrom vocabulary (1 + before.count '\n')
          (silent ++ [⟨kind, piece.lexeme⟩] ++ segments) =
        { piece.token with line := 1 + (before ++ piece.gap).count '\n' } ::
          Segment.tokensFrom vocabulary (1 + (before ++ piece.gap ++ piece.lexeme).count '\n')
            segments := by
    rw [List.append_assoc, moved, List.singleton_append, Segment.tokensFrom, lexeme, becomes]
    simp [Segment.lineEnds, Nat.add_assoc]
  constructor
  · rintro ⟨segments, cut, tokens⟩
    rw [cutWhole, Tiling.prepend_eq_iff] at cut
    obtain ⟨later, cutRest, rfl⟩ := cut
    rw [collected, placed] at tokens
    exact ⟨later, cutRest, (List.cons.inj tokens).2⟩
  · rintro ⟨segments, cut, tokens⟩
    refine ⟨_, ?_, (collected segments).trans ?_⟩
    · rw [cutWhole, cut]
      rfl
    · rw [tokens, placed]

theorem rescans_iff_separated
    (before : List Char)
    (pieces : List (Piece settings vocabulary)) :
    Rescans before pieces ↔ Separated pieces := by
  induction pieces generalizing before with
  | nil =>
      have separated : Separated ([] : List (Piece settings vocabulary)) := by
        constructor <;> simp
      exact iff_of_true ⟨[], Tiling.cut_nil settings, rfl⟩ separated
  | cons piece rest inductionHypothesis =>
      rw [separated_cons_iff]
      constructor
      · intro rescans
        have quiet := rescans.not_runsOn
        have later := (rescans_cons_of_not_runsOn quiet).mp rescans
        exact ⟨quiet, (inductionHypothesis _).mp later⟩
      · rintro ⟨quiet, separated⟩
        exact (rescans_cons_of_not_runsOn quiet).mpr ((inductionHypothesis _).mpr separated)

end Piece

/-- Lexemes of which the first runs on into the others are not found in the text they make. -/
theorem lexemes_ne_of_runsOn
    {settings : Settings}
    {vocabulary : Vocabulary}
    {source lexeme : String}
    {lexemes : List String}
    {found : List Token}
    (whole : source.toList = lexeme.toList ++ (lexemes.map String.toList).flatten)
    (runsOn :
      Segment.RunsOn settings.dialect lexeme.toList (lexemes.map String.toList).flatten)
    (scanned : scan settings vocabulary source = .ok found) :
    found.map Token.lexeme ≠ lexeme :: lexemes := by
  intro same
  obtain ⟨token, tokens, rfl, rfl, rfl⟩ := List.map_eq_cons_iff.mp same
  obtain ⟨segments, cut, collected⟩ := scan_eq_ok_iff.mp scanned
  rw [whole] at cut
  have tiled := (Tiled.iff_cut.mpr cut).1
  exact tiled.not_runsOn_of_lexemes collected.symm (by simp [Function.comp_def]) runsOn

/--
Tokens that some scans gave, written out with gaps between them, scan back to the
same tokens on their new lines, just if no tokens are next to each other that run
into each other.  Of such tokens alone, not even the lexemes are found again.
-/
theorem scan_written_iff_separated
    (settings : Settings)
    (vocabulary : Vocabulary) :
    (∀ pieces : List (Piece settings vocabulary),
      scan settings vocabulary (String.ofList (Piece.written pieces)) =
          .ok (Piece.placed [] pieces) ↔
        Piece.Separated pieces) ∧
      (∀ left right : Token,
        left.Joins settings.dialect right →
        ∀ found,
          scan settings vocabulary (left.lexeme ++ right.lexeme) = .ok found →
          found.map Token.lexeme ≠ [left.lexeme, right.lexeme]) ∧
      ∀ whole point fraction : Token,
        whole.MakeFloat point fraction →
        ∀ found,
          scan settings vocabulary (whole.lexeme ++ point.lexeme ++ fraction.lexeme) = .ok found →
          found.map Token.lexeme ≠ [whole.lexeme, point.lexeme, fraction.lexeme] := by
  refine ⟨?_, ?_, ?_⟩
  · intro pieces
    rw [← Piece.rescans_iff_separated [] pieces, Piece.Rescans, scan_eq_ok_iff,
      String.toList_ofList]
    exact exists_congr fun segments => and_congr_right fun _ => eq_comm
  · intro left right joins found scanned
    apply lexemes_ne_of_runsOn _ _ scanned
    · simp
    · simpa using joins.runsOn []
  · intro whole point fraction float found scanned
    apply lexemes_ne_of_runsOn _ _ scanned
    · simp
    · simpa using float.runsOn []

/-- An integer, a point, a smaller-than sign and, behind a comment, an equality sign. -/
def Piece.comparison : List (Piece {} .pinky) := [
  { gap := []
    token := ⟨.integer, "1", 1⟩
    spaced := .inl rfl
    emitted := ⟨"1", [⟨.integer, "1", 1⟩], by decide +kernel, by simp⟩ },
  { gap := []
    token := ⟨.operator .dot, ".", 1⟩
    spaced := .inl rfl
    emitted := ⟨".", [⟨.operator .dot, ".", 1⟩], by decide +kernel, by simp⟩ },
  { gap := []
    token := ⟨.operator .less, "<", 1⟩
    spaced := .inl rfl
    emitted := ⟨"<", [⟨.operator .less, "<", 1⟩], by decide +kernel, by simp⟩ },
  { gap := [' ', '-', '-', '\n']
    token := ⟨.operator .equal, "==", 2⟩
    spaced := .inr (.space (by simp) (.comment List.not_mem_nil .nil))
    emitted := ⟨"\n==", [⟨.operator .equal, "==", 2⟩], by decide +kernel, by simp⟩ }]

theorem scan_written_iff_separated_comparison :
    scan {} .pinky "1.< --\n==" =
        .ok [
          ⟨.integer, "1", 1⟩,
          ⟨.operator .dot, ".", 1⟩,
          ⟨.operator .less, "<", 1⟩,
          ⟨.operator .equal, "==", 2⟩] ∧
      Piece.Separated Piece.comparison ∧
      (scan {} .pinky ("1" ++ "2") = .ok [⟨.integer, "12", 1⟩] ∧ ["12"] ≠ ["1", "2"]) ∧
      scan {} .pinky ("1" ++ "." ++ "2") = .ok [⟨.float, "1.2", 1⟩] ∧
        ["1.2"] ≠ ["1", ".", "2"] := by
  obtain ⟨roundTrip, pairs, triples⟩ := scan_written_iff_separated {} .pinky
  have text : String.ofList (Piece.written Piece.comparison) = "1.< --\n==" := by
    decide +kernel
  have scanned :
      scan {} .pinky "1.< --\n==" = .ok (Piece.placed [] Piece.comparison) := by
    decide +kernel
  have separated := (roundTrip Piece.comparison).mp (by rw [text, scanned])
  have scannedPair : scan {} .pinky ("1" ++ "2") = .ok [⟨.integer, "12", 1⟩] := by
    decide +kernel
  have scannedTriple : scan {} .pinky ("1" ++ "." ++ "2") = .ok [⟨.float, "1.2", 1⟩] := by
    decide +kernel
  have oneIsNumber : Token.IsNumber ⟨.integer, "1", 1⟩ := ⟨'1', [], rfl, rfl⟩
  have twoIsNumber : Token.IsNumber ⟨.integer, "2", 1⟩ := ⟨'2', [], rfl, rfl⟩
  have float : Token.MakeFloat ⟨.integer, "1", 1⟩ ⟨.operator .dot, ".", 1⟩ ⟨.integer, "2", 1⟩ :=
    ⟨⟨by simp, by simp⟩, rfl, twoIsNumber⟩
  refine ⟨scanned, separated, ⟨scannedPair, ?_⟩, scannedTriple, ?_⟩
  · exact pairs _ _ (.number oneIsNumber twoIsNumber) _ scannedPair
  · exact triples _ _ _ float _ scannedTriple

end PinkyLex
