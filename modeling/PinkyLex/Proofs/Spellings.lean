import PinkyLex.Proofs.VocabularyEntries
import PinkyLex.Proofs.WrittenTokens

namespace PinkyLex

/-!
# Spellings

All kinds of tokens but four have one spelling each, which a listing of kinds shows,
the cutting of operators goes by, and the vocabulary of the language has.  The three
agree: spellings with spaces between them scan back to their kinds, and a token of a
scan is spelled as its kind is.
-/

namespace TokenKind

/-- The kinds whose tokens are spelled in many ways. -/
def manySpellings : List TokenKind :=
  [.integer, .float, .string, .identifier]

/-- The token of a kind that is spelled as the kind is. -/
def spelled (kind : TokenKind) : Token where
  kind := kind
  lexeme := kind.spelling
  line := 1

/-- A spelling on its own is scanned as one token of its kind. -/
theorem scan_spelling
    {kind : TokenKind}
    (fixed : kind ∉ manySpellings) :
    scan {} .pinky kind.spelling = .ok [kind.spelled] := by
  have each : ∀ kind ∈ all, kind ∉ manySpellings →
      scan {} .pinky kind.spelling = .ok [kind.spelled] := by
    decide +kernel
  exact each kind (mem_all kind) fixed

theorem lineEnd_not_mem_spelling (kind : TokenKind) :
    '\n' ∉ kind.spelling.toList := by
  have each : ∀ kind ∈ all, '\n' ∉ kind.spelling.toList := by
    decide +kernel
  exact each kind (mem_all kind)

end TokenKind

/-- The words that the language reserves are the spellings of the kinds they stand for. -/
theorem Vocabulary.eq_spelling_of_find?_pinky
    {word : String}
    {kind : TokenKind}
    (found : Vocabulary.pinky.find? word = some kind) :
    word = kind.spelling := by
  have each : ∀ entry ∈ Vocabulary.pinky.entries, entry.1 = entry.2.spelling := by
    decide +kernel
  exact each (word, kind) (Vocabulary.find?_eq_some_iff.mp found)

namespace Segment

/-- A segment that becomes a token of a kind with one spelling has this spelling. -/
theorem Form.text_eq_spelling
    {settings : Settings}
    {segmentKind : SegmentKind}
    {text : List Char}
    {kind : TokenKind}
    (form : Form settings segmentKind text)
    (means : tokenKind? .pinky ⟨segmentKind, text⟩ = some kind)
    (fixed : kind ∉ TokenKind.manySpellings) :
    text = kind.spelling.toList := by
  cases tokenKind?_eq_some_iff.mp means with
  | operator symbol =>
      cases form
      rfl
  | integer | float | string | identifier =>
      exact absurd fixed (by decide)
  | reserved listed =>
      rw [← Vocabulary.eq_spelling_of_find?_pinky listed, String.toList_ofList]

end Segment

namespace TokenKind

variable {kind : TokenKind} {kinds : List TokenKind}

/-- The characters of some spellings with a space between each two. -/
def spaced (kinds : List TokenKind) : List Char :=
  [' '].intercalate (kinds.map fun kind => kind.spelling.toList)

/-- A spelling in front of a space or of nothing is cut off and becomes a token of its kind. -/
theorem exists_cut_spelling
    (fixed : kind ∉ manySpellings)
    {tail : List Char}
    (apart : tail = [] ∨ ∃ later, tail = ' ' :: later) :
    ∃ segment : Segment,
      Tiling.cut {} (kind.spelling.toList ++ tail) = (Tiling.cut {} tail).cons segment ∧
        segment.lineEnds = 0 ∧
        segment.token? .pinky 1 = some kind.spelled := by
  have emitted : Token.Emitted {} .pinky kind.spelled :=
    ⟨_, _, scan_spelling fixed, List.mem_singleton_self _⟩
  obtain ⟨segmentKind, form, loud, becomes⟩ := emitted.exists_loud
  have quiet : ¬ Segment.RunsOn .pinky kind.spelling.toList tail := by
    rcases apart with rfl | ⟨later, rfl⟩
    · exact Segment.not_runsOn_nil _ _
    · exact Segment.not_runsOn_space (by decide)
  refine ⟨_, Tiling.cut_append_of_longest (form.longest_of_not_runsOn loud quiet), ?_, becomes 1⟩
  exact List.count_eq_zero.mpr (lineEnd_not_mem_spelling kind)

/-- Spellings with spaces between them are cut up whole, and become tokens of their kinds. -/
theorem exists_cut_spaced
    (fixed : ∀ kind ∈ kinds, kind ∉ manySpellings) :
    ∃ segments,
      Tiling.cut {} (spaced kinds) = ⟨segments, []⟩ ∧
        Segment.tokensFrom .pinky 1 segments = kinds.map spelled := by
  induction kinds with
  | nil =>
      exact ⟨[], Tiling.cut_nil {}, rfl⟩
  | cons kind kinds inductionHypothesis =>
      obtain ⟨fixedHere, fixedLater⟩ := List.forall_mem_cons.mp fixed
      obtain ⟨segments, cutLater, later⟩ := inductionHypothesis fixedLater
      cases kinds with
      | nil =>
          obtain ⟨segment, cutHere, sameLine, here⟩ :=
            exists_cut_spelling fixedHere (.inl rfl)
          refine ⟨[segment], ?_, ?_⟩
          · simpa [spaced, Tiling.cons] using cutHere
          · rw [Segment.tokensFrom, here]
            rfl
      | cons next kinds =>
          obtain ⟨segment, cutHere, sameLine, here⟩ :=
            exists_cut_spelling fixedHere (.inr ⟨spaced (next :: kinds), rfl⟩)
          have reached : Segment.reach? {} ' ' (spaced (next :: kinds)) = some (.blank, 0) :=
            rfl
          have cutSpace := Tiling.cut_cons_of_some reached
          refine ⟨segment :: ⟨.blank, [' ']⟩ :: segments, ?_, ?_⟩
          · have text :
                spaced (kind :: next :: kinds) =
                  kind.spelling.toList ++ ' ' :: spaced (next :: kinds) := by
              simp [spaced, List.intercalate_cons_cons]
            rw [text, cutHere, cutSpace, List.drop_zero, cutLater]
            rfl
          · rw [Segment.tokensFrom, here, sameLine]
            exact congrArg (kind.spelled :: ·) later

end TokenKind

/--
Kinds, spellings and the vocabulary of the language agree.  Spellings with single
spaces between them scan back to their kinds, and every token of a scan, in whatever
dialect, has the spelling of its kind, unless its kind has many.
-/
theorem spellings_scan_back :
    (∀ kinds : List TokenKind,
      (∀ kind ∈ kinds, kind ∉ TokenKind.manySpellings) →
      scan {} .pinky (" ".intercalate (kinds.map TokenKind.spelling)) =
        .ok (kinds.map fun kind => ⟨kind, kind.spelling, 1⟩)) ∧
    ∀ settings source tokens,
      scan settings .pinky source = .ok tokens →
      ∀ token ∈ tokens,
        token.kind ∉ TokenKind.manySpellings →
        token.lexeme = token.kind.spelling := by
  constructor
  · intro kinds fixed
    obtain ⟨segments, cut, found⟩ := TokenKind.exists_cut_spaced fixed
    refine scan_eq_ok_iff.mpr ⟨segments, ?_, found.symm⟩
    rw [String.toList_intercalate, List.map_map]
    exact cut
  · intro settings source tokens scanned token member fixed
    have emitted : token.Emitted settings .pinky := ⟨source, tokens, scanned, member⟩
    obtain ⟨kind, form, means⟩ := emitted.exists_form
    exact String.toList_inj.mp (form.text_eq_spelling means fixed)

/-- Operators that would run into each other are kept apart by the spaces. -/
theorem spellings_scan_back_minuses :
    scan {} .pinky "- - < == println" =
        .ok [⟨.operator .minus, "-", 1⟩, ⟨.operator .minus, "-", 1⟩, ⟨.operator .less, "<", 1⟩,
          ⟨.operator .equal, "==", 1⟩, ⟨.keyword .printlnWord, "println", 1⟩] ∧
      scan { multilineStrings := false } .pinky "ret~='if'--if" =
        .ok [⟨.keyword .retWord, "ret", 1⟩, ⟨.operator .notEqual, "~=", 1⟩,
          ⟨.string, "'if'", 1⟩] ∧
      "~=" = (TokenKind.operator .notEqual).spelling := by
  obtain ⟨scanBack, spelled⟩ := spellings_scan_back
  have scanned :
      scan { multilineStrings := false } .pinky "ret~='if'--if" =
        .ok [⟨.keyword .retWord, "ret", 1⟩, ⟨.operator .notEqual, "~=", 1⟩,
          ⟨.string, "'if'", 1⟩] := by
    decide +kernel
  refine ⟨?_, scanned, spelled _ _ _ scanned ⟨.operator .notEqual, "~=", 1⟩ (by simp) (by decide)⟩
  exact scanBack
    [.operator .minus, .operator .minus, .operator .less, .operator .equal, .keyword .printlnWord]
    (by decide)

end PinkyLex
