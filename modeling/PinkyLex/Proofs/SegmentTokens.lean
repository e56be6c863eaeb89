import Mathlib.Data.List.TakeWhile
import PinkyLex.Scan.Basic

namespace PinkyLex

/-!
# Tokens of segments

Which tokens some segments become is said by a relation that looks at the text
before each segment: line ends, blanks and comments become nothing, and every
other segment becomes the token of its kind, on the line that the line ends
before it lead to.  The tokens that a scan collects are these.
-/

namespace Text

/-- Byte lengths are those of the text in its UTF-8 form. -/
theorem utf8ByteSize_ofList (text : List Char) :
    (String.ofList text).utf8ByteSize = byteLength text := by
  induction text with
  | nil =>
      simp
  | cons character rest inductionHypothesis =>
      simp [String.ofList_cons, inductionHypothesis]

theorem byteLength_toList (source : String) :
    byteLength source.toList = source.utf8ByteSize := by
  rw [← utf8ByteSize_ofList, String.ofList_toList]

/-- The bytes of what stands before a place lead to a boundary between characters. -/
theorem isValid_byteLength
    {source : String}
    {before after : List Char}
    (split : source.toList = before ++ after) :
    String.Pos.Raw.IsValid source ⟨byteLength before⟩ := by
  rw [String.Pos.Raw.isValid_iff_exists_append]
  refine ⟨String.ofList before, String.ofList after, ?_, ?_⟩
  · rw [← String.ofList_append, ← split, String.ofList_toList]
  · rw [← utf8ByteSize_ofList]
    rfl

end Text

namespace Segment

/-- A segment that becomes no token. -/
def Silent (segment : Segment) : Prop :=
  segment.kind = .lineEnd ∨ segment.kind = .blank ∨ segment.kind = .comment

/-- The kind of the token that a segment becomes. -/
inductive Means (vocabulary : Vocabulary) : Segment → TokenKind → Prop where
  | operator (symbol : Operator) (text : List Char) :
      Means vocabulary ⟨.operator symbol, text⟩ (.operator symbol)
  | integer (text : List Char) :
      Means vocabulary ⟨.integer, text⟩ .integer
  | float (text : List Char) :
      Means vocabulary ⟨.float, text⟩ .float
  | string (text : List Char) :
      Means vocabulary ⟨.string, text⟩ .string
  | reserved {text : List Char} {kind : TokenKind} :
      vocabulary.find? (String.ofList text) = some kind →
      Means vocabulary ⟨.word, text⟩ kind
  | identifier {text : List Char} :
      vocabulary.find? (String.ofList text) = none →
      Means vocabulary ⟨.word, text⟩ .identifier

/-- The tokens that segments become when some text stands before them. -/
inductive Become (vocabulary : Vocabulary) : List Char → List Segment → List Token → Prop where
  | nil (before : List Char) :
      Become vocabulary before [] []
  | silent
      {before : List Char}
      {segment : Segment}
      {segments : List Segment}
      {tokens : List Token} :
      segment.Silent →
      Become vocabulary (before ++ segment.text) segments tokens →
      Become vocabulary before (segment :: segments) tokens
  | token
      {before : List Char}
      {segment : Segment}
      {kind : TokenKind}
      {segments : List Segment}
      {tokens : List Token} :
      segment.Means vocabulary kind →
      Become vocabulary (before ++ segment.text) segments tokens →
      Become vocabulary before (segment :: segments)
        (⟨kind, String.ofList segment.text, 1 + before.count '\n'⟩ :: tokens)

variable {vocabulary : Vocabulary} {segment : Segment} {kind : TokenKind}

theorem tokenKind?_eq_none_iff :
    segment.tokenKind? vocabulary = none ↔ segment.Silent := by
  obtain ⟨segmentKind, text⟩ := segment
  cases segmentKind <;> simp [tokenKind?, Silent]

theorem tokenKind?_eq_some_iff :
    segment.tokenKind? vocabulary = some kind ↔ segment.Means vocabulary kind := by
  constructor
  · intro found
    obtain ⟨segmentKind, text⟩ := segment
    cases segmentKind with
    | lineEnd | blank | comment =>
        cases found
    | operator symbol =>
        cases found
        exact .operator symbol text
    | integer =>
        cases found
        exact .integer text
    | float =>
        cases found
        exact .float text
    | string =>
        cases found
        exact .string text
    | word =>
        cases listed : vocabulary.find? (String.ofList text) with
        | none =>
            simp only [tokenKind?, listed, Option.getD_none, Option.some.injEq] at found
            exact found ▸ .identifier listed
        | some reserved =>
            simp only [tokenKind?, listed, Option.getD_some, Option.some.injEq] at found
            exact .reserved (found ▸ listed)
  · intro means
    cases means with
    | reserved listed =>
        simp [tokenKind?, listed]
    | identifier unlisted =>
        simp [tokenKind?, unlisted]
    | operator | integer | float | string =>
        rfl

/-- Segments become just the tokens that a scan collects from them. -/
theorem become_iff
    {before : List Char}
    {segments : List Segment}
    {tokens : List Token} :
    Become vocabulary before segments tokens ↔
      tokens = tokensFrom vocabulary (1 + before.count '\n') segments := by
  constructor
  · intro become
    induction become with
    | nil before =>
        rfl
    | @silent before segment segments tokens silent later inductionHypothesis =>
        have found : segment.tokenKind? vocabulary = none :=
          tokenKind?_eq_none_iff.mpr silent
        simp [tokensFrom, token?, found, inductionHypothesis, lineEnds, Nat.add_assoc]
    | @token before segment kind segments tokens means later inductionHypothesis =>
        have found := tokenKind?_eq_some_iff.mpr means
        simp [tokensFrom, token?, found, inductionHypothesis, lineEnds, Nat.add_assoc]
  · rintro rfl
    induction segments generalizing before with
    | nil =>
        exact .nil before
    | cons segment segments inductionHypothesis =>
        have later := @inductionHypothesis (before ++ segment.text)
        rw [List.count_append, ← Nat.add_assoc] at later
        cases found : segment.tokenKind? vocabulary with
        | none =>
            simpa [tokensFrom, token?, found, lineEnds] using
              Become.silent (tokenKind?_eq_none_iff.mp found) later
        | some kind =>
            simpa [tokensFrom, token?, found, lineEnds] using
              Become.token (tokenKind?_eq_some_iff.mp found) later

end Segment

end PinkyLex
