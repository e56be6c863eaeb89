import Mathlib.Data.List.Forall2
import PinkyLex.Proofs.TokenForm

namespace PinkyLex

/-!
# Scans under several vocabularies

A vocabulary is asked only what kind a whole word has, and its answer changes
nothing else.  So a scan is the scan without reserved words, in which each
identifier is then labelled as the vocabulary says.
-/

namespace Token

/-- A token with the kind that a vocabulary has for it, if it is an identifier. -/
def relabel (vocabulary : Vocabulary) (token : Token) : Token :=
  if token.kind = .identifier then
    { token with kind := (vocabulary.find? token.lexeme).getD .identifier }
  else
    token

/-- Two tokens with one lexeme on one line, and of one kind too unless they are words. -/
structure AgreeButForWords (first second : Token) : Prop where
  lexeme : first.lexeme = second.lexeme
  line : first.line = second.line
  kind : Text.isWord first.lexeme.toList = false → first.kind = second.kind

/-- Two vocabularies make a difference to an identifier only if it is a word. -/
theorem relabel_agree
    (first second : Vocabulary)
    {token : Token}
    (word : token.kind = .identifier → Text.isWord token.lexeme.toList = true) :
    AgreeButForWords (token.relabel first) (token.relabel second) := by
  unfold relabel
  by_cases identifier : token.kind = .identifier
  · rw [if_pos identifier, if_pos identifier]
    exact ⟨rfl, rfl, fun notWord => absurd (word identifier) (by simp [notWord])⟩
  · rw [if_neg identifier, if_neg identifier]
    exact ⟨rfl, rfl, fun _ => rfl⟩

end Token

namespace Segment

/-- Without reserved words, a segment becomes an identifier only if it is a word. -/
theorem kind_of_tokenKind?_empty
    {segment : Segment}
    (identifier : segment.tokenKind? .empty = some .identifier) :
    segment.kind = .word := by
  obtain ⟨kind, text⟩ := segment
  cases tokenKind?_eq_some_iff.mp identifier <;> rfl

theorem Form.isWord
    {settings : Settings}
    {text : List Char}
    (form : Form settings .word text) :
    Text.isWord text = true ∧ settings.dialect = .pinky := by
  cases form with
  | word literals starts continues =>
      exact ⟨by simp [Text.isWord, starts, List.all_eq_true.mpr continues], literals⟩

variable (vocabulary : Vocabulary) (line : Nat)

/-- The vocabulary changes nothing in a token but the label of an identifier. -/
theorem token?_eq_map_relabel (segment : Segment) :
    segment.token? vocabulary line =
      (segment.token? .empty line).map (Token.relabel vocabulary) := by
  obtain ⟨kind, text⟩ := segment
  cases kind <;> rfl

theorem tokensFrom_eq_map_relabel (segments : List Segment) :
    tokensFrom vocabulary line segments =
      (tokensFrom .empty line segments).map (Token.relabel vocabulary) := by
  induction segments generalizing line with
  | nil =>
      rfl
  | cons segment segments inductionHypothesis =>
      have head :
          (segment.token? vocabulary line).toList =
            (segment.token? .empty line).toList.map (Token.relabel vocabulary) := by
        rw [token?_eq_map_relabel]
        cases segment.token? .empty line <;> rfl
      rw [tokensFrom, tokensFrom, List.map_append, head, inductionHypothesis]

end Segment

section Vocabularies

variable (settings : Settings) (vocabulary : Vocabulary) (source : String)

/-- A scan is the scan without reserved words, in which identifiers are relabelled. -/
theorem scan_eq_map_relabel :
    scan settings vocabulary source =
      (scan settings .empty source).map (List.map (Token.relabel vocabulary)) := by
  rw [scan_eq, scan_eq]
  obtain ⟨segments, remainder⟩ := Tiling.cut settings source.toList
  cases remainder with
  | nil =>
      rw [Scan.result_ofTiling_nil, Scan.result_ofTiling_nil,
        Segment.tokensFrom_eq_map_relabel]
      rfl
  | cons first rest =>
      rw [Scan.result_ofTiling_cons, Scan.result_ofTiling_cons]
      rfl

/-- A scan only depends on what its vocabulary has for each word. -/
theorem Scan.ofSource_of_find?
    {other : Vocabulary}
    (same : ∀ word, vocabulary.find? word = other.find? word) :
    Scan.ofSource settings vocabulary source = Scan.ofSource settings other source := by
  have step : ScanProgress.step vocabulary = ScanProgress.step other := by
    funext progress segment
    simp only [ScanProgress.step, Segment.token?, Segment.tokenKind?, same]
  simp only [Scan.ofSource, Scan.ofTiling, ScanProgress.past, step]

variable {settings source}

/-- Without reserved words, all identifiers are words of a dialect that has them. -/
theorem isWord_of_identifier
    {token : Token}
    (emitted : token.Emitted settings .empty)
    (identifier : token.kind = .identifier) :
    Text.isWord token.lexeme.toList = true ∧ settings.dialect = .pinky := by
  obtain ⟨kind, form, means⟩ := emitted.exists_form
  rw [identifier] at means
  obtain rfl : kind = .word := Segment.kind_of_tokenKind?_empty means
  exact form.isWord

/-- A dialect without words has no use for a vocabulary. -/
theorem scan_eq_of_hash
    (noWords : settings.dialect = .hash) :
    scan settings vocabulary source = scan settings .empty source := by
  rw [scan_eq_map_relabel]
  cases scanned : scan settings .empty source with
  | error fault =>
      rfl
  | ok tokens =>
      have same : ∀ token ∈ tokens, token.relabel vocabulary = id token := by
        intro token member
        unfold Token.relabel
        split
        case isTrue identifier =>
          have words := (isWord_of_identifier ⟨_, _, scanned, member⟩ identifier).2
          cases noWords.symm.trans words
        case isFalse =>
          rfl
      have unchanged := List.map_congr_left same
      rw [List.map_id] at unchanged
      exact congrArg Except.ok unchanged

end Vocabularies

/--
Only the kinds of words depend on the vocabulary.  A scan is the scan without
reserved words, in which identifiers are relabelled; so two vocabularies give the
same fault, or tokens that agree but for the kinds of words, and no difference at
all where there are no words.
-/
theorem scan_vocabulary_factors
    (settings : Settings)
    (vocabulary : Vocabulary)
    (source : String) :
    scan settings vocabulary source =
        (scan settings .empty source).map (List.map (Token.relabel vocabulary)) ∧
      (∀ other,
        match scan settings vocabulary source, scan settings other source with
        | .ok tokens, .ok others =>
            List.Forall₂ Token.AgreeButForWords tokens others
        | .error fault, .error otherFault =>
            fault = otherFault
        | _, _ =>
            False) ∧
      (settings.dialect = .hash →
        ∀ other, scan settings vocabulary source = scan settings other source) := by
  refine ⟨scan_eq_map_relabel settings vocabulary source, ?_, ?_⟩
  · intro other
    rw [scan_eq_map_relabel settings vocabulary, scan_eq_map_relabel settings other]
    cases scanned : scan settings .empty source with
    | error fault =>
        rfl
    | ok tokens =>
        simp only [Except.map, List.forall₂_map_left_iff, List.forall₂_map_right_iff,
          List.forall₂_same]
        intro token member
        apply Token.relabel_agree
        exact fun identifier => (isWord_of_identifier ⟨_, _, scanned, member⟩ identifier).1
  · intro noWords other
    rw [scan_eq_of_hash vocabulary noWords, scan_eq_of_hash other noWords]

/-- A vocabulary of odd spellings and kinds labels one word, and nothing where there are none. -/
theorem scan_vocabulary_factors_odd_entries :
    scan {} (.ofPairs [("a", .string), ("1", .identifier), ("-", .float)]) "a-1 'a' b" =
        .ok [⟨.string, "a", 1⟩, ⟨.operator .minus, "-", 1⟩, ⟨.integer, "1", 1⟩,
          ⟨.string, "'a'", 1⟩, ⟨.identifier, "b", 1⟩] ∧
      scan { dialect := .hash } (.ofPairs [("-", .float)]) "-" =
        scan { dialect := .hash } .pinky "-" := by
  constructor
  · rw [(scan_vocabulary_factors {} (.ofPairs _) _).1]
    decide +kernel
  · exact (scan_vocabulary_factors { dialect := .hash } _ _).2.2 rfl .pinky

end PinkyLex
