import Mathlib.Tactic.TFAE
import PinkyLex.Proofs.SegmentEnd
import PinkyLex.Proofs.TilingAppend
import PinkyLex.Proofs.VocabularyChange
import PinkyLex.Proofs.VocabularyEntries

namespace PinkyLex

/-!
# Reserved words

What a vocabulary may reserve is said by `Text.isWord`, which looks at a spelling
alone, and a scan cuts words out of a source.  The two agree on every text.  So a
scan can use every entry of a valid vocabulary, and the keywords of a scan are the
words that the vocabulary has.
-/

namespace Segment

variable {settings : Settings} {text : List Char}

/-- Every word has the form of a segment where there are words. -/
theorem Form.of_isWord
    (literals : settings.dialect = .pinky)
    (word : Text.isWord text = true) :
    Form settings .word text := by
  cases text with
  | nil =>
      cases word
  | cons first rest =>
      simp only [Text.isWord, Bool.and_eq_true, List.all_eq_true] at word
      exact .word literals word.1 word.2

/-- Nothing but a word has the text of a word and becomes a token. -/
theorem Form.kind_of_isWord
    {kind : SegmentKind}
    (form : Form settings kind text)
    (loud : ¬ Silent ⟨kind, text⟩)
    (word : Text.isWord text = true) :
    kind = .word := by
  cases text with
  | nil =>
      cases word
  | cons first rest =>
      simp only [Text.isWord, Bool.and_eq_true] at word
      exact form.kind_of_startsWord loud word.1

/-- The kind that a vocabulary gives to a word, reserved or not. -/
theorem tokenKind?_word
    (vocabulary : Vocabulary)
    (text : List Char) :
    tokenKind? vocabulary ⟨.word, text⟩ =
      some ((vocabulary.find? (String.ofList text)).getD .identifier) :=
  rfl

/-- Only words become keywords. -/
theorem kind_of_isKeyword
    {vocabulary : Vocabulary}
    {segment : Segment}
    {kind : TokenKind}
    (means : segment.tokenKind? vocabulary = some kind)
    (keyword : kind.isKeyword = true) :
    segment.kind = .word := by
  cases tokenKind?_eq_some_iff.mp means with
  | reserved | identifier =>
      rfl
  | operator | integer | float | string =>
      cases keyword

end Segment

/-- A word on its own is scanned as one token, with the kind that the vocabulary gives it. -/
theorem scan_of_isWord
    {settings : Settings}
    {word : String}
    (literals : settings.dialect = .pinky)
    (isWord : Text.isWord word.toList = true)
    (vocabulary : Vocabulary) :
    scan settings vocabulary word =
      .ok [⟨(vocabulary.find? word).getD .identifier, word, 1⟩] := by
  have form : Segment.Form settings .word word.toList := .of_isWord literals isWord
  refine scan_eq_ok_iff.mpr ⟨_, Tiling.cut_of_form form, ?_⟩
  simp [Segment.tokensFrom, Segment.token?, Segment.tokenKind?_word]

namespace Token.Emitted

variable {settings : Settings} {vocabulary : Vocabulary} {token : Token}

/-- A token with the text of a word has the kind that the vocabulary gives to the word. -/
theorem kind_of_isWord
    (emitted : token.Emitted settings vocabulary)
    (word : Text.isWord token.lexeme.toList = true) :
    settings.dialect = .pinky ∧
      token.kind = (vocabulary.find? token.lexeme).getD .identifier := by
  obtain ⟨kind, form, means⟩ := emitted.exists_form
  have loud : ¬ Segment.Silent ⟨kind, token.lexeme.toList⟩ := by
    intro silent
    cases means.symm.trans (Segment.tokenKind?_eq_none_iff.mpr silent)
  obtain rfl : kind = .word := form.kind_of_isWord loud word
  rw [Segment.tokenKind?_word, String.ofList_toList, Option.some.injEq] at means
  exact ⟨form.isWord.2, means.symm⟩

/-- A keyword is a word in a dialect that has words. -/
theorem isWord_of_isKeyword
    (emitted : token.Emitted settings vocabulary)
    (keyword : token.kind.isKeyword = true) :
    Text.isWord token.lexeme.toList = true := by
  obtain ⟨kind, form, means⟩ := emitted.exists_form
  obtain rfl : kind = .word := Segment.kind_of_isKeyword means keyword
  exact form.isWord.1

/-- A keyword is what the vocabulary says its lexeme is. -/
theorem find?_of_isKeyword
    (emitted : token.Emitted settings vocabulary)
    (keyword : token.kind.isKeyword = true) :
    vocabulary.find? token.lexeme = some token.kind := by
  obtain ⟨-, sameKind⟩ := emitted.kind_of_isWord (emitted.isWord_of_isKeyword keyword)
  cases found : vocabulary.find? token.lexeme with
  | none =>
      rw [found, Option.getD_none] at sameKind
      simp [sameKind, TokenKind.isKeyword] at keyword
  | some kind =>
      rw [sameKind, found, Option.getD_some]

/-- Under a valid vocabulary, keywords are the words that it has. -/
theorem isKeyword_iff
    (emitted : token.Emitted settings vocabulary)
    (valid : vocabulary.valid = true) :
    token.kind.isKeyword = true ↔
      settings.dialect = .pinky ∧ (vocabulary.find? token.lexeme).isSome = true := by
  constructor
  · intro keyword
    obtain ⟨literals, -⟩ := emitted.kind_of_isWord (emitted.isWord_of_isKeyword keyword)
    exact ⟨literals, Option.isSome_iff_exists.mpr ⟨_, emitted.find?_of_isKeyword keyword⟩⟩
  · rintro ⟨-, listed⟩
    obtain ⟨kind, found⟩ := Option.isSome_iff_exists.mp listed
    obtain ⟨isWord, keyword⟩ := Vocabulary.valid_iff.mp valid _ _ found
    obtain ⟨-, sameKind⟩ := emitted.kind_of_isWord isWord
    rw [sameKind, found, Option.getD_some]
    exact keyword

end Token.Emitted

/-- The vocabularies that the program works with: its own, and those of data files. -/
def Vocabulary.Accepted (vocabulary : Vocabulary) : Prop :=
  vocabulary = .pinky ∨ ∃ order text, Vocabulary.ofJsonIn order text = .ok vocabulary

theorem Vocabulary.Accepted.valid
    {vocabulary : Vocabulary}
    (accepted : vocabulary.Accepted) :
    vocabulary.valid = true := by
  rcases accepted with rfl | ⟨order, text, loaded⟩
  · decide +kernel
  · exact Vocabulary.valid_of_ofJsonIn loaded

/-- To be a word, to be scanned as an identifier, and to come up as one somewhere are the same. -/
theorem isWord_tfae (word : String) :
    List.TFAE [
      Text.isWord word.toList = true,
      ∀ multiline, scan ⟨.pinky, multiline⟩ .empty word = .ok [⟨.identifier, word, 1⟩],
      ∃ multiline, scan ⟨.pinky, multiline⟩ .empty word = .ok [⟨.identifier, word, 1⟩],
      ∃ multiline source tokens line,
        scan ⟨.pinky, multiline⟩ .empty source = .ok tokens ∧
          ⟨.identifier, word, line⟩ ∈ tokens] := by
  tfae_have 1 → 2 := by
    intro isWord multiline
    exact scan_of_isWord rfl isWord .empty
  tfae_have 2 → 3 := by
    intro alone
    exact ⟨true, alone true⟩
  tfae_have 3 → 4 := by
    rintro ⟨multiline, alone⟩
    exact ⟨multiline, word, _, 1, alone, List.mem_cons_self⟩
  tfae_have 4 → 1 := by
    rintro ⟨multiline, source, tokens, line, scanned, member⟩
    exact (isWord_of_identifier ⟨source, tokens, scanned, member⟩ rfl).1
  tfae_finish

/--
The spellings that a vocabulary may have are just those that a scan takes for words.
So each entry of an accepted vocabulary turns its spelling into a keyword, and a
token of a scan under it is a keyword just where the vocabulary has its lexeme, with
the kind that it has there.
-/
theorem accepted_entries_reserved :
    (∀ word : String,
      List.TFAE [
        Text.isWord word.toList = true,
        ∀ multiline, scan ⟨.pinky, multiline⟩ .empty word = .ok [⟨.identifier, word, 1⟩],
        ∃ multiline, scan ⟨.pinky, multiline⟩ .empty word = .ok [⟨.identifier, word, 1⟩],
        ∃ multiline source tokens line,
          scan ⟨.pinky, multiline⟩ .empty source = .ok tokens ∧
            ⟨.identifier, word, line⟩ ∈ tokens]) ∧
    ∀ vocabulary : Vocabulary,
      vocabulary.Accepted →
      (∀ word kind,
        (word, kind) ∈ vocabulary.entries →
        ∀ multiline, scan ⟨.pinky, multiline⟩ vocabulary word = .ok [⟨kind, word, 1⟩]) ∧
      ∀ settings source tokens,
        scan settings vocabulary source = .ok tokens →
        ∀ token ∈ tokens,
          (token.kind.isKeyword = true ↔
            settings.dialect = .pinky ∧ (vocabulary.find? token.lexeme).isSome = true) ∧
          (token.kind.isKeyword = true →
            vocabulary.find? token.lexeme = some token.kind) := by
  refine ⟨isWord_tfae, ?_⟩
  intro vocabulary accepted
  have valid := accepted.valid
  refine ⟨?_, ?_⟩
  · intro word kind member multiline
    have found := Vocabulary.find?_eq_some_iff.mpr member
    have isWord := (Vocabulary.valid_iff.mp valid word kind found).1
    rw [scan_of_isWord rfl isWord vocabulary, found, Option.getD_some]
  · intro settings source tokens scanned token member
    have emitted : token.Emitted settings vocabulary := ⟨source, tokens, scanned, member⟩
    exact ⟨emitted.isKeyword_iff valid, emitted.find?_of_isKeyword⟩

/-- Two keywords under other spellings, one of them with a letter that is not ASCII. -/
def Vocabulary.respelled : Vocabulary :=
  .ofPairs [("si", .keyword .ifWord), ("fin_é", .keyword .endWord)]

theorem accepted_entries_reserved_respelled :
    Vocabulary.ofJson "\x7b\"si\": \"IF\", \"fin_é\": \"END\"\x7d" = .ok .respelled ∧
      ("fin_é", .keyword .endWord) ∈ Vocabulary.respelled.entries ∧
      scan ⟨.pinky, false⟩ .respelled "fin_é" = .ok [⟨.keyword .endWord, "fin_é", 1⟩] ∧
      scan {} .respelled "si\nif" = .ok [⟨.keyword .ifWord, "si", 1⟩, ⟨.identifier, "if", 2⟩] ∧
      (TokenKind.isKeyword (.keyword .ifWord) = true →
        Vocabulary.respelled.find? "si" = some (.keyword .ifWord)) ∧
      (TokenKind.isKeyword .identifier = true ↔
        Dialect.pinky = .pinky ∧ (Vocabulary.respelled.find? "if").isSome = true) := by
  have loaded :
      Vocabulary.ofJson "\x7b\"si\": \"IF\", \"fin_é\": \"END\"\x7d" = .ok .respelled := by
    decide +kernel
  have listed : ("fin_é", .keyword .endWord) ∈ Vocabulary.respelled.entries := by
    decide +kernel
  have scanned :
      scan {} .respelled "si\nif" = .ok [⟨.keyword .ifWord, "si", 1⟩, ⟨.identifier, "if", 2⟩] := by
    decide +kernel
  obtain ⟨alone, tokens⟩ := accepted_entries_reserved.2 .respelled (.inr ⟨.listed, _, loaded⟩)
  refine ⟨loaded, listed, alone _ _ listed false, scanned, ?_, ?_⟩
  · exact (tokens _ _ _ scanned ⟨.keyword .ifWord, "si", 1⟩ (by simp)).2
  · exact (tokens _ _ _ scanned ⟨.identifier, "if", 2⟩ (by simp)).1

end PinkyLex
