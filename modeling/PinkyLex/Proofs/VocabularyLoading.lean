import PinkyLex.Proofs.JsonOutcome
import PinkyLex.Proofs.VocabularyEntries

namespace PinkyLex

/-!
# Loading vocabularies

A data file that maps spellings to kinds is loaded if and only if a scan can use the
entries that win.  This and the vocabulary that is loaded do not depend on the order
in which the entries are checked; only which useless entry is blamed does.
-/

open Json

namespace TokenKind

theorem ofCode?_code (kind : TokenKind) :
    ofCode? kind.code = some kind := by
  have each : ∀ kind ∈ all, ofCode? kind.code = some kind := by
    decide +kernel
  exact each kind (mem_all kind)

theorem takes_read
    {blanks text : List Char}
    {kind : TokenKind}
    (before : Blanks blanks)
    (form : StringForm text kind.code) :
    TokenKind.read.Takes (blanks ++ text) kind :=
  Reader.takes_name before form (ofCode?_code kind)

end TokenKind

namespace Vocabulary

/-- What stands behind a spelling in a data file: a colon and the code of a kind. -/
inductive KindForm : String → List Char → String × TokenKind → Prop where
  | code
      {before after text : List Char}
      {spelling : String}
      {kind : TokenKind} :
      Blanks before →
      Blanks after →
      StringForm text kind.code →
      KindForm spelling (before ++ ':' :: (after ++ text)) (spelling, kind)

variable {text : String} {pairs : List (String × TokenKind)}

theorem takes_readMember
    {spelling : String}
    {text : List Char}
    {pair : String × TokenKind}
    (form : KindForm spelling text pair)
    (members : List (String × TokenKind)) :
    (readMember members spelling).Takes text (pair :: members) := by
  cases form with
  | code before after named =>
      have taken := (TokenKind.takes_read after named).map fun kind => (spelling, kind) :: members
      exact fun place _ => Reader.takesBefore_colon_bind before taken.before place

/-- The members of an object are read in the order of the text. -/
theorem takes_readPairs
    {blanks text : List Char}
    (before : Blanks blanks)
    (form : ObjectForm KindForm text pairs) :
    readPairs.Takes (blanks ++ text) pairs := by
  obtain ⟨rest, rfl⟩ := form.exists_cons
  have read :
      (Reader.members readMember []).Takes rest
        (pairs.foldl (fun members pair => pair :: members) []) :=
    Reader.takes_members (fun members _ _ _ pairForm => takes_readMember pairForm members) form
  rw [List.foldl_flip_cons_eq_append', List.append_nil] at read
  refine Reader.takes_dispatch before rfl ?_
  rw [if_pos rfl]
  have reversed := read.map List.reverse
  rw [List.reverse_reverse] at reversed
  exact Reader.takes_skipOne_bind '{' reversed

theorem readAll_of_form
    (form : FileForm (ObjectForm KindForm) text.toList pairs) :
    readPairs.readAll text = .ok pairs := by
  generalize whole : text.toList = characters at form
  cases form with
  | value before object after =>
      rw [← List.append_assoc] at whole
      exact Reader.readAll_of_takes (takes_readPairs before object) after whole

/-- Whatever the order, the entries that are checked are the pairs that win. -/
theorem mem_arrange_iff
    (order : EntryOrder)
    {spelling : String}
    {kind : TokenKind} :
    (spelling, kind) ∈ order.arrange (ofPairs pairs) ↔ LastGiven pairs spelling kind := by
  rw [(order.perm _).mem_iff, ← find?_eq_some_iff, find?_ofPairs_eq_some_iff]

/-- The pairs that win are taken over if and only if a scan can use them. -/
theorem exists_takeOver_arrange_iff
    (order : EntryOrder) :
    (∃ vocabulary, empty.takeOver (order.arrange (ofPairs pairs)) = .ok vocabulary) ↔
      ∀ spelling kind,
        LastGiven pairs spelling kind →
        Text.isWord spelling.toList = true ∧ kind.isKeyword = true := by
  simp only [exists_takeOver_iff, defectOf?_eq_none_iff, Prod.forall, mem_arrange_iff]

/-- What is taken over is the vocabulary built from the pairs. -/
theorem agrees_of_takeOver_arrange
    {order : EntryOrder}
    {vocabulary : Vocabulary}
    (taken : empty.takeOver (order.arrange (ofPairs pairs)) = .ok vocabulary) :
    vocabulary.agrees (ofPairs pairs) = true ∧
      vocabulary.size = (pairs.map Prod.fst).dedup.length ∧
      ∀ spelling kind,
        vocabulary.find? spelling = some kind ↔ LastGiven pairs spelling kind := by
  have perm := perm_of_takeOver_empty order taken
  refine ⟨agrees_of_perm perm, size_ofPairs ▸ perm.length_eq, fun spelling kind => ?_⟩
  rw [find?_eq_some_iff, perm.mem_iff, ← find?_eq_some_iff, find?_ofPairs_eq_some_iff]

/-- A pair is only blamed if it wins and a scan cannot use it. -/
theorem lastGiven_of_takeOver_arrange
    {order : EntryOrder}
    {defect : Defect}
    (failed : empty.takeOver (order.arrange (ofPairs pairs)) = .error defect) :
    ∃ spelling kind,
      LastGiven pairs spelling kind ∧
        (Text.isWord spelling.toList = false ∧ defect = .notIdentifier spelling ∨
          Text.isWord spelling.toList = true ∧
            kind.isKeyword = false ∧
            defect = .notKeyword spelling kind) := by
  obtain ⟨⟨spelling, kind⟩, listed, blamed⟩ := exists_defectOf?_of_takeOver failed
  exact ⟨spelling, kind, (mem_arrange_iff order).mp listed, defectOf?_eq_some_iff.mp blamed⟩

/-- The order in which entries are checked decides at most which of them is blamed. -/
theorem ofJsonIn_order
    (order other : EntryOrder)
    (text : String) :
    match ofJsonIn order text, ofJsonIn other text with
    | .ok vocabulary, .ok same =>
        ∀ spelling, vocabulary.find? spelling = same.find? spelling
    | .error _, .error _ =>
        True
    | _, _ =>
        False := by
  cases read : readPairs.readAll text with
  | error failure =>
      simp only [ofJsonIn, read]
      trivial
  | ok pairs =>
      have accepted :
          (∃ vocabulary, empty.takeOver (order.arrange (ofPairs pairs)) = .ok vocabulary) ↔
            ∃ vocabulary, empty.takeOver (other.arrange (ofPairs pairs)) = .ok vocabulary :=
        (exists_takeOver_arrange_iff order).trans (exists_takeOver_arrange_iff other).symm
      rw [ofJsonIn_of_readAll order read, ofJsonIn_of_readAll other read]
      cases taken : empty.takeOver (order.arrange (ofPairs pairs)) with
      | error defect =>
          cases takenToo : empty.takeOver (other.arrange (ofPairs pairs)) with
          | error defectToo =>
              trivial
          | ok same =>
              simp [taken, takenToo] at accepted
      | ok vocabulary =>
          cases takenToo : empty.takeOver (other.arrange (ofPairs pairs)) with
          | error defectToo =>
              simp [taken, takenToo] at accepted
          | ok same =>
              intro spelling
              apply Option.ext
              intro kind
              rw [(agrees_of_takeOver_arrange taken).2.2, (agrees_of_takeOver_arrange takenToo).2.2]

/--
A data file that maps spellings to kinds is loaded if and only if a scan can use every
pair that wins, whatever the order in which they are checked.  The vocabulary is then
the one built from the pairs, and a failure blames a pair that wins.
-/
theorem ofJsonIn_of_form
    (form : FileForm (ObjectForm KindForm) text.toList pairs)
    (order : EntryOrder) :
    ((∃ vocabulary, ofJsonIn order text = .ok vocabulary) ↔
        ∀ spelling kind,
          LastGiven pairs spelling kind →
          Text.isWord spelling.toList = true ∧ kind.isKeyword = true) ∧
      (∀ vocabulary,
        ofJsonIn order text = .ok vocabulary →
        vocabulary.agrees (ofPairs pairs) = true ∧
          vocabulary.size = (pairs.map Prod.fst).dedup.length ∧
          ∀ spelling kind,
            vocabulary.find? spelling = some kind ↔ LastGiven pairs spelling kind) ∧
      ∀ error,
        ofJsonIn order text = .error error →
        ∃ spelling kind,
          LastGiven pairs spelling kind ∧
            (Text.isWord spelling.toList = false ∧
                error = .defective (.notIdentifier spelling) ∨
              Text.isWord spelling.toList = true ∧
                kind.isKeyword = false ∧
                error = .defective (.notKeyword spelling kind)) := by
  rw [ofJsonIn_of_readAll order (readAll_of_form form), ← exists_takeOver_arrange_iff order]
  cases taken : empty.takeOver (order.arrange (ofPairs pairs)) with
  | ok loaded =>
      refine ⟨by simp [Except.mapError], ?_, fun error same => nomatch same⟩
      rintro vocabulary ⟨⟩
      exact agrees_of_takeOver_arrange taken
  | error defect =>
      refine ⟨by simp [Except.mapError], fun vocabulary same => (nomatch same), ?_⟩
      rintro error ⟨⟩
      obtain ⟨spelling, kind, given, blamed⟩ := lastGiven_of_takeOver_arrange taken
      refine ⟨spelling, kind, given, blamed.imp ?_ ?_⟩
      · rintro ⟨notWord, rfl⟩
        exact ⟨notWord, rfl⟩
      · rintro ⟨word, notKeyword, rfl⟩
        exact ⟨word, notKeyword, rfl⟩

/-- Two pairs with one spelling, of which a scan can only use the one that wins. -/
def repeated : List (String × TokenKind) :=
  [("si", .operator .plus), ("si", .keyword .ifWord)]

/-- A data file with these pairs; the second time the spelling has an escaped letter. -/
def repeatedText : String :=
  "\x7b\"si\":\"PLUS\", \"\\u0073i\" : \"IF\"\x7d"

theorem form_repeatedText :
    FileForm (ObjectForm KindForm) repeatedText.toList repeated := by
  have noBlank : Blanks [] := by
    simp [Blanks]
  have oneBlank : Blanks [' '] := by
    simp [Blanks]
  have plus : StringForm ['"', 'P', 'L', 'U', 'S', '"'] (TokenKind.operator .plus).code :=
    stringForm_self "PLUS" (by simp)
  have word : StringForm ['"', 'I', 'F', '"'] (TokenKind.keyword .ifWord).code :=
    stringForm_self "IF" (by simp)
  have plain : StringForm ['"', 's', 'i', '"'] "si" :=
    stringForm_self "si" (by simp)
  have code : CodeUnit ['0', '0', '7', '3'] (0 * 4096 + 0 * 256 + 7 * 16 + 3) :=
    .digits (.inl rfl) (.inl rfl) (.inl rfl) (.inl rfl)
  have letter : CharForm ['\\', 'u', '0', '0', '7', '3'] 's' :=
    .unicode code
  have behind : CharsForm ['i'] ['i'] :=
    charsForm_self (by simp)
  have characters : CharsForm ['\\', 'u', '0', '0', '7', '3', 'i'] "si".toList :=
    .cons letter behind
  have escaped : StringForm ['"', '\\', 'u', '0', '0', '7', '3', 'i', '"'] "si" :=
    .quoted characters
  have first : KindForm "si" _ ("si", .operator .plus) :=
    .code noBlank noBlank plus
  have second : KindForm "si" _ ("si", .keyword .ifWord) :=
    .code oneBlank oneBlank word
  have object : ObjectForm KindForm _ repeated :=
    .members noBlank plain first (.next noBlank oneBlank escaped second (.close noBlank))
  exact FileForm.value noBlank object noBlank

/-- The pair that is overwritten does not keep the other one from being loaded. -/
theorem ofJsonIn_of_form_repeated :
    FileForm (ObjectForm KindForm) repeatedText.toList repeated ∧
      ∃ vocabulary,
        ofJsonIn .listed repeatedText = .ok vocabulary ∧
          vocabulary.size = 1 ∧
          vocabulary.find? "si" = some (.keyword .ifWord) := by
  refine ⟨form_repeatedText, ?_⟩
  obtain ⟨accepted, loaded, -⟩ := ofJsonIn_of_form form_repeatedText .listed
  have useful
      (spelling : String)
      (kind : TokenKind)
      (given : LastGiven repeated spelling kind) :
      Text.isWord spelling.toList = true ∧ kind.isKeyword = true := by
    rw [← find?_ofPairs_eq_some_iff, find?_eq_some_iff] at given
    cases List.mem_singleton.mp given
    exact ⟨by decide, rfl⟩
  obtain ⟨vocabulary, success⟩ := accepted.mpr useful
  obtain ⟨-, size, found⟩ := loaded vocabulary success
  refine ⟨vocabulary, success, size, (found _ _).mpr ?_⟩
  rw [← find?_ofPairs_eq_some_iff]
  rfl

end Vocabulary

end PinkyLex
