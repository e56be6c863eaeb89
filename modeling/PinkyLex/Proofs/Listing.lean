import Mathlib.Data.List.Nodup
import PinkyLex.Command.Run
import PinkyLex.Proofs.SegmentEnd
import PinkyLex.Proofs.TokenForm

namespace PinkyLex

/-!
# Listings taken apart

A listing escapes nothing, and the lexeme of a string may hold quotes, line ends
and whole lines of a listing.  Still the listing of scanned tokens can be taken
apart in one way only: a name ends at the first space, the first character of a
lexeme says which quote comes behind it, and a number ends with its line.
-/

/-- A text ends at the first mark behind it, if it does not have the mark in it. -/
theorem append_mark_inj
    {Letter : Type}
    {mark : Letter}
    {text other tail otherTail : List Letter}
    (notIn : mark ∉ text)
    (notInOther : mark ∉ other)
    (same : text ++ mark :: tail = other ++ mark :: otherTail) :
    text = other ∧ tail = otherTail := by
  induction text generalizing other with
  | nil =>
      cases other with
      | nil =>
          exact ⟨rfl, (List.cons.inj same).2⟩
      | cons letter other =>
          obtain ⟨rfl, -⟩ := List.cons.inj same
          exact absurd List.mem_cons_self notInOther
  | cons letter text inductionHypothesis =>
      cases other with
      | nil =>
          obtain ⟨rfl, -⟩ := List.cons.inj same
          exact absurd List.mem_cons_self notIn
      | cons otherLetter other =>
          obtain ⟨rfl, later⟩ := List.cons.inj same
          obtain ⟨rfl, sameTail⟩ := inductionHypothesis
            (List.not_mem_of_not_mem_cons notIn) (List.not_mem_of_not_mem_cons notInOther) later
          exact ⟨rfl, sameTail⟩

namespace TokenKind

/-- No two kinds have one name. -/
theorem name_injective :
    Function.Injective name := by
  have distinct : (all.map name).Nodup := by
    decide +kernel
  intro kind other same
  exact List.inj_on_of_nodup_map distinct (mem_all kind) (mem_all other) same

/-- The name of a kind is one word. -/
theorem space_not_mem_name (kind : TokenKind) :
    ' ' ∉ kind.name.toList := by
  have noSpace : ∀ kind ∈ all, ' ' ∉ kind.name.toList := by
    decide +kernel
  exact noSpace kind (mem_all kind)

end TokenKind

namespace Segment

/-- A text whose first character tells where it ends when a single quote stands behind it. -/
inductive Closed : List Char → Prop where
  | quoted {quote : Char} {body : List Char} :
      quote ∈ ['"', '\''] →
      quote ∉ body →
      Closed (quote :: (body ++ [quote]))
  | bare {first : Char} {rest : List Char} :
      (∀ character ∈ first :: rest, isQuote character = false) →
      Closed (first :: rest)

theorem isQuote_of_isDigit
    {character : Char}
    (digit : character.isDigit = true) :
    isQuote character = false := by
  rw [Bool.eq_false_iff]
  intro quote
  simp [isDigit_of_isQuote quote] at digit

/-- No word goes on with a quote. -/
theorem isQuote_of_continuesWord
    {character : Char}
    (continues : Text.continuesWord character = true) :
    isQuote character = false := by
  rw [Bool.eq_false_iff]
  intro quote
  simp only [isQuote, Bool.or_eq_true, beq_iff_eq] at quote
  rcases quote with rfl | rfl <;> exact absurd continues (by decide)

/-- Without quotes, a text that is not empty is closed. -/
theorem Closed.of_isQuote
    {text : List Char}
    (notEmpty : text ≠ [])
    (noQuote : ∀ character ∈ text, isQuote character = false) :
    Closed text := by
  obtain ⟨first, rest, rfl⟩ := List.exists_cons_of_ne_nil notEmpty
  exact .bare noQuote

/-- What becomes a token is closed: only strings have quotes in them. -/
theorem Form.closed
    {settings : Settings}
    {kind : SegmentKind}
    {text : List Char}
    (form : Form settings kind text)
    (loud : ¬ Silent ⟨kind, text⟩) :
    Closed text := by
  have notEmpty := form.ne_nil
  cases form with
  | lineEnd =>
      exact absurd (.inl rfl) loud
  | blank =>
      exact absurd (.inr (.inl rfl)) loud
  | comment =>
      exact absurd (.inr (.inr rfl)) loud
  | operator symbol =>
      have noQuotes : symbol.spelling.toList.any isQuote = false := by
        cases symbol <;> rfl
      exact .of_isQuote notEmpty (by simpa using noQuotes)
  | integer _ digits =>
      exact .of_isQuote notEmpty fun character member =>
        isQuote_of_isDigit (digits.allDigits character member)
  | float _ whole fraction =>
      apply Closed.of_isQuote notEmpty
      intro character member
      rcases List.mem_append.mp member with inWhole | behind
      · exact isQuote_of_isDigit (whole.allDigits character inWhole)
      · rcases List.mem_cons.mp behind with rfl | inFraction
        · rfl
        · exact isQuote_of_isDigit (fraction.allDigits character inFraction)
  | string _ quoted notInside =>
      exact .quoted quoted notInside
  | word _ starts continues =>
      apply Closed.of_isQuote notEmpty
      intro character member
      rcases List.mem_cons.mp member with rfl | inRest
      · exact isQuote_of_continuesWord (Text.continuesWord_of_startsWord starts)
      · exact isQuote_of_continuesWord (continues character inRest)

/-- Two closed texts are told apart, and from what is behind them, if a single quote follows each. -/
theorem Closed.append_inj
    {text other : List Char}
    (closed : Closed text)
    (otherClosed : Closed other)
    {tail otherTail : List Char}
    (same : text ++ '\'' :: tail = other ++ '\'' :: otherTail) :
    text = other ∧ tail = otherTail := by
  cases closed with
  | @quoted quote body quoted notInside =>
      cases otherClosed with
      | @quoted otherQuote otherBody _ notInOther =>
          simp only [List.cons_append, List.cons.injEq, List.append_assoc, List.nil_append] at same
          obtain ⟨rfl, inside⟩ := same
          obtain ⟨rfl, behind⟩ := append_mark_inj notInside notInOther inside
          exact ⟨rfl, (List.cons.inj behind).2⟩
      | bare noQuote =>
          obtain ⟨rfl, -⟩ := List.cons.inj same
          have isQuote := isQuote_iff.mpr quoted
          simp [noQuote quote List.mem_cons_self] at isQuote
  | @bare first rest noQuote =>
      have noSingle {text : List Char} (none : ∀ character ∈ text, isQuote character = false) :
          '\'' ∉ text :=
        fun member => absurd (none '\'' member) (by decide)
      cases otherClosed with
      | @quoted otherQuote _ quoted _ =>
          obtain ⟨rfl, -⟩ := List.cons.inj same
          have isQuote := isQuote_iff.mpr quoted
          simp [noQuote first List.mem_cons_self] at isQuote
      | bare noOtherQuote =>
          exact append_mark_inj (noSingle noQuote) (noSingle noOtherQuote) same

end Segment

namespace Token

/-- The lexeme of a token that some scan gives is closed. -/
theorem Emitted.closed
    {settings : Settings}
    {vocabulary : Vocabulary}
    {token : Token}
    (emitted : token.Emitted settings vocabulary) :
    Segment.Closed token.lexeme.toList := by
  obtain ⟨kind, form, means⟩ := emitted.exists_form
  apply form.closed
  intro silent
  cases means.symm.trans (Segment.tokenKind?_eq_none_iff.mpr silent)

/-- The parts of a line of a listing, with the marks between them. -/
theorem toList_line (token : Token) :
    (token.toText ++ "\n").toList =
      token.kind.name.toList ++ ' ' :: '\'' ::
        (token.lexeme.toList ++ '\'' ::
          (" line ".toList ++ (Nat.toDigits 10 token.line ++ ['\n']))) := by
  simp [toText]

/-- A line of a listing is told apart from the lines behind it, and its token from all others. -/
theorem line_append_inj
    {token other : Token}
    (closed : Segment.Closed token.lexeme.toList)
    (otherClosed : Segment.Closed other.lexeme.toList)
    {tail otherTail : List Char}
    (same :
      (token.toText ++ "\n").toList ++ tail = (other.toText ++ "\n").toList ++ otherTail) :
    token = other ∧ tail = otherTail := by
  obtain ⟨kind, lexeme, line⟩ := token
  obtain ⟨otherKind, otherLexeme, otherLine⟩ := other
  simp only [toList_line, List.append_assoc, List.cons_append] at same closed otherClosed
  obtain ⟨sameName, behindName⟩ :=
    append_mark_inj kind.space_not_mem_name otherKind.space_not_mem_name same
  obtain ⟨sameLexeme, behindLexeme⟩ := closed.append_inj otherClosed (List.cons.inj behindName).2
  have noLineEnd (number : Nat) : '\n' ∉ Nat.toDigits 10 number :=
    fun member => absurd (Nat.isDigit_of_mem_toDigits (by decide) (by decide) member) (by decide)
  obtain ⟨sameDigits, behindLine⟩ :=
    append_mark_inj (noLineEnd line) (noLineEnd otherLine) (List.append_cancel_left behindLexeme)
  have sameKind : kind = otherKind := TokenKind.name_injective (String.toList_inj.mp sameName)
  have sameLine : line = otherLine :=
    calc
      line = Nat.ofDigitChars 10 (Nat.toDigits 10 line) 0 := Nat.ofDigitChars_ten_toDigits.symm
      _ = Nat.ofDigitChars 10 (Nat.toDigits 10 otherLine) 0 := by rw [sameDigits]
      _ = otherLine := Nat.ofDigitChars_ten_toDigits
  rw [sameKind, String.toList_inj.mp sameLexeme, sameLine]
  exact ⟨rfl, behindLine⟩

theorem listing_cons
    (token : Token)
    (tokens : List Token) :
    (listing (token :: tokens)).toList =
      (token.toText ++ "\n").toList ++ (listing tokens).toList := by
  simp [listing]

/-- No line of a listing is empty. -/
theorem listing_cons_ne_nil
    (token : Token)
    (tokens : List Token) :
    (listing (token :: tokens)).toList ≠ [] := by
  rw [listing_cons, toList_line]
  simp

/-- A listing of tokens with closed lexemes lists them and no others. -/
theorem eq_of_listing_eq
    {tokens others : List Token}
    (closed : ∀ token ∈ tokens, Segment.Closed token.lexeme.toList)
    (othersClosed : ∀ other ∈ others, Segment.Closed other.lexeme.toList)
    (same : (listing tokens).toList = (listing others).toList) :
    tokens = others := by
  induction tokens generalizing others with
  | nil =>
      cases others with
      | nil =>
          rfl
      | cons other others =>
          exact absurd same.symm (listing_cons_ne_nil other others)
  | cons token tokens inductionHypothesis =>
      cases others with
      | nil =>
          exact absurd same (listing_cons_ne_nil token tokens)
      | cons other others =>
          obtain ⟨here, later⟩ := List.forall_mem_cons.mp closed
          obtain ⟨otherHere, otherLater⟩ := List.forall_mem_cons.mp othersClosed
          rw [listing_cons, listing_cons] at same
          obtain ⟨sameToken, sameTail⟩ := line_append_inj here otherHere same
          rw [sameToken, inductionHypothesis later otherLater sameTail]

end Token

/--
The text form of the tokens of a scan says everything about them: two scans whose
tokens are written as one text, of whatever sources and under whatever settings and
vocabularies, have the same tokens.
-/
theorem scans_eq_of_dump_text_eq
    {settings otherSettings : Settings}
    {vocabulary otherVocabulary : Vocabulary}
    {source otherSource : String}
    {tokens otherTokens : List Token}
    (scanned : scan settings vocabulary source = .ok tokens)
    (otherScanned : scan otherSettings otherVocabulary otherSource = .ok otherTokens)
    (same : Command.dump .text tokens = Command.dump .text otherTokens) :
    tokens = otherTokens := by
  apply Token.eq_of_listing_eq
  · exact fun token member => Token.Emitted.closed ⟨source, tokens, scanned, member⟩
  · exact fun token member =>
      Token.Emitted.closed ⟨otherSource, otherTokens, otherScanned, member⟩
  · exact congrArg String.toList same

/-- A string that reads like the end of one line of a listing and the start of another. -/
theorem scans_eq_of_dump_text_eq_forged_line :
    scan {} (.ofPairs [("x", .string)]) "\"' line 1\nString '\" x" =
        .ok [⟨.string, "\"' line 1\nString '\"", 1⟩, ⟨.string, "x", 2⟩] ∧
      Command.dump .text [⟨.string, "\"' line 1\nString '\"", 1⟩, ⟨.string, "x", 2⟩] =
        "String '\"' line 1\nString '\"' line 1\nString 'x' line 2\n" ∧
      [⟨.string, "\"' line 1\nString '\"", 1⟩, ⟨.string, "x", 2⟩] =
        (Scan.ofSource {} (.ofPairs [("y", .float), ("x", .string)])
          "\"' line 1\nString '\"\tx--y").tokens := by
  have scanned :
      scan {} (.ofPairs [("x", .string)]) "\"' line 1\nString '\" x" =
        .ok [⟨.string, "\"' line 1\nString '\"", 1⟩, ⟨.string, "x", 2⟩] := by
    decide +kernel
  have otherScanned :
      scan {} (.ofPairs [("y", .float), ("x", .string)]) "\"' line 1\nString '\"\tx--y" =
        .ok (Scan.ofSource {} (.ofPairs [("y", .float), ("x", .string)])
          "\"' line 1\nString '\"\tx--y").tokens := by
    decide +kernel
  refine ⟨scanned, by decide +kernel, ?_⟩
  exact scans_eq_of_dump_text_eq scanned otherScanned (by decide +kernel)

/-- The identifier on the left is one that no scan gives. -/
example :
    Token.listing [⟨.identifier, "a' line 1\nIdentifier 'b", 1⟩] =
      Token.listing [⟨.identifier, "a", 1⟩, ⟨.identifier, "b", 1⟩] := by
  decide +kernel

end PinkyLex
