import PinkyLex.Command.Run
import PinkyLex.Proofs.JsonWritten
import PinkyLex.Proofs.VocabularyLoading

namespace PinkyLex

/-!
# Documents of tokens

The document that tokens are written as is a list of objects, whatever their lexemes
and however many there are.  Read as a data file, it gives the tokens back.
-/

open Json

namespace Token

/-- A token as a value of a data file. -/
def toTree (token : Token) : Tree :=
  .object [("kind", .string token.kind.code), ("lexeme", .string token.lexeme),
    ("line", .number (.ofNatural token.line))]

/-- The token that a value of a data file stands for, if it has just the members of one. -/
def ofTree? : Tree → Option Token
  | .object [("kind", .string code), ("lexeme", .string lexeme), ("line", .number numeral)] => do
      let kind ← TokenKind.ofCode? code
      let line ← numeral.toNatural?
      pure { kind := kind, lexeme := lexeme, line := line }
  | _ =>
      none

theorem ofTree?_toTree
    {token : Token}
    (bound : token.line < 2 ^ 64) :
    ofTree? token.toTree = some token := by
  simp [ofTree?, toTree, TokenKind.ofCode?_code, Numeral.toNatural?_ofNatural bound]

theorem toTree_injective :
    Function.Injective toTree := by
  rintro ⟨kind, lexeme, line⟩ ⟨otherKind, otherLexeme, otherLine⟩ same
  simp only [toTree, Tree.object.injEq, List.cons.injEq, Prod.mk.injEq, Tree.string.injEq,
    Tree.number.injEq, true_and, and_true] at same
  obtain ⟨sameCode, rfl, sameNumeral⟩ := same
  have sameKind : some kind = some otherKind := by
    rw [← TokenKind.ofCode?_code kind, ← TokenKind.ofCode?_code otherKind, sameCode]
  rw [Option.some.inj sameKind, Numeral.ofNatural_injective sameNumeral]

end Token

namespace Json

/-- A member of an object on a line of its own, indented as the members of a token are. -/
def memberText (key : String) (text : List Char) : List Char :=
  "\n    ".toList ++ '"' :: (key.toList ++ '"' :: ':' :: ' ' :: text)

section Members

variable {key : String} {text rest : List Char} {value : Tree} {members : List (String × Tree)}
variable (ordinary : ∀ character ∈ key.toList, character ∉ ['"', '\\'] ∧ 0x20 ≤ character.toNat)
include ordinary

theorem partForm_firstMember
    (valueForm : TreeForm text value)
    (restForm : PartForm rest (.members members)) :
    TreeForm ('{' :: (memberText key text ++ rest)) (.object ((key, value) :: members)) := by
  have indented : Blanks "\n    ".toList := by
    decide
  have spaced : Blanks [' '] := by
    decide
  have form : TreeForm _ _ :=
    PartForm.object indented (keyForm_self key ordinary) spaced valueForm restForm
  simpa [memberText] using form

theorem partForm_nextMember
    (valueForm : TreeForm text value)
    (restForm : PartForm rest (.members members)) :
    PartForm (',' :: (memberText key text ++ rest)) (.members ((key, value) :: members)) := by
  have indented : Blanks "\n    ".toList := by
    decide
  have spaced : Blanks [' '] := by
    decide
  have form :=
    PartForm.nextMember blanks_nil indented (keyForm_self key ordinary) spaced valueForm restForm
  simpa [memberText] using form

end Members

end Json

namespace Token

/-- The object that a token is written as, without the blanks before it. -/
def objectText (token : Token) : List Char :=
  '{' :: (memberText "kind" (written token.kind.code).toList ++
    ',' :: (memberText "lexeme" (written token.lexeme).toList ++
      ',' :: (memberText "line" (Nat.toDigits 10 token.line) ++
        "\n  \x7d".toList)))

theorem toList_toJson (token : Token) :
    token.toJson.toList = "  ".toList ++ token.objectText := by
  simp only [toJson, objectText, memberText, Nat.toString_eq_repr, Nat.toList_repr,
    String.toList_append, String.reduceToList, List.append_assoc, List.cons_append, List.nil_append]

/-- A token is written as an object with its three members. -/
theorem treeForm_objectText (token : Token) :
    TreeForm token.objectText token.toTree := by
  have indented : Blanks "\n  ".toList := by
    decide
  have close : PartForm "\n  \x7d".toList (.members []) :=
    .closeObject indented
  exact partForm_firstMember (by simp) (.string (stringForm_written _))
    (partForm_nextMember (by simp) (.string (stringForm_written _))
      (partForm_nextMember (by simp) (.number (Numeral.numeralForm_toDigits _)) close))

/-- What stands behind the first token of a document. -/
def behindFirst (tokens : List Token) : List Char :=
  (tokens.flatMap fun token => ",\n  ".toList ++ token.objectText) ++ "\n]".toList

theorem partForm_behindFirst (tokens : List Token) :
    PartForm (behindFirst tokens) (.items (tokens.map toTree)) := by
  have broken : Blanks ['\n'] := by
    decide
  have indented : Blanks "\n  ".toList := by
    decide
  induction tokens with
  | nil =>
      exact .closeList broken
  | cons token tokens inductionHypothesis =>
      have form :=
        PartForm.nextItem blanks_nil indented token.treeForm_objectText inductionHypothesis
      simpa [behindFirst] using form

/-- Several texts with a separator between them are the first and the others, each behind one. -/
theorem toList_intercalate_cons
    (separator first : String)
    (others : List String) :
    (separator.intercalate (first :: others)).toList =
      first.toList ++ others.flatMap fun other => separator.toList ++ other.toList := by
  induction others generalizing first with
  | nil =>
      simp
  | cons second others inductionHypothesis =>
      have later := inductionHypothesis second
      rw [String.toList_intercalate] at later ⊢
      simp only [List.map_cons] at later ⊢
      rw [List.intercalate_cons_cons, later, List.flatMap_cons]
      simp

theorem toList_document_cons
    (token : Token)
    (tokens : List Token) :
    (document (token :: tokens)).toList =
      '[' :: ("\n  ".toList ++ (token.objectText ++ behindFirst tokens)) := by
  have separated := toList_intercalate_cons ",\n" token.toJson (tokens.map toJson)
  rw [← List.map_cons] at separated
  simp only [document, String.toList_append, separated, toList_toJson, List.flatMap_map,
    behindFirst]
  simp

/-- A document of tokens is a list of their objects. -/
theorem treeForm_document (tokens : List Token) :
    TreeForm (document tokens).toList (.list (tokens.map toTree)) := by
  cases tokens with
  | nil =>
      exact .emptyList blanks_nil
  | cons token tokens =>
      have indented : Blanks "\n  ".toList := by
        decide
      rw [toList_document_cons]
      exact .list indented token.treeForm_objectText (partForm_behindFirst tokens)

end Token

namespace Command

theorem fileForm_dump (tokens : List Token) :
    FileForm TreeForm (dump .json tokens).toList (.list (tokens.map Token.toTree)) := by
  have broken : Blanks ['\n'] := by
    decide
  have form := FileForm.value blanks_nil (Token.treeForm_document tokens) broken
  simpa only [dump, String.toList_append, String.reduceToList, List.nil_append] using form

/--
The data file that tokens are dumped as is a list, which is read back as one object
for each token, in order, with its kind, lexeme and line as the only members.  So no
two lists of tokens are dumped as one text.
-/
theorem dump_json_reads_back :
    (∀ tokens : List Token,
      (∀ token ∈ tokens, token.line < 2 ^ 64) →
        ∃ items,
          FileForm TreeForm (dump .json tokens).toList (.list items) ∧
            Tree.read.readAll (dump .json tokens) = .ok (.list items) ∧
            items.map Token.ofTree? = tokens.map some) ∧
      Function.Injective (dump .json) := by
  constructor
  · intro tokens bound
    have form := fileForm_dump tokens
    refine ⟨tokens.map Token.toTree, form, Tree.readAll_of_fileForm form, ?_⟩
    rw [List.map_map]
    exact List.map_congr_left fun token member => Token.ofTree?_toTree (bound token member)
  · intro tokens others same
    have first := Tree.readAll_of_fileForm (fileForm_dump tokens)
    have second := Tree.readAll_of_fileForm (fileForm_dump others)
    rw [same, second] at first
    have sameItems := Tree.list.inj (Except.ok.inj first)
    exact List.map_injective_iff.mpr Token.toTree_injective sameItems.symm

/-- A token with escapes of every kind in its lexeme, on the last line there can be. -/
def escapedToken : Token :=
  ⟨.string, "'\"\\\x01\n\u00e9'", 18446744073709551615⟩

theorem dump_json_reads_back_escaped :
    dump .json [escapedToken] =
        "[\n  \x7b\n" ++
          "    \"kind\": \"STRING\",\n" ++
          "    \"lexeme\": \"'\\\"\\\\\\u0001\\n\u00e9'\",\n" ++
          "    \"line\": 18446744073709551615\n" ++
          "  \x7d\n]\n" ∧
      ∃ items,
        FileForm TreeForm (dump .json [escapedToken]).toList (.list items) ∧
          Tree.read.readAll (dump .json [escapedToken]) = .ok (.list items) ∧
          items.map Token.ofTree? = [some escapedToken] :=
  ⟨by decide +kernel, dump_json_reads_back.1 [escapedToken] (by decide)⟩

end Command

end PinkyLex
