import PinkyLex.Text.Word
import PinkyLex.Token.Kind

namespace PinkyLex

/-!
# Vocabularies

A vocabulary maps the spellings of reserved words to kinds of tokens.  It holds
one entry for each spelling; giving a spelling again replaces its entry.  A
scan looks words up in a vocabulary and never changes it.

A vocabulary can be built from any spellings and kinds.  Only one in which every
spelling is a word and every kind a keyword is `valid`: its entries are exactly
the ones that a scan can use.  Which of several useless entries is found first is
up to the order in which entries are gone through, and none is prescribed.
-/

/-- The kinds of the reserved words, with one entry for each spelling. -/
structure Vocabulary where
  entries : List (String × TokenKind)
  distinct : (entries.map Prod.fst).Nodup
  deriving Repr, DecidableEq

namespace Vocabulary

/-- The vocabulary without entries. -/
def empty : Vocabulary where
  entries := []
  distinct := List.nodup_nil

/-- The entries for all spellings but one. -/
def entriesExcept (vocabulary : Vocabulary) (spelling : String) : List (String × TokenKind) :=
  vocabulary.entries.filter fun entry => entry.1 != spelling

/-- Map a spelling to a kind, whatever it was mapped to before. -/
def insert (vocabulary : Vocabulary) (spelling : String) (kind : TokenKind) : Vocabulary where
  entries :=
    vocabulary.entriesExcept spelling ++ [(spelling, kind)]
  distinct := by
    rw [List.map_append, List.nodup_append]
    refine ⟨?_, by simp, ?_⟩
    · exact List.Nodup.sublist (List.filter_sublist.map Prod.fst) vocabulary.distinct
    · intro known knownIn added addedIn
      simp only [entriesExcept, List.mem_map, List.mem_filter, bne_iff_ne, ne_eq] at knownIn
      obtain ⟨entry, ⟨_, different⟩, rfl⟩ := knownIn
      simp only [List.map_cons, List.map_nil, List.mem_singleton] at addedIn
      exact addedIn ▸ different

/-- The vocabulary with the given entries, the last one winning for each spelling. -/
def ofPairs (pairs : List (String × TokenKind)) : Vocabulary :=
  pairs.foldl (fun vocabulary pair => vocabulary.insert pair.1 pair.2) empty

/-- The reserved words of the language. -/
def pinky : Vocabulary :=
  ofPairs (Keyword.all.map fun word => (word.spelling, .keyword word))

/-- The kind of a reserved word. -/
def find? (vocabulary : Vocabulary) (spelling : String) : Option TokenKind :=
  vocabulary.entries.lookup spelling

/-- Leaving out a spelling does not change what another word is mapped to. -/
theorem lookup_entriesExcept
    (vocabulary : Vocabulary)
    (spelling word : String) :
    (vocabulary.entriesExcept spelling).lookup word =
      if word = spelling then none else vocabulary.find? word := by
  unfold entriesExcept find?
  induction vocabulary.entries with
  | nil =>
      simp
  | cons entry rest inductionHypothesis =>
      obtain ⟨listed, kind⟩ := entry
      by_cases dropped : listed = spelling
      · by_cases sought : word = spelling
        · simpa [List.filter_cons, dropped, sought] using inductionHypothesis
        · have other : (word == spelling) = false := by
            simpa using sought
          simpa [List.filter_cons, List.lookup_cons, dropped, sought, other] using
            inductionHypothesis
      · by_cases found : word = listed
        · simp [dropped, found]
        · have other : (word == listed) = false := by
            simpa using found
          simpa [List.filter_cons, List.lookup_cons, dropped, other] using inductionHypothesis

/-- A spelling is mapped to the kind given last, and no other word is touched. -/
theorem find?_insert
    (vocabulary : Vocabulary)
    (spelling word : String)
    (kind : TokenKind) :
    (vocabulary.insert spelling kind).find? word =
      if word = spelling then some kind else vocabulary.find? word := by
  have split :
      (vocabulary.insert spelling kind).find? word =
        ((vocabulary.entriesExcept spelling).lookup word).or
          ([(spelling, kind)].lookup word) := by
    simp [find?, insert, List.lookup_append]
  rw [split, lookup_entriesExcept]
  by_cases sought : word = spelling
  · simp [sought]
  · have other : (word == spelling) = false := by
      simpa using sought
    simp [sought, List.lookup_cons, other]

/-- The number of reserved words. -/
def size (vocabulary : Vocabulary) : Nat :=
  vocabulary.entries.length

/-- Whether two vocabularies have the same words with the same kinds. -/
def agrees (first second : Vocabulary) : Bool :=
  first.size == second.size &&
    first.entries.all fun entry => second.find? entry.1 == some entry.2

/-- What makes an entry useless to a scan. -/
inductive Defect where
  | notIdentifier (spelling : String)
  | notKeyword (spelling : String) (kind : TokenKind)
  deriving Repr, DecidableEq

/-- What makes one entry useless to a scan, if anything does; the spelling is looked at first. -/
def defectOf? (entry : String × TokenKind) : Option Defect :=
  if Text.isWord entry.1.toList then
    if entry.2.isKeyword then
      none
    else
      some (.notKeyword entry.1 entry.2)
  else
    some (.notIdentifier entry.1)

/-- The first entry that is useless to a scan. -/
def defect? (vocabulary : Vocabulary) : Option Defect :=
  vocabulary.entries.findSome? defectOf?

/-- Whether a scan can use every entry. -/
def valid (vocabulary : Vocabulary) : Bool :=
  vocabulary.defect?.isNone

/-- Take over entries one by one, up to the first that is useless to a scan. -/
def takeOver (vocabulary : Vocabulary) :
    List (String × TokenKind) → Except Defect Vocabulary
  | [] =>
      .ok vocabulary
  | entry :: rest =>
      match defectOf? entry with
      | some defect => .error defect
      | none => (vocabulary.insert entry.1 entry.2).takeOver rest

/-- An order in which the entries of a vocabulary are gone through. -/
structure EntryOrder where
  arrange : Vocabulary → List (String × TokenKind)
  perm : ∀ vocabulary, (arrange vocabulary).Perm vocabulary.entries

/-- The order in which entries are listed. -/
def EntryOrder.listed : EntryOrder where
  arrange :=
    entries
  perm vocabulary :=
    .refl vocabulary.entries

end Vocabulary

end PinkyLex
