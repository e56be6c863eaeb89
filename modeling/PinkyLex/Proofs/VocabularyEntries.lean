import Mathlib.Data.List.Dedup
import Mathlib.Data.List.Induction
import PinkyLex.Vocabulary.Document

namespace PinkyLex.Vocabulary

/-!
# Entries of vocabularies

A vocabulary built from pairs has for each spelling the kind that the last pair
gives it.  Taking the entries of a vocabulary over into an empty one gives the same
entries back, in whatever order they come, unless one of them is useless to a scan.
-/

section Entries

variable {vocabulary : Vocabulary} {spelling : String} {kind : TokenKind}

/-- A spelling has one entry at most. -/
theorem find?_eq_some_iff :
    vocabulary.find? spelling = some kind ↔ (spelling, kind) ∈ vocabulary.entries := by
  have distinct := vocabulary.distinct
  unfold find?
  generalize vocabulary.entries = entries at distinct ⊢
  induction entries with
  | nil =>
      simp
  | cons entry entries inductionHypothesis =>
      obtain ⟨listed, listedKind⟩ := entry
      rw [List.map_cons, List.nodup_cons] at distinct
      obtain ⟨notLater, later⟩ := distinct
      by_cases found : spelling = listed
      · subst found
        have elsewhere : (spelling, kind) ∉ entries :=
          fun member => notLater (List.mem_map.mpr ⟨_, member, rfl⟩)
        simp [elsewhere, eq_comm]
      · have other : (spelling == listed) = false := by
          simpa using found
        simp [List.lookup_cons, other, found, inductionHypothesis later]

theorem find?_isSome_iff :
    (vocabulary.find? spelling).isSome = true ↔
      spelling ∈ vocabulary.entries.map Prod.fst := by
  simp [Option.isSome_iff_exists, find?_eq_some_iff]

/-- An entry that a scan can use maps a word to a keyword. -/
theorem defectOf?_eq_none_iff
    {entry : String × TokenKind} :
    defectOf? entry = none ↔
      Text.isWord entry.1.toList = true ∧ entry.2.isKeyword = true := by
  unfold defectOf?
  split
  case isTrue word =>
    simp [word]
  case isFalse notWord =>
    simp [notWord]

/-- Of an entry that a scan cannot use, the spelling is blamed before the kind. -/
theorem defectOf?_eq_some_iff
    {entry : String × TokenKind}
    {defect : Defect} :
    defectOf? entry = some defect ↔
      Text.isWord entry.1.toList = false ∧ defect = .notIdentifier entry.1 ∨
        Text.isWord entry.1.toList = true ∧
          entry.2.isKeyword = false ∧
          defect = .notKeyword entry.1 entry.2 := by
  unfold defectOf?
  cases Text.isWord entry.1.toList with
  | false =>
      simp only [Bool.false_eq_true, ↓reduceIte, Option.some.injEq, true_and, false_and, or_false]
      exact eq_comm
  | true =>
      cases entry.2.isKeyword with
      | false =>
          simp only [↓reduceIte, Bool.false_eq_true, Option.some.injEq, Bool.true_eq_false,
            true_and, false_and, false_or]
          exact eq_comm
      | true =>
          simp

theorem valid_iff :
    vocabulary.valid = true ↔
      ∀ spelling kind,
        vocabulary.find? spelling = some kind →
        Text.isWord spelling.toList = true ∧ kind.isKeyword = true := by
  simp only [valid, defect?, Option.isNone_iff_eq_none, List.findSome?_eq_none_iff,
    defectOf?_eq_none_iff, find?_eq_some_iff, Prod.forall]

/-- Vocabularies with the same entries have the same words with the same kinds. -/
theorem agrees_of_perm
    {other : Vocabulary}
    (perm : vocabulary.entries.Perm other.entries) :
    vocabulary.agrees other = true := by
  simp only [agrees, size, perm.length_eq, BEq.rfl, Bool.true_and, List.all_eq_true, beq_iff_eq]
  intro entry member
  exact find?_eq_some_iff.mpr (perm.mem_iff.mp member)

end Entries

section Pairs

variable {pairs : List (String × TokenKind)} {spelling : String} {kind : TokenKind}

/-- The last pair with a spelling gives it a kind. -/
def LastGiven
    (pairs : List (String × TokenKind))
    (spelling : String)
    (kind : TokenKind) :
    Prop :=
  ∃ before after,
    pairs = before ++ (spelling, kind) :: after ∧
      ∀ pair ∈ after, pair.1 ≠ spelling

theorem find?_ofPairs
    (pairs : List (String × TokenKind))
    (spelling : String) :
    (ofPairs pairs).find? spelling = pairs.reverse.lookup spelling := by
  induction pairs using List.reverseRecOn with
  | nil =>
      rfl
  | append_singleton pairs pair inductionHypothesis =>
      have extended : ofPairs (pairs ++ [pair]) = (ofPairs pairs).insert pair.1 pair.2 := by
        simp [ofPairs]
      rw [extended, find?_insert, inductionHypothesis, List.reverse_concat, List.lookup_cons]
      by_cases found : spelling = pair.1
      · simp [found]
      · have other : (spelling == pair.1) = false := by
          simpa using found
        simp [found, other]

/-- In a vocabulary built from pairs, the last pair wins. -/
theorem find?_ofPairs_eq_some_iff :
    (ofPairs pairs).find? spelling = some kind ↔ LastGiven pairs spelling kind := by
  rw [find?_ofPairs, List.lookup_eq_some_iff]
  constructor
  · rintro ⟨later, earlier, split, other⟩
    refine ⟨earlier.reverse, later.reverse, ?_, ?_⟩
    · rw [← List.reverse_reverse pairs, split]
      simp
    · intro pair member same
      simpa [same] using other pair (List.mem_reverse.mp member)
  · rintro ⟨before, after, rfl, other⟩
    refine ⟨after.reverse, before.reverse, by simp, ?_⟩
    intro pair member
    rw [bne_iff_ne]
    exact (other pair (List.mem_reverse.mp member)).symm

/-- There is one entry for each spelling. -/
theorem size_ofPairs :
    (ofPairs pairs).size = (pairs.map Prod.fst).dedup.length := by
  have sameSpellings (spelling : String) :
      spelling ∈ (ofPairs pairs).entries.map Prod.fst ↔
        spelling ∈ (pairs.map Prod.fst).dedup := by
    rw [← find?_isSome_iff, find?_ofPairs, List.lookup_isSome_iff, List.mem_dedup, List.mem_map]
    simp only [List.mem_reverse, beq_iff_eq]
    exact exists_congr fun pair => and_congr_right fun _ => eq_comm
  have perm :=
    (List.perm_ext_iff_of_nodup (ofPairs pairs).distinct (List.nodup_dedup _)).mpr sameSpellings
  simpa [size] using perm.length_eq

end Pairs

section TakeOver

variable {vocabulary reached : Vocabulary} {entries : List (String × TokenKind)}

/-- A spelling without an entry gets one behind all others. -/
theorem entries_insert
    {spelling : String}
    (unlisted : spelling ∉ vocabulary.entries.map Prod.fst)
    (kind : TokenKind) :
    (vocabulary.insert spelling kind).entries = vocabulary.entries ++ [(spelling, kind)] := by
  have all : vocabulary.entriesExcept spelling = vocabulary.entries := by
    rw [entriesExcept, List.filter_eq_self]
    intro entry member
    rw [bne_iff_ne]
    rintro rfl
    exact unlisted (List.mem_map_of_mem member)
  exact congrArg (· ++ [(spelling, kind)]) all

/-- Entries are taken over if and only if a scan can use all of them. -/
theorem exists_takeOver_iff :
    (∃ reached, vocabulary.takeOver entries = .ok reached) ↔
      ∀ entry ∈ entries, defectOf? entry = none := by
  induction entries generalizing vocabulary with
  | nil =>
      simp [takeOver]
  | cons entry entries inductionHypothesis =>
      rw [takeOver, List.forall_mem_cons]
      cases defectOf? entry with
      | none =>
          simp [inductionHypothesis]
      | some defect =>
          simp

/-- What keeps entries from being taken over is a defect of one of them. -/
theorem exists_defectOf?_of_takeOver
    {defect : Defect}
    (failed : vocabulary.takeOver entries = .error defect) :
    ∃ entry ∈ entries, defectOf? entry = some defect := by
  induction entries generalizing vocabulary with
  | nil =>
      cases failed
  | cons entry entries inductionHypothesis =>
      rw [takeOver] at failed
      cases found : defectOf? entry with
      | some blamed =>
          simp only [found, Except.error.injEq] at failed
          exact ⟨entry, List.mem_cons_self, failed ▸ found⟩
      | none =>
          simp only [found] at failed
          obtain ⟨other, member, blamed⟩ := inductionHypothesis failed
          exact ⟨other, List.mem_cons_of_mem entry member, blamed⟩

/-- Entries with spellings of their own stand behind the others once they are taken over. -/
theorem entries_of_takeOver
    (distinct : ((vocabulary.entries ++ entries).map Prod.fst).Nodup)
    (taken : vocabulary.takeOver entries = .ok reached) :
    reached.entries = vocabulary.entries ++ entries := by
  induction entries generalizing vocabulary with
  | nil =>
      cases taken
      exact (List.append_nil _).symm
  | cons entry entries inductionHypothesis =>
      have unlisted : entry.1 ∉ vocabulary.entries.map Prod.fst := by
        rw [List.map_append, List.map_cons] at distinct
        exact fun member =>
          (List.nodup_append.mp distinct).2.2 _ member _ List.mem_cons_self rfl
      have inserted := entries_insert unlisted entry.2
      rw [takeOver] at taken
      cases found : defectOf? entry with
      | some defect =>
          simp [found] at taken
      | none =>
          simp only [found] at taken
          rw [inductionHypothesis (by simpa [inserted] using distinct) taken, inserted]
          simp

/-- Whatever the order, the entries of a vocabulary that are taken over are its entries. -/
theorem perm_of_takeOver_empty
    (order : EntryOrder)
    (taken : empty.takeOver (order.arrange vocabulary) = .ok reached) :
    reached.entries.Perm vocabulary.entries := by
  have distinct : ((empty.entries ++ order.arrange vocabulary).map Prod.fst).Nodup :=
    ((order.perm vocabulary).map Prod.fst).nodup_iff.mpr vocabulary.distinct
  rw [entries_of_takeOver distinct taken]
  exact order.perm vocabulary

end TakeOver

section Documents

variable {text : String} {pairs : List (String × TokenKind)} {vocabulary : Vocabulary}

/-- Once the pairs are read, their vocabulary is taken over entry by entry. -/
theorem ofJsonIn_of_readAll
    (order : EntryOrder)
    (read : readPairs.readAll text = .ok pairs) :
    ofJsonIn order text =
      (empty.takeOver (order.arrange (ofPairs pairs))).mapError SetupError.defective := by
  rw [ofJsonIn, read]
  rfl

theorem exists_of_ofJsonIn
    {order : EntryOrder}
    (loaded : ofJsonIn order text = .ok vocabulary) :
    ∃ pairs,
      readPairs.readAll text = .ok pairs ∧
        empty.takeOver (order.arrange (ofPairs pairs)) = .ok vocabulary := by
  cases read : readPairs.readAll text with
  | error failure =>
      rw [ofJsonIn, read] at loaded
      cases loaded
  | ok pairs =>
      rw [ofJsonIn_of_readAll order read] at loaded
      cases taken : empty.takeOver (order.arrange (ofPairs pairs)) with
      | error defect =>
          rw [taken] at loaded
          cases loaded
      | ok reached =>
          rw [taken] at loaded
          cases loaded
          exact ⟨pairs, rfl, taken⟩

/-- A scan can use every entry of a vocabulary that a data file gives. -/
theorem valid_of_ofJsonIn
    {order : EntryOrder}
    (loaded : ofJsonIn order text = .ok vocabulary) :
    vocabulary.valid = true := by
  obtain ⟨pairs, -, taken⟩ := exists_of_ofJsonIn loaded
  rw [valid_iff]
  intro spelling kind found
  have listed : (spelling, kind) ∈ order.arrange (ofPairs pairs) := by
    rw [(order.perm _).mem_iff, ← (perm_of_takeOver_empty order taken).mem_iff]
    exact find?_eq_some_iff.mp found
  exact defectOf?_eq_none_iff.mp (exists_takeOver_iff.mp ⟨_, taken⟩ _ listed)

end Documents

end PinkyLex.Vocabulary
