import Mathlib.Data.List.Induction
import Mathlib.Data.List.Nodup
import PinkyLex.Command.Run
import PinkyLex.Proofs.EncodedText
import PinkyLex.Proofs.JsonOutcome
import PinkyLex.Proofs.JsonSkipping

namespace PinkyLex

/-!
# Loading settings

What a settings file leads to depends only on what it says of the two settings, in
whatever order and form it says it and whatever else it holds.  A setting that is not
given keeps its default, and one that is given twice makes the file malformed.
-/

namespace Dialect

theorem ofCode?_code (dialect : Dialect) :
    ofCode? dialect.code = some dialect := by
  cases dialect <;> rfl

end Dialect

namespace Settings

open Json

/-- What a member of an object of settings says, or a value of a list of them. -/
inductive Entry where
  | dialect (dialect : Dialect)
  | multilineStrings (allowed : Bool)
  | other (key : String)
  deriving Repr, DecidableEq

namespace Entry

/-- The dialect that an entry gives. -/
def dialect? : Entry → Option Dialect
  | dialect given => some given
  | _ => none

/-- What an entry says of strings over several lines. -/
def multilineStrings? : Entry → Option Bool
  | multilineStrings allowed => some allowed
  | _ => none

/-- The setting that an entry gives, if it gives one. -/
def field? : Entry → Option String
  | dialect _ => some "dialect"
  | multilineStrings _ => some "multiline_strings"
  | other _ => none

end Entry

/-- The settings that some entries give, one after the other. -/
def fields (entries : List Entry) : List String :=
  entries.filterMap Entry.field?

/-- Settings follow from entries if they have what is given and the defaults for the rest. -/
structure Follow (entries : List Entry) (settings : Settings) : Prop where
  dialect :
    ∀ dialect,
      .dialect dialect ∈ entries →
      settings.dialect = dialect
  defaultDialect :
    "dialect" ∉ fields entries →
    settings.dialect = .pinky
  multilineStrings :
    ∀ allowed,
      .multilineStrings allowed ∈ entries →
      settings.multilineStrings = allowed
  defaultMultilineStrings :
    "multiline_strings" ∉ fields entries →
    settings.multilineStrings = true

section Forms

/-- What a boolean looks like. -/
inductive BooleanForm : List Char → Bool → Prop where
  | true :
      BooleanForm ['t', 'r', 'u', 'e'] true
  | false :
      BooleanForm ['f', 'a', 'l', 's', 'e'] false

/--
What may stand behind a key.  A key that names no setting may have any value, and the
value need not make sense.
-/
inductive EntryForm : String → List Char → Entry → Prop where
  | dialect {before after text : List Char} {dialect : Dialect} :
      Blanks before →
      Blanks after →
      StringForm text dialect.code →
      EntryForm "dialect" (before ++ ':' :: (after ++ text)) (.dialect dialect)
  | multilineStrings {before after text : List Char} {allowed : Bool} :
      Blanks before →
      Blanks after →
      BooleanForm text allowed →
      EntryForm "multiline_strings" (before ++ ':' :: (after ++ text)) (.multilineStrings allowed)
  | other {before after text : List Char} {key : String} :
      key ≠ "dialect" →
      key ≠ "multiline_strings" →
      Blanks before →
      Blanks after →
      Skip.Shape none text →
      EntryForm key (before ++ ':' :: (after ++ text)) (.other key)

/-- What a list of settings may look like behind its opening bracket; it may break off early. -/
inductive ListForm : List Char → List Entry → Prop where
  | empty {blanks : List Char} :
      Blanks blanks →
      ListForm (blanks ++ [']']) []
  | dialect {before text after : List Char} {dialect : Dialect} :
      Blanks before →
      StringForm text dialect.code →
      Blanks after →
      ListForm (before ++ (text ++ (after ++ [']']))) [.dialect dialect]
  | both
      {before text between behind allowedText after : List Char}
      {dialect : Dialect}
      {allowed : Bool} :
      Blanks before →
      StringForm text dialect.code →
      Blanks between →
      Blanks behind →
      BooleanForm allowedText allowed →
      Blanks after →
      ListForm
        (before ++ (text ++ (between ++ ',' :: (behind ++ (allowedText ++ (after ++ [']']))))))
        [.dialect dialect, .multilineStrings allowed]

/-- What settings may look like. -/
inductive DocumentForm : List Char → List Entry → Prop where
  | object {text : List Char} {entries : List Entry} :
      ObjectForm EntryForm text entries →
      DocumentForm text entries
  | list {text : List Char} {entries : List Entry} :
      ListForm text entries →
      DocumentForm ('[' :: text) entries

end Forms

section Gathering

/-- What is given behind an entry; a setting that is known must not be given again. -/
def Given.extend (given : Given) : Entry → Except FailureCause Given
  | .dialect dialect =>
      if given.dialect?.isSome then
        .error (.duplicateField "dialect")
      else
        .ok { given with dialect? := some dialect }
  | .multilineStrings allowed =>
      if given.multilineStrings?.isSome then
        .error (.duplicateField "multiline_strings")
      else
        .ok { given with multilineStrings? := some allowed }
  | .other _ =>
      .ok given

/-- What some entries give. -/
def Given.ofEntries (entries : List Entry) : Given where
  dialect? := entries.findSome? Entry.dialect?
  multilineStrings? := entries.findSome? Entry.multilineStrings?

variable {entries : List Entry} {entry : Entry} {field : String}

theorem fields_concat :
    fields (entries ++ [entry]) = fields entries ++ entry.field?.toList := by
  rw [fields, List.filterMap_append]
  cases given : entry.field? <;> simp [fields, given]

theorem exists_dialect
    (given : "dialect" ∈ fields entries) :
    ∃ dialect, .dialect dialect ∈ entries := by
  obtain ⟨entry, member, gives⟩ := List.mem_filterMap.mp given
  cases entry with
  | dialect dialect =>
      exact ⟨dialect, member⟩
  | multilineStrings | other =>
      simp [Entry.field?] at gives

theorem exists_multilineStrings
    (given : "multiline_strings" ∈ fields entries) :
    ∃ allowed, .multilineStrings allowed ∈ entries := by
  obtain ⟨entry, member, gives⟩ := List.mem_filterMap.mp given
  cases entry with
  | multilineStrings allowed =>
      exact ⟨allowed, member⟩
  | dialect | other =>
      simp [Entry.field?] at gives

/-- A setting is known if and only if it is among those that were given. -/
theorem isSome_findSome?_iff
    {α : Type}
    {extract : Entry → Option α}
    (extracts : ∀ entry : Entry, (extract entry).isSome = true ↔ entry.field? = some field) :
    (entries.findSome? extract).isSome = true ↔ field ∈ fields entries := by
  simp only [List.findSome?_isSome_iff, fields, List.mem_filterMap, extracts]

/-- What is given once is found wherever it stands. -/
theorem findSome?_eq_of_mem
    {α : Type}
    {extract : Entry → Option α}
    {value : α}
    (extracts : ∀ entry : Entry, (extract entry).isSome = true ↔ entry.field? = some field)
    (once : (fields entries).Nodup)
    (member : entry ∈ entries)
    (gives : extract entry = some value) :
    entries.findSome? extract = some value := by
  obtain ⟨front, back, rfl⟩ := List.append_of_mem member
  have named : entry.field? = some field :=
    (extracts entry).mp (by simp [gives])
  have split : fields (front ++ entry :: back) = fields front ++ field :: fields back := by
    simp [fields, named]
  rw [split, List.nodup_append] at once
  have fresh : field ∉ fields front :=
    fun known => once.2.2 field known field List.mem_cons_self rfl
  have notInFront : front.findSome? extract = none := by
    rw [← isSome_findSome?_iff extracts] at fresh
    exact Option.not_isSome_iff_eq_none.mp fresh
  rw [List.findSome?_append, notInFront, Option.none_or, List.findSome?_cons_of_isSome]
  · exact gives
  · rw [gives]
    rfl

theorem isSome_entry_dialect?_iff (entry : Entry) :
    entry.dialect?.isSome = true ↔ entry.field? = some "dialect" := by
  cases entry <;> simp [Entry.dialect?, Entry.field?]

theorem isSome_entry_multilineStrings?_iff (entry : Entry) :
    entry.multilineStrings?.isSome = true ↔ entry.field? = some "multiline_strings" := by
  cases entry <;> simp [Entry.multilineStrings?, Entry.field?]

theorem isSome_dialect?_iff :
    (Given.ofEntries entries).dialect?.isSome = true ↔ "dialect" ∈ fields entries :=
  isSome_findSome?_iff isSome_entry_dialect?_iff

theorem isSome_multilineStrings?_iff :
    (Given.ofEntries entries).multilineStrings?.isSome = true ↔
      "multiline_strings" ∈ fields entries :=
  isSome_findSome?_iff isSome_entry_multilineStrings?_iff

/-- The settings that follow from entries are determined by them. -/
theorem Follow.unique
    {first second : Settings}
    (firstFollow : Follow entries first)
    (secondFollow : Follow entries second) :
    first = second := by
  have sameDialect : first.dialect = second.dialect := by
    by_cases given : "dialect" ∈ fields entries
    · obtain ⟨dialect, member⟩ := exists_dialect given
      rw [firstFollow.dialect dialect member, secondFollow.dialect dialect member]
    · rw [firstFollow.defaultDialect given, secondFollow.defaultDialect given]
  have sameStrings : first.multilineStrings = second.multilineStrings := by
    by_cases given : "multiline_strings" ∈ fields entries
    · obtain ⟨allowed, member⟩ := exists_multilineStrings given
      rw [firstFollow.multilineStrings allowed member,
        secondFollow.multilineStrings allowed member]
    · rw [firstFollow.defaultMultilineStrings given, secondFollow.defaultMultilineStrings given]
  cases first
  cases second
  cases sameDialect
  cases sameStrings
  rfl

/-- The settings with what some entries give follow from them if nothing is given twice. -/
theorem follow_ofGiven
    (once : (fields entries).Nodup) :
    Follow entries (ofGiven (Given.ofEntries entries)) where
  dialect dialect member := by
    have found := findSome?_eq_of_mem isSome_entry_dialect?_iff once member rfl
    rw [ofGiven, Given.ofEntries, found, Option.getD_some]
  defaultDialect missing := by
    rw [← isSome_dialect?_iff, Option.not_isSome_iff_eq_none] at missing
    rw [ofGiven, missing, Option.getD_none]
  multilineStrings allowed member := by
    have found := findSome?_eq_of_mem isSome_entry_multilineStrings?_iff once member rfl
    rw [ofGiven, Given.ofEntries, found, Option.getD_some]
  defaultMultilineStrings missing := by
    rw [← isSome_multilineStrings?_iff, Option.not_isSome_iff_eq_none] at missing
    rw [ofGiven, missing, Option.getD_none]

/-- An entry that gives something new is added to what is given. -/
theorem extend_of_fresh
    (fresh : ∀ field, entry.field? = some field → field ∉ fields entries) :
    (Given.ofEntries entries).extend entry = .ok (Given.ofEntries (entries ++ [entry])) := by
  cases entry with
  | dialect dialect =>
      have unknown : ¬ (Given.ofEntries entries).dialect?.isSome = true := by
        rw [isSome_dialect?_iff]
        exact fresh _ rfl
      have notGiven : entries.findSome? Entry.dialect? = none :=
        Option.not_isSome_iff_eq_none.mp unknown
      rw [Given.extend, if_neg unknown]
      simp [Given.ofEntries, List.findSome?_append, Entry.dialect?, Entry.multilineStrings?,
        notGiven]
  | multilineStrings allowed =>
      have unknown : ¬ (Given.ofEntries entries).multilineStrings?.isSome = true := by
        rw [isSome_multilineStrings?_iff]
        exact fresh _ rfl
      have notGiven : entries.findSome? Entry.multilineStrings? = none :=
        Option.not_isSome_iff_eq_none.mp unknown
      rw [Given.extend, if_neg unknown]
      simp [Given.ofEntries, List.findSome?_append, Entry.dialect?, Entry.multilineStrings?,
        notGiven]
  | other key =>
      simp [Given.extend, Given.ofEntries, List.findSome?_append, Entry.dialect?,
        Entry.multilineStrings?]

/-- An entry that gives what is known fails. -/
theorem extend_of_known
    (gives : entry.field? = some field)
    (known : field ∈ fields entries) :
    (Given.ofEntries entries).extend entry = .error (.duplicateField field) := by
  cases entry with
  | dialect dialect =>
      cases gives
      rw [Given.extend, if_pos (isSome_dialect?_iff.mpr known)]
  | multilineStrings allowed =>
      cases gives
      rw [Given.extend, if_pos (isSome_multilineStrings?_iff.mpr known)]
  | other key =>
      cases gives

theorem foldlM_extend_concat (given : Given) :
    (entries ++ [entry]).foldlM Given.extend given =
      entries.foldlM Given.extend given >>= fun reached => reached.extend entry := by
  rw [List.foldlM_append]
  simp only [List.foldlM_cons, List.foldlM_nil, bind_pure]

/-- Entries that give nothing twice are all gathered. -/
theorem foldlM_extend_of_nodup
    (once : (fields entries).Nodup) :
    entries.foldlM Given.extend {} = .ok (Given.ofEntries entries) := by
  -- What is known is what all entries before the last one give, so the last one is split off.
  induction entries using List.reverseRecOn with
  | nil =>
      rfl
  | append_singleton entries entry inductionHypothesis =>
      rw [fields_concat, List.nodup_append] at once
      obtain ⟨onceBefore, -, apart⟩ := once
      have fresh (field : String) (gives : entry.field? = some field) :
          field ∉ fields entries := by
        intro known
        exact apart field known field (by simp [gives]) rfl
      rw [foldlM_extend_concat, inductionHypothesis onceBefore]
      exact extend_of_fresh fresh

/-- An entry behind which a setting is given twice gives one that is known. -/
theorem exists_known_of_again
    (once : (fields entries).Nodup)
    (again : ¬ (fields (entries ++ [entry])).Nodup) :
    ∃ field, entry.field? = some field ∧ field ∈ fields entries := by
  rw [fields_concat] at again
  cases gives : entry.field? with
  | none =>
      rw [gives, Option.toList_none, List.append_nil] at again
      exact absurd once again
  | some field =>
      refine ⟨field, rfl, ?_⟩
      by_contra fresh
      rw [gives, Option.toList_some] at again
      exact again (once.append (List.nodup_singleton field) (by simpa using fresh))

/-- The first entry that gives something again is where gathering fails. -/
theorem foldlM_extend_of_not_nodup
    (again : ¬ (fields entries).Nodup) :
    ∃ field,
      2 ≤ (fields entries).count field ∧
        entries.foldlM Given.extend {} = .error (.duplicateField field) := by
  induction entries using List.reverseRecOn with
  | nil =>
      exact absurd List.nodup_nil again
  | append_singleton entries entry inductionHypothesis =>
      rw [foldlM_extend_concat, fields_concat]
      by_cases once : (fields entries).Nodup
      · obtain ⟨field, gives, known⟩ := exists_known_of_again once again
        refine ⟨field, ?_, ?_⟩
        · have before : 1 ≤ (fields entries).count field :=
            List.count_pos_iff.mpr known
          rw [List.count_append, gives, Option.toList_some, List.count_singleton_self]
          exact Nat.add_le_add_right before 1
        · rw [foldlM_extend_of_nodup once]
          exact extend_of_known gives known
      · obtain ⟨field, twice, failed⟩ := inductionHypothesis once
        refine ⟨field, ?_, ?_⟩
        · rw [List.count_append]
          exact Nat.le_add_right_of_le twice
        · rw [failed]
          rfl

end Gathering

section Reading

variable {tail blanks text : List Char} {dialect : Dialect} {allowed : Bool}
variable {entry : Entry} {entries : List Entry}

theorem takes_readDialect
    (before : Blanks blanks)
    (form : StringForm text dialect.code) :
    readDialect.Takes (blanks ++ text) dialect :=
  Reader.takes_name before form (Dialect.ofCode?_code dialect)

theorem takes_boolean
    (before : Blanks blanks)
    (form : BooleanForm text allowed) :
    Reader.boolean.Takes (blanks ++ text) allowed := by
  cases form with
  | true =>
      refine Reader.takes_dispatch before rfl ?_
      rw [if_pos rfl]
      exact fun _ _ => (Reader.takesBefore_expectWord _).bind_pure _
  | false =>
      refine Reader.takes_dispatch before rfl ?_
      rw [if_neg (by decide), if_pos rfl]
      exact fun _ _ => (Reader.takesBefore_expectWord _).bind_pure _

/-- A setting that is given again is refused whatever stands behind its key. -/
theorem meets_failDuplicate
    {α : Type}
    (field : String) :
    (failDuplicate field : Reader α).Meets tail text (.error (.duplicateField field)) := by
  intro place
  obtain ⟨after, passed⟩ :
      ∃ after, Reader.skipBlanks.run ⟨place, text ++ tail⟩ = .ok ((), after) :=
    ⟨_, rfl⟩
  simp only [failDuplicate, Reader.run_bind, passed, Reader.peek]
  split <;> exact ⟨_, rfl⟩

theorem ends_of_behindMember
    (behind : Reader.BehindMember tail) :
    Numeral.Ends tail := by
  obtain ⟨blanks, mark, later, before, listed, rfl⟩ := behind
  refine Tree.ends_of_mark before ?_
  simp only [List.mem_cons, List.not_mem_nil, or_false] at listed
  rcases listed with rfl | rfl <;> decide

/-- A member adds to what is given, or fails if it gives what is known. -/
theorem meets_readMember
    {key : String}
    (form : EntryForm key text entry)
    (behind : Reader.BehindMember tail)
    (given : Given) :
    (readMember given key).Meets tail text (given.extend entry) := by
  cases form with
  | dialect before after named =>
      rw [readMember, if_pos rfl, Given.extend]
      split
      · exact meets_failDuplicate "dialect"
      · exact Reader.takesBefore_colon_bind before (takes_readDialect after named).before.bind_pure
  | multilineStrings before after form =>
      rw [readMember, if_neg (by decide), if_pos rfl, Given.extend]
      split
      · exact meets_failDuplicate "multiline_strings"
      · exact Reader.takesBefore_colon_bind before (takes_boolean after form).before.bind_pure
  | other notDialect notMultilineStrings before after shape =>
      rw [readMember, if_neg notDialect, if_neg notMultilineStrings, Given.extend]
      have skipped := takesBefore_skipValue shape after (ends_of_behindMember behind)
      exact Reader.takesBefore_colon_bind before skipped.bind_pure

section Lists

variable {given result : Given} {after later : List Char}

theorem takesBefore_readListEnd (blanksBefore : Blanks blanks) :
    readListEnd.TakesBefore tail (blanks ++ [']']) () := by
  refine Reader.takesBefore_dispatch blanksBefore rfl rfl ?_
  rw [if_pos rfl]
  exact (Reader.takes_skip [']']).before

theorem takesBefore_readSecond
    (blanksBefore : Blanks blanks)
    (form : BooleanForm text allowed)
    (blanksAfter : Blanks after) :
    (readSecond given).TakesBefore tail (blanks ++ (text ++ (after ++ [']'])))
      { given with multilineStrings? := some allowed } := by
  have taken :
      (do
        let allowed ← Reader.boolean
        readListEnd
        pure { given with multilineStrings? := some allowed }).TakesBefore tail
        (text ++ (after ++ [']'])) { given with multilineStrings? := some allowed } :=
    -- The blanks in front are passed over before the boolean is looked at.
    (takes_boolean blanks_nil form).before.bind (takesBefore_readListEnd blanksAfter).bind_pure
  cases form with
  | true =>
      refine Reader.takesBefore_dispatch blanksBefore rfl rfl ?_
      rw [if_neg (by decide)]
      exact taken
  | false =>
      refine Reader.takesBefore_dispatch blanksBefore rfl rfl ?_
      rw [if_neg (by decide)]
      exact taken

theorem takesBefore_readAfterFirst_close (blanksBefore : Blanks blanks) :
    (readAfterFirst given).TakesBefore tail (blanks ++ [']']) given := by
  refine Reader.takesBefore_dispatch blanksBefore rfl rfl ?_
  rw [if_pos rfl]
  exact Reader.takesBefore_skipOne_bind ']' (Reader.takes_pure given).before

theorem takesBefore_readAfterFirst
    (blanksBefore : Blanks blanks)
    (taken : (readSecond given).TakesBefore tail later result) :
    (readAfterFirst given).TakesBefore tail (blanks ++ ',' :: later) result := by
  refine Reader.takesBefore_dispatch blanksBefore rfl rfl ?_
  rw [if_neg (by decide), if_pos rfl]
  exact Reader.takesBefore_skipOne_bind ',' taken

/-- A list that does not end at once has a dialect in front of what stands behind it. -/
theorem takesBefore_readList_dialect
    (blanksBefore : Blanks blanks)
    (named : StringForm text dialect.code)
    (taken : (readAfterFirst { dialect? := some dialect }).TakesBefore tail later result) :
    readList.TakesBefore tail (blanks ++ (text ++ later)) result := by
  have read :
      (do
        let dialect ← readDialect
        readAfterFirst { dialect? := some dialect }).TakesBefore tail (text ++ later) result :=
    (takes_readDialect blanks_nil named).before.bind taken
  cases named with
  | quoted characters =>
      refine Reader.takesBefore_dispatch blanksBefore rfl rfl ?_
      rw [if_neg (by decide)]
      exact read

/-- A list is read up to its end, wherever it breaks off. -/
theorem takesBefore_readList
    (form : ListForm text entries) :
    readList.TakesBefore tail text (Given.ofEntries entries) := by
  cases form with
  | empty before =>
      refine Reader.takesBefore_dispatch before rfl rfl ?_
      rw [if_pos rfl]
      exact Reader.takesBefore_skipOne_bind ']' (Reader.takes_pure _).before
  | dialect before named after =>
      exact takesBefore_readList_dialect before named (takesBefore_readAfterFirst_close after)
  | both before named between behind form after =>
      exact takesBefore_readList_dialect before named
        (takesBefore_readAfterFirst between (takesBefore_readSecond behind form after))

/-- A list gives nothing twice. -/
theorem nodup_fields_of_listForm
    (form : ListForm text entries) :
    (fields entries).Nodup := by
  cases form <;> simp [fields, Entry.field?]

end Lists

/-- Settings are read up to the first entry that gives something again. -/
theorem meets_read
    (form : DocumentForm text entries)
    (before : Blanks blanks) :
    read.Meets tail (blanks ++ text) ((entries.foldlM Given.extend {}).map ofGiven) := by
  cases form with
  | object form =>
      obtain ⟨rest, rfl⟩ := form.exists_cons
      have met :
          (Reader.members readMember {}).Meets tail rest (entries.foldlM Given.extend {}) :=
        Reader.meets_members (fun _ _ _ _ _ one behind => meets_readMember one behind _) form
      refine Reader.meets_dispatch before rfl ?_
      rw [if_pos rfl]
      exact Reader.meets_skipOne_bind '{' (met.map ofGiven)
  | list form =>
      rw [foldlM_extend_of_nodup (nodup_fields_of_listForm form)]
      refine Reader.takesBefore_dispatch before rfl rfl ?_
      rw [if_neg (by decide), if_pos rfl]
      exact Reader.takesBefore_skipOne_bind '[' (takesBefore_readList form).bind_pure

/-- What reading a whole file leads to, its places aside, is what its entries lead to. -/
theorem mapError_cause_readAll
    {text : String}
    (form : FileForm DocumentForm text.toList entries) :
    (read.readAll text).mapError Failure.cause =
      (entries.foldlM Given.extend {}).map ofGiven := by
  generalize whole : text.toList = characters at form
  cases form with
  | value before document after =>
      rw [← List.append_assoc] at whole
      exact Reader.readAll_of_meets (meets_read document before) after whole

end Reading

section Loading

variable {text : String} {entries : List Entry}

theorem ofJson_of_nodup
    (form : FileForm DocumentForm text.toList entries)
    (once : (fields entries).Nodup) :
    ofJson text = .ok (ofGiven (Given.ofEntries entries)) := by
  have met := mapError_cause_readAll form
  rw [foldlM_extend_of_nodup once] at met
  rw [ofJson]
  cases outcome : read.readAll text with
  | ok settings =>
      rw [outcome] at met
      cases met
      rfl
  | error failure =>
      rw [outcome] at met
      cases met

theorem ofJson_of_not_nodup
    (form : FileForm DocumentForm text.toList entries)
    (again : ¬ (fields entries).Nodup) :
    ∃ field failure,
      2 ≤ (fields entries).count field ∧
        failure.cause = .duplicateField field ∧
        ofJson text = .error (.malformed failure) := by
  obtain ⟨field, twice, failed⟩ := foldlM_extend_of_not_nodup again
  have met := mapError_cause_readAll form
  rw [failed] at met
  cases outcome : read.readAll text with
  | ok settings =>
      rw [outcome] at met
      cases met
  | error failure =>
      rw [outcome] at met
      refine ⟨field, failure, twice, Except.error.inj met, ?_⟩
      rw [ofJson, outcome]
      rfl

/--
What a settings file leads to depends only on what it says of the two settings, not on
where and in which form it says it or what else it holds.  Unless it gives a setting
twice it is loaded, and a request can then choose another dialect and rule out strings
over several lines.  A file that gives a setting twice is malformed.
-/
theorem loadSettings_of_form
    (form : FileForm DocumentForm text.toList entries) :
    ((fields entries).Nodup →
        ∃ settings,
          (∀ others, Follow entries others ↔ others = settings) ∧
            ofJson text = .ok settings ∧
            ∀ (request : Command.Request) (files : Files) (path : String),
              request.settingsFile? = some path →
              files.readText path = .ok text →
              Command.loadSettings request files =
                .ok {
                  dialect := request.dialect?.getD settings.dialect
                  multilineStrings :=
                    if request.singleLineStrings then false else settings.multilineStrings }) ∧
      (¬ (fields entries).Nodup →
        ∃ field failure,
          2 ≤ (fields entries).count field ∧
            failure.cause = .duplicateField field ∧
            ofJson text = .error (.malformed failure)) := by
  refine ⟨fun once => ?_, ofJson_of_not_nodup form⟩
  have loaded := ofJson_of_nodup form once
  have follow := follow_ofGiven once
  refine ⟨_, fun others => ⟨fun followToo => followToo.unique follow, ?_⟩, loaded, ?_⟩
  · rintro rfl
    exact follow
  · intro request files path named held
    simp only [Command.loadSettings, named, held, loaded, Command.Request.adjust]
    cases request.singleLineStrings <;> simp

/--
A file that gives one setting: a value that is ignored holds a key like a setting's and
half of a character, and the key of the setting has an escaped letter.
-/
def scatteredText : String :=
  "\x7b\"note\":\x7b\"dialect\":\"\\ud800\"\x7d, \"note\":null,\"\\u0064ialect\"\n:\t\"hash\"\x7d"

/-- A file that gives the dialect twice. -/
def insistentText : String :=
  "\x7b\"dialect\":\"hash\",\"dialect\":\"hash\"\x7d"

theorem form_scatteredText :
    FileForm DocumentForm scatteredText.toList
      [.other "note", .other "note", .dialect .hash] := by
  have space : Blanks [' '] := by
    decide
  have newLine : Blanks ['\n'] := by
    decide
  have tab : Blanks ['\t'] := by
    decide
  have note : StringForm ['"', 'n', 'o', 't', 'e', '"'] "note" :=
    stringForm_self "note" (by simp)
  have code : CodeUnit ['d', '8', '0', '0'] (13 * 4096 + 8 * 256 + 0 * 16 + 0) :=
    .digits (.inl rfl) (.inl rfl) (.inl rfl) (.inl rfl)
  have half : Quoted.Shape ['"', '\\', 'u', 'd', '8', '0', '0', '"'] :=
    .quoted (List.forall_mem_singleton.mpr (.unicode code))
  have innerKey : Quoted.Shape ['"', 'd', 'i', 'a', 'l', 'e', 'c', 't', '"'] :=
    Quoted.shape_of_stringForm (stringForm_self "dialect" (by simp))
  have ignored : Skip.Shape none _ :=
    .filled (.object blanks_nil innerKey blanks_nil blanks_nil) (.string half)
      (@Skip.Shape.close .object _ blanks_nil)
  have first : EntryForm "note" _ (.other "note") :=
    .other (by decide) (by decide) blanks_nil blanks_nil ignored
  have second : EntryForm "note" (':' :: ['n', 'u', 'l', 'l']) (.other "note") :=
    .other (by decide) (by decide) blanks_nil blanks_nil (.word (by decide))
  have letterCode : CodeUnit ['0', '0', '6', '4'] (0 * 4096 + 0 * 256 + 6 * 16 + 4) :=
    .digits (.inl rfl) (.inl rfl) (.inl rfl) (.inl rfl)
  have letter : CharForm ['\\', 'u', '0', '0', '6', '4'] 'd' :=
    .unicode letterCode
  have behind : CharsForm ['i', 'a', 'l', 'e', 'c', 't'] ['i', 'a', 'l', 'e', 'c', 't'] :=
    charsForm_self (by simp)
  have characters :
      CharsForm ['\\', 'u', '0', '0', '6', '4', 'i', 'a', 'l', 'e', 'c', 't']
        "dialect".toList :=
    .cons letter behind
  have key :
      StringForm ['"', '\\', 'u', '0', '0', '6', '4', 'i', 'a', 'l', 'e', 'c', 't', '"']
        "dialect" :=
    .quoted characters
  have hash : StringForm ['"', 'h', 'a', 's', 'h', '"'] Dialect.hash.code :=
    stringForm_self "hash" (by simp)
  have third : EntryForm "dialect" _ (.dialect .hash) :=
    .dialect newLine tab hash
  have object : ObjectForm EntryForm _ [.other "note", .other "note", .dialect .hash] :=
    .members blanks_nil note first
      (.next blanks_nil space note second
        (.next blanks_nil blanks_nil key third (.close blanks_nil)))
  exact FileForm.value blanks_nil (DocumentForm.object object) blanks_nil

theorem form_insistentText :
    FileForm DocumentForm insistentText.toList [.dialect .hash, .dialect .hash] := by
  have key : StringForm ['"', 'd', 'i', 'a', 'l', 'e', 'c', 't', '"'] "dialect" :=
    stringForm_self "dialect" (by simp)
  have hash : StringForm ['"', 'h', 'a', 's', 'h', '"'] Dialect.hash.code :=
    stringForm_self "hash" (by simp)
  have gives : EntryForm "dialect" _ (.dialect .hash) :=
    .dialect blanks_nil blanks_nil hash
  have object : ObjectForm EntryForm _ [.dialect .hash, .dialect .hash] :=
    .members blanks_nil key gives (.next blanks_nil blanks_nil key gives (.close blanks_nil))
  exact FileForm.value blanks_nil (DocumentForm.object object) blanks_nil

/-- What is ignored chooses no dialect; what is said twice is refused even if it is the same. -/
theorem loadSettings_of_form_scattered :
    FileForm DocumentForm scatteredText.toList
        [.other "note", .other "note", .dialect .hash] ∧
      Command.loadSettings { settingsFile? := some "settings", singleLineStrings := true }
          (Files.ofList [("settings", Text.encode scatteredText)]) =
        .ok { dialect := .hash, multilineStrings := false } ∧
      ∃ failure,
        failure.cause = .duplicateField "dialect" ∧
          ofJson insistentText = .error (.malformed failure) := by
  refine ⟨form_scatteredText, ?_, ?_⟩
  · obtain ⟨settings, follow, -, loaded⟩ :=
      (loadSettings_of_form form_scatteredText).1 (by decide)
    have held :
        (Files.ofList [("settings", Text.encode scatteredText)]).readText "settings" =
          .ok scatteredText := by
      simp [Files.readText, Files.ofList, bind, Except.bind, Text.decode?_encode]
    have chosen : settings.dialect = .hash :=
      ((follow settings).mpr rfl).dialect .hash (by decide)
    rw [loaded { settingsFile? := some "settings", singleLineStrings := true } _ _ rfl held,
      chosen]
    rfl
  · obtain ⟨field, failure, twice, cause, failed⟩ :=
      (loadSettings_of_form form_insistentText).2 (by decide)
    have given : field ∈ ["dialect", "dialect"] :=
      List.count_pos_iff.mp (Nat.lt_of_lt_of_le Nat.zero_lt_two twice)
    have same : field = "dialect" := by
      simpa using given
    exact ⟨failure, same ▸ cause, failed⟩

end Loading

end Settings

end PinkyLex
