import Mathlib.Data.List.Forall2
import PinkyLex.Command.Run
import PinkyLex.Proofs.JsonWritten

namespace PinkyLex.Command

/-!
# What a run says

A run on a source file goes through four stages.  If one fails, the error channel says
which and why; if none does, the output has the tokens of the source in the format that
was asked for.
-/

/-- The stages of a run on a source file. -/
inductive Stage where
  | settings
  | vocabulary
  | source
  | scan
  deriving Repr, DecidableEq

namespace Stage

/-- All stages, in the order in which a run goes through them. -/
def all : List Stage :=
  [settings, vocabulary, source, scan]

/-- The stages that a run goes through before a stage. -/
def before (stage : Stage) : List Stage :=
  all.takeWhile (· != stage)

/-- The files that a run reads up to the end of a stage. -/
def filesRead (request : Request) : Stage → List String
  | settings =>
      request.settingsFile?.toList
  | vocabulary =>
      request.settingsFile?.toList ++ request.vocabularyFile?.toList
  | source | scan =>
      request.settingsFile?.toList ++ request.vocabularyFile?.toList ++ request.file?.toList

end Stage

/-- The source that a run scans. -/
def loadSource (path : String) (files : Files) : Except Report String :=
  (files.readText path).mapError (.ofFileError ("read source file '" ++ path ++ "'"))

/-- What the error channel says about a stage that fails, and why it fails. -/
inductive Blamed (platform : Platform) (request : Request) (files : Files) (path : String) :
    Stage → String → Prop where
  | settingsUnread {file : String} {reason : FileError} :
      request.settingsFile? = some file →
      files.readText file = .error reason →
      Blamed platform request files path .settings
        ("Error: " ++ ("read '" ++ file ++ "': " ++ reason.message) ++ "\n\nCaused by:\n    " ++
          Report.indented 4 reason.message ++ "\n")
  | settingsMalformed {file text : String} {failure : Json.Failure} :
      request.settingsFile? = some file →
      files.readText file = .ok text →
      Settings.ofJson text = .error (.malformed failure) →
      Blamed platform request files path .settings
        ("Error: " ++ ("invalid JSON: " ++ failure.message) ++ "\n\nCaused by:\n    " ++
          Report.indented 4 failure.message ++ "\n")
  | vocabularyUnread {file : String} {reason : FileError} :
      request.vocabularyFile? = some file →
      files.readText file = .error reason →
      Blamed platform request files path .vocabulary
        ("Error: " ++ ("read keyword table '" ++ file ++ "'") ++ "\n\nCaused by:\n    " ++
          Report.indented 4 reason.message ++ "\n")
  | vocabularyMalformed {file text : String} {failure : Json.Failure} :
      request.vocabularyFile? = some file →
      files.readText file = .ok text →
      Vocabulary.ofJsonIn platform.order text = .error (.malformed failure) →
      Blamed platform request files path .vocabulary
        ("Error: " ++ ("load keyword table '" ++ file ++ "'") ++ "\n\nCaused by:\n    0: " ++
          Report.indented 7 ("invalid JSON: " ++ failure.message) ++ "\n    1: " ++
          Report.indented 7 failure.message ++ "\n")
  | vocabularyDefective {file text : String} {defect : Vocabulary.Defect} :
      request.vocabularyFile? = some file →
      files.readText file = .ok text →
      Vocabulary.ofJsonIn platform.order text = .error (.defective defect) →
      Blamed platform request files path .vocabulary
        ("Error: " ++ ("load keyword table '" ++ file ++ "'") ++ "\n\nCaused by:\n    " ++
          Report.indented 4 defect.message ++ "\n")
  | sourceUnread {reason : FileError} :
      files.readText path = .error reason →
      Blamed platform request files path .source
        ("Error: " ++ ("read source file '" ++ path ++ "'") ++ "\n\nCaused by:\n    " ++
          Report.indented 4 reason.message ++ "\n")
  | scanAborted
      {settings : Settings}
      {vocabulary : Vocabulary}
      {source : String}
      {fault : Fault} :
      loadSettings request files = .ok settings →
      loadVocabulary platform request files = .ok vocabulary →
      loadSource path files = .ok source →
      scan settings vocabulary source = .error fault →
      Blamed platform request files path .scan
        (platform.draw (fault.withSource path source) ++ "\n" ++ "Error: scan failed\n")

/-- How a token is written as an object of a data file. -/
inductive ObjectOf (token : Token) : String → Prop where
  | members {kind lexeme : String} :
      Json.StringForm kind.toList token.kind.code →
      Json.StringForm lexeme.toList token.lexeme →
      ObjectOf token
        ("  \x7b\n" ++
          "    \"kind\": " ++ kind ++ ",\n" ++
          "    \"lexeme\": " ++ lexeme ++ ",\n" ++
          "    \"line\": " ++ toString token.line ++ "\n" ++
          "  \x7d")

/-- How tokens are written in a format. -/
inductive Dumped : Format → List Token → String → Prop where
  | lines (tokens : List Token) :
      Dumped .text tokens
        (String.join (tokens.map fun token =>
          token.kind.name ++ " '" ++ token.lexeme ++ "' line " ++ toString token.line ++ "\n"))
  | noObjects :
      Dumped .json [] "[]\n"
  | objects {tokens : List Token} {objects : List String} :
      tokens ≠ [] →
      List.Forall₂ ObjectOf tokens objects →
      Dumped .json tokens ("[\n" ++ ",\n".intercalate objects ++ "\n]" ++ "\n")

theorem objectOf_toJson (token : Token) :
    ObjectOf token token.toJson :=
  .members (Json.stringForm_written token.kind.code) (Json.stringForm_written token.lexeme)

/-- Tokens are dumped in the format asked for. -/
theorem dumped_dump
    (format : Format)
    (tokens : List Token) :
    Dumped format tokens (dump format tokens) := by
  cases format with
  | text =>
      exact .lines tokens
  | json =>
      cases tokens with
      | nil =>
          exact .noObjects
      | cons token tokens =>
          refine .objects (List.cons_ne_nil token tokens) ?_
          rw [List.forall₂_map_right_iff, List.forall₂_same]
          exact fun token _ => objectOf_toJson token

section Blame

variable {platform : Platform} {request : Request} {files : Files} {path words : String}

theorem loadSource_eq_ok_iff
    {source : String} :
    loadSource path files = .ok source ↔ files.readText path = .ok source := by
  rw [loadSource]
  cases files.readText path with
  | error reason =>
      exact iff_of_false (fun same => nomatch same) (fun same => nomatch same)
  | ok text =>
      constructor <;> rintro ⟨⟩ <;> rfl

/-- The settings are to blame if they cannot be loaded, in the words of the report on that. -/
theorem blamed_settings_iff :
    Blamed platform request files path .settings words ↔
      ∃ report, loadSettings request files = .error report ∧ report.toText = words := by
  constructor
  · intro blamed
    cases blamed with
    | settingsUnread named unread =>
        refine ⟨_, ?_, Report.toText_of_cause _ _⟩
        simp only [loadSettings, named, unread]
        rfl
    | settingsMalformed named read malformed =>
        refine ⟨_, ?_, Report.toText_of_cause _ _⟩
        simp only [loadSettings, named, read, malformed]
        rfl
  · rintro ⟨report, failed, rfl⟩
    unfold loadSettings at failed
    cases named : request.settingsFile? with
    | none =>
        simp [named] at failed
    | some file =>
        simp only [named] at failed
        cases read : files.readText file with
        | error reason =>
            simp only [read, Except.error.injEq] at failed
            subst failed
            exact Report.toText_of_cause _ _ ▸ .settingsUnread named read
        | ok text =>
            simp only [read] at failed
            cases loaded : Settings.ofJson text with
            | ok settings =>
                simp [loaded] at failed
            | error error =>
                obtain ⟨failure, rfl⟩ := Settings.malformed_of_ofJson loaded
                simp only [loaded, Except.error.injEq] at failed
                subst failed
                exact Report.toText_of_cause _ _ ▸ .settingsMalformed named read loaded

/-- The vocabulary is to blame if it cannot be loaded, in the words of the report on that. -/
theorem blamed_vocabulary_iff :
    Blamed platform request files path .vocabulary words ↔
      ∃ report, loadVocabulary platform request files = .error report ∧ report.toText = words := by
  constructor
  · intro blamed
    cases blamed with
    | vocabularyUnread named unread =>
        refine ⟨_, ?_, Report.toText_of_cause _ _⟩
        simp only [loadVocabulary, named, unread]
        rfl
    | vocabularyMalformed named read malformed =>
        refine ⟨_, ?_, Report.toText_of_causes _ _ _⟩
        simp only [loadVocabulary, named, read, malformed]
        rfl
    | vocabularyDefective named read defective =>
        refine ⟨_, ?_, Report.toText_of_cause _ _⟩
        simp only [loadVocabulary, named, read, defective]
        rfl
  · rintro ⟨report, failed, rfl⟩
    unfold loadVocabulary at failed
    cases named : request.vocabularyFile? with
    | none =>
        simp [named] at failed
    | some file =>
        simp only [named] at failed
        cases read : files.readText file with
        | error reason =>
            simp only [read, Except.error.injEq] at failed
            subst failed
            exact Report.toText_of_cause _ _ ▸ .vocabularyUnread named read
        | ok text =>
            simp only [read] at failed
            cases loaded : Vocabulary.ofJsonIn platform.order text with
            | ok vocabulary =>
                rw [loaded] at failed
                cases failed
            | error error =>
                rw [loaded] at failed
                cases failed
                rcases Vocabulary.malformed_or_defective_of_ofJsonIn loaded with
                  ⟨failure, rfl⟩ | ⟨defect, rfl⟩
                · exact Report.toText_of_causes _ _ _ ▸ .vocabularyMalformed named read loaded
                · exact Report.toText_of_cause _ _ ▸ .vocabularyDefective named read loaded

/-- The source is to blame if it cannot be read, in the words of the report on that. -/
theorem blamed_source_iff :
    Blamed platform request files path .source words ↔
      ∃ report, loadSource path files = .error report ∧ report.toText = words := by
  constructor
  · intro blamed
    cases blamed with
    | sourceUnread unread =>
        refine ⟨_, ?_, Report.toText_of_cause _ _⟩
        rw [loadSource, unread]
        rfl
  · rintro ⟨report, failed, rfl⟩
    cases read : files.readText path with
    | ok source =>
        rw [loadSource_eq_ok_iff.mpr read] at failed
        cases failed
    | error reason =>
        rw [loadSource, read] at failed
        cases failed
        exact Report.toText_of_cause _ _ ▸ .sourceUnread read

end Blame

end PinkyLex.Command
