import PinkyLex.Proofs.RunReports
import PinkyLex.Proofs.VerboseRequests
import PinkyLex.Proofs.VocabularyChange
import PinkyLex.Proofs.VocabularyLoading

namespace PinkyLex.Command

/-!
# Stages of a run

A run on a source file ends with the first of its stages that fails, whatever the stages
behind it would have read.  It writes the tokens of the whole source or none of them,
whatever is on the standard input and whatever is logged.  The platform it runs on only
matters to what it says about a failure.
-/

/-- What a scan that ended with a fault says. -/
def scanComplaint (platform : Platform) (path source : String) (fault : Fault) : String :=
  platform.draw (fault.withSource path source) ++ "\n" ++
    Report.toText { message := "scan failed" }

/-- The ways in which a run on a source file can go. -/
inductive Course (platform : Platform) (request : Request) (files : Files) (path : String) :
    Outcome → Prop where
  | noSettings {report : Report} :
      loadSettings request files = .error report →
      Course platform request files path (.failed report)
  | noVocabulary {settings : Settings} {report : Report} :
      loadSettings request files = .ok settings →
      loadVocabulary platform request files = .error report →
      Course platform request files path (.failed report)
  | noSource {settings : Settings} {vocabulary : Vocabulary} {report : Report} :
      loadSettings request files = .ok settings →
      loadVocabulary platform request files = .ok vocabulary →
      loadSource path files = .error report →
      Course platform request files path (.failed report)
  | aborted
      {settings : Settings}
      {vocabulary : Vocabulary}
      {source : String}
      {fault : Fault}
      {log : List String} :
      loadSettings request files = .ok settings →
      loadVocabulary platform request files = .ok vocabulary →
      loadSource path files = .ok source →
      scan settings vocabulary source = .error fault →
      Course platform request files path
        { exitCode := 1, errors := scanComplaint platform path source fault, log := log }
  | finished
      {settings : Settings}
      {vocabulary : Vocabulary}
      {source : String}
      {tokens : List Token}
      {log : List String} :
      loadSettings request files = .ok settings →
      loadVocabulary platform request files = .ok vocabulary →
      loadSource path files = .ok source →
      scan settings vocabulary source = .ok tokens →
      Course platform request files path
        { exitCode := 0, output := dump (request.format?.getD .text) tokens, log := log }

section Preparation

variable {platform : Platform} {request : Request} {files : Files}
variable {settings : Settings} {report : Report}

theorem prepare_of_noSettings
    (failed : loadSettings request files = .error report) :
    prepare platform request files = .error report := by
  rw [prepare, failed]
  rfl

theorem prepare_of_noVocabulary
    (loaded : loadSettings request files = .ok settings)
    (failed : loadVocabulary platform request files = .error report) :
    prepare platform request files = .error report := by
  rw [prepare, loaded, failed]
  rfl

theorem prepare_of_loaded
    {vocabulary : Vocabulary}
    (loaded : loadSettings request files = .ok settings)
    (loadedToo : loadVocabulary platform request files = .ok vocabulary) :
    prepare platform request files = .ok (settings, vocabulary) := by
  rw [prepare, loaded, loadedToo]
  rfl

/-- A run that cannot be prepared ends with the report on that. -/
theorem fulfil_of_prepare_error
    (failed : prepare platform request files = .error report)
    (levelText? : Option String)
    (input : List UInt8) :
    fulfil platform request levelText? files input = .failed report := by
  rw [fulfil, failed]

end Preparation

section Courses

variable {platform : Platform} {request : Request} {files : Files} {path : String}
variable {outcome : Outcome}

/-- A run on a source file goes in one of these ways. -/
theorem course_fulfil
    (platform : Platform)
    (named : request.file? = some path)
    (levelText? : Option String)
    (files : Files)
    (input : List UInt8) :
    Course platform request files path (fulfil platform request levelText? files input) := by
  cases settingsLoaded : loadSettings request files with
  | error report =>
      rw [fulfil_of_prepare_error (prepare_of_noSettings settingsLoaded)]
      exact .noSettings settingsLoaded
  | ok settings =>
      cases vocabularyLoaded : loadVocabulary platform request files with
      | error report =>
          rw [fulfil_of_prepare_error (prepare_of_noVocabulary settingsLoaded vocabularyLoaded)]
          exact .noVocabulary settingsLoaded vocabularyLoaded
      | ok vocabulary =>
          have prepared := prepare_of_loaded settingsLoaded vocabularyLoaded
          cases read : files.readText path with
          | error reason =>
              simp only [fulfil, prepared, named, read]
              refine .noSource settingsLoaded vocabularyLoaded ?_
              rw [loadSource, read]
              rfl
          | ok source =>
              have sourceLoaded := loadSource_eq_ok_iff.mpr read
              simp only [fulfil, prepared, named, read, scanSource]
              cases scanned : (Scan.ofSource settings vocabulary source).result with
              | error fault =>
                  exact .aborted settingsLoaded vocabularyLoaded sourceLoaded scanned
              | ok tokens =>
                  exact .finished settingsLoaded vocabularyLoaded sourceLoaded scanned

theorem not_blamed_settings
    {settings : Settings}
    (loaded : loadSettings request files = .ok settings)
    (words : String) :
    ¬ Blamed platform request files path .settings words := by
  rw [blamed_settings_iff, loaded]
  rintro ⟨report, ⟨⟩, -⟩

theorem not_blamed_vocabulary
    {vocabulary : Vocabulary}
    (loaded : loadVocabulary platform request files = .ok vocabulary)
    (words : String) :
    ¬ Blamed platform request files path .vocabulary words := by
  rw [blamed_vocabulary_iff, loaded]
  rintro ⟨report, ⟨⟩, -⟩

theorem not_blamed_source
    {source : String}
    (loaded : loadSource path files = .ok source)
    (words : String) :
    ¬ Blamed platform request files path .source words := by
  rw [blamed_source_iff, loaded]
  rintro ⟨report, ⟨⟩, -⟩

theorem not_blamed_scan
    {settings : Settings}
    {vocabulary : Vocabulary}
    {source : String}
    {tokens : List Token}
    (settingsLoaded : loadSettings request files = .ok settings)
    (vocabularyLoaded : loadVocabulary platform request files = .ok vocabulary)
    (sourceLoaded : loadSource path files = .ok source)
    (scanned : scan settings vocabulary source = .ok tokens)
    (words : String) :
    ¬ Blamed platform request files path .scan words := by
  intro blamed
  cases blamed with
  | scanAborted settingsToo vocabularyToo sourceToo failed =>
      cases settingsLoaded.symm.trans settingsToo
      cases vocabularyLoaded.symm.trans vocabularyToo
      cases sourceLoaded.symm.trans sourceToo
      cases scanned.symm.trans failed

/-- An outcome that leaves nothing but what the first stage that fails has to say. -/
structure EndsWith
    (platform : Platform)
    (request : Request)
    (files : Files)
    (path : String)
    (outcome : Outcome)
    (stage : Stage) : Prop where
  exitCode : outcome.exitCode = 1
  output : outcome.output = ""
  errors : Blamed platform request files path stage outcome.errors
  first : ∀ earlier ∈ stage.before, ∀ words, ¬ Blamed platform request files path earlier words

/-- An outcome with the tokens of a whole source, as the settings and the vocabulary have it. -/
structure Completes
    (platform : Platform)
    (request : Request)
    (files : Files)
    (path : String)
    (outcome : Outcome) : Prop where
  exitCode : outcome.exitCode = 0
  errors : outcome.errors = ""
  output :
    ∃ settings vocabulary source tokens,
      loadSettings request files = .ok settings ∧
        loadVocabulary platform request files = .ok vocabulary ∧
        loadSource path files = .ok source ∧
        scan settings vocabulary source = .ok tokens ∧
        Dumped (request.format?.getD .text) tokens outcome.output

/-- A run writes the tokens of the whole source, or it ends with a stage and writes none. -/
theorem Course.completes_or_endsWith
    (course : Course platform request files path outcome) :
    Completes platform request files path outcome ∨
      ∃ stage, EndsWith platform request files path outcome stage := by
  cases course with
  | noSettings failed =>
      refine .inr ⟨.settings, rfl, rfl, blamed_settings_iff.mpr ⟨_, failed, rfl⟩, ?_⟩
      simp [Stage.before, Stage.all]
  | noVocabulary settingsLoaded failed =>
      refine .inr ⟨.vocabulary, rfl, rfl, blamed_vocabulary_iff.mpr ⟨_, failed, rfl⟩, ?_⟩
      simpa [Stage.before, Stage.all] using not_blamed_settings settingsLoaded
  | noSource settingsLoaded vocabularyLoaded failed =>
      refine .inr ⟨.source, rfl, rfl, blamed_source_iff.mpr ⟨_, failed, rfl⟩, ?_⟩
      simpa [Stage.before, Stage.all] using
        ⟨not_blamed_settings settingsLoaded, not_blamed_vocabulary vocabularyLoaded⟩
  | aborted settingsLoaded vocabularyLoaded sourceLoaded scanned =>
      refine .inr ⟨.scan, rfl, rfl,
        .scanAborted settingsLoaded vocabularyLoaded sourceLoaded scanned, ?_⟩
      simpa [Stage.before, Stage.all] using
        ⟨not_blamed_settings settingsLoaded, not_blamed_vocabulary vocabularyLoaded,
          not_blamed_source sourceLoaded⟩
  | finished settingsLoaded vocabularyLoaded sourceLoaded scanned =>
      exact .inl ⟨rfl, rfl, _, _, _, _, settingsLoaded, vocabularyLoaded, sourceLoaded, scanned,
        dumped_dump _ _⟩

/-- A run fails if and only if one of its stages is to blame. -/
theorem Course.exitCode_eq_one_iff
    (course : Course platform request files path outcome) :
    outcome.exitCode = 1 ↔ ∃ stage words, Blamed platform request files path stage words := by
  constructor
  · intro failed
    rcases course.completes_or_endsWith with completes | ⟨stage, ends⟩
    · cases completes.exitCode.symm.trans failed
    · exact ⟨stage, _, ends.errors⟩
  · rintro ⟨stage, words, blamed⟩
    cases course with
    | noSettings | noVocabulary | noSource | aborted =>
        rfl
    | finished settingsLoaded vocabularyLoaded sourceLoaded scanned =>
        cases stage with
        | settings =>
            exact absurd blamed (not_blamed_settings settingsLoaded words)
        | vocabulary =>
            exact absurd blamed (not_blamed_vocabulary vocabularyLoaded words)
        | source =>
            exact absurd blamed (not_blamed_source sourceLoaded words)
        | scan =>
            exact absurd blamed
              (not_blamed_scan settingsLoaded vocabularyLoaded sourceLoaded scanned words)

end Courses

section Changes

variable {platform : Platform} {request : Request} {files others : Files} {path words : String}

theorem readText_of_agree
    (agree : others path = files path) :
    others.readText path = files.readText path := by
  rw [Files.readText, agree]
  rfl

theorem loadSettings_of_agree
    (agree : ∀ read ∈ request.settingsFile?.toList, others read = files read) :
    loadSettings request others = loadSettings request files := by
  unfold loadSettings
  cases given : request.settingsFile? with
  | none =>
      rfl
  | some path =>
      rw [given] at agree
      simp only [readText_of_agree (agree path List.mem_cons_self)]

theorem loadVocabulary_of_agree
    (platform : Platform)
    (agree : ∀ read ∈ request.vocabularyFile?.toList, others read = files read) :
    loadVocabulary platform request others = loadVocabulary platform request files := by
  unfold loadVocabulary
  cases given : request.vocabularyFile? with
  | none =>
      rfl
  | some path =>
      rw [given] at agree
      simp only [readText_of_agree (agree path List.mem_cons_self)]

/-- The settings are read in every stage or before it. -/
theorem agree_on_settings
    {stage : Stage}
    (agree : ∀ read ∈ stage.filesRead request, others read = files read) :
    ∀ read ∈ request.settingsFile?.toList, others read = files read := by
  intro read member
  refine agree read ?_
  cases stage <;> simp [Stage.filesRead, member]

/-- The source only matters to a run that is prepared. -/
theorem fulfil_of_prepare_eq
    (named : request.file? = some path)
    (prepared : prepare platform request others = prepare platform request files)
    (agree :
      ∀ settings vocabulary,
        prepare platform request files = .ok (settings, vocabulary) → others path = files path)
    (levelText? : Option String)
    (input : List UInt8) :
    fulfil platform request levelText? others input =
      fulfil platform request levelText? files input := by
  simp only [fulfil, prepared, named]
  cases loaded : prepare platform request files with
  | error report =>
      rfl
  | ok both =>
      simp only [readText_of_agree (agree both.1 both.2 loaded)]

/-- A run with a stage that is to blame is not changed by files that only later stages read. -/
theorem fulfil_of_agree
    {stage : Stage}
    (named : request.file? = some path)
    (blamed : Blamed platform request files path stage words)
    (agree : ∀ read ∈ stage.filesRead request, others read = files read)
    (levelText? : Option String)
    (input : List UInt8) :
    fulfil platform request levelText? others input =
      fulfil platform request levelText? files input := by
  have settingsSame := loadSettings_of_agree (agree_on_settings agree)
  cases stage with
  | settings =>
      -- The vocabulary may have changed, but a run without settings does not get that far.
      obtain ⟨report, failed, -⟩ := blamed_settings_iff.mp blamed
      have failedToo := settingsSame.trans failed
      rw [fulfil_of_prepare_error (prepare_of_noSettings failed),
        fulfil_of_prepare_error (prepare_of_noSettings failedToo)]
  | vocabulary =>
      have vocabularySame :
          loadVocabulary platform request others = loadVocabulary platform request files :=
        loadVocabulary_of_agree platform fun read member =>
          agree read (by simp [Stage.filesRead, member])
      refine fulfil_of_prepare_eq named (by rw [prepare, prepare, settingsSame, vocabularySame]) ?_
        levelText? input
      intro settings vocabulary prepared
      obtain ⟨report, failed, -⟩ := blamed_vocabulary_iff.mp blamed
      cases settingsLoaded : loadSettings request files with
      | error earlier =>
          cases (prepare_of_noSettings settingsLoaded).symm.trans prepared
      | ok chosen =>
          cases (prepare_of_noVocabulary settingsLoaded failed).symm.trans prepared
  | source | scan =>
      have vocabularySame :
          loadVocabulary platform request others = loadVocabulary platform request files :=
        loadVocabulary_of_agree platform fun read member =>
          agree read (by simp [Stage.filesRead, member])
      have sourceSame : others path = files path :=
        agree path (by simp [Stage.filesRead, named])
      exact fulfil_of_prepare_eq named (by rw [prepare, prepare, settingsSame, vocabularySame])
        (fun _ _ _ => sourceSame) levelText? input

/-- A run on a source file does not look at the standard input. -/
theorem fulfil_of_input
    (platform : Platform)
    (named : request.file? = some path)
    (levelText? : Option String)
    (files : Files)
    (input otherInput : List UInt8) :
    fulfil platform request levelText? files otherInput =
      fulfil platform request levelText? files input := by
  simp only [fulfil, named]

/-- What is logged changes neither the exit code of a run on a source file nor its output. -/
theorem fulfil_of_silent_eq
    {requestToo : Request}
    (platform : Platform)
    (alike : requestToo.silent = request.silent)
    (named : request.file? = some path)
    (levelText? levelTextToo? : Option String)
    (files : Files)
    (input : List UInt8) :
    (fulfil platform requestToo levelTextToo? files input).exitCode =
        (fulfil platform request levelText? files input).exitCode ∧
      (fulfil platform requestToo levelTextToo? files input).output =
        (fulfil platform request levelText? files input).output := by
  have prepared : prepare platform requestToo files = prepare platform request files := by
    rw [Request.eq_of_silent_eq alike]
    rfl
  have namedToo : requestToo.file? = some path := by
    rw [Request.eq_of_silent_eq alike]
    exact named
  have sameFormat : requestToo.format? = request.format? := by
    rw [Request.eq_of_silent_eq alike]
  simp only [fulfil, prepared, named, namedToo]
  cases prepare platform request files with
  | error report =>
      exact ⟨rfl, rfl⟩
  | ok loaded =>
      cases files.readText path with
      | error reason =>
          exact ⟨rfl, rfl⟩
      | ok source =>
          simp only [scanSource, sameFormat]
          cases (Scan.ofSource loaded.1 loaded.2 source).result <;> exact ⟨rfl, rfl⟩

/-- On another platform, vocabularies are loaded alike, though another entry may be blamed. -/
theorem loadVocabulary_of_platform
    (platform other : Platform)
    (request : Request)
    (files : Files) :
    match loadVocabulary platform request files, loadVocabulary other request files with
    | .ok vocabulary, .ok same =>
        ∀ word, vocabulary.find? word = same.find? word
    | .error _, .error _ =>
        True
    | _, _ =>
        False := by
  unfold loadVocabulary
  cases request.vocabularyFile? with
  | none =>
      exact fun _ => rfl
  | some file =>
      cases read : files.readText file with
      | error reason =>
          simp only [read]
      | ok text =>
          have alike := Vocabulary.ofJsonIn_order platform.order other.order text
          simp only [read]
          revert alike
          cases Vocabulary.ofJsonIn platform.order text <;>
            cases Vocabulary.ofJsonIn other.order text <;>
            exact id

/-- The platform changes nothing in a run on a source file but the error channel. -/
theorem fulfil_of_platform
    (platform other : Platform)
    (named : request.file? = some path)
    (levelText? : Option String)
    (files : Files)
    (input : List UInt8) :
    (fulfil other request levelText? files input).exitCode =
        (fulfil platform request levelText? files input).exitCode ∧
      (fulfil other request levelText? files input).output =
        (fulfil platform request levelText? files input).output ∧
      (fulfil other request levelText? files input).log =
        (fulfil platform request levelText? files input).log := by
  cases settingsLoaded : loadSettings request files with
  | error report =>
      rw [fulfil_of_prepare_error (prepare_of_noSettings settingsLoaded),
        fulfil_of_prepare_error (prepare_of_noSettings settingsLoaded)]
      exact ⟨rfl, rfl, rfl⟩
  | ok settings =>
      have alike := loadVocabulary_of_platform platform other request files
      cases loaded : loadVocabulary platform request files with
      | error report =>
          cases loadedToo : loadVocabulary other request files with
          | error reportToo =>
              rw [fulfil_of_prepare_error (prepare_of_noVocabulary settingsLoaded loaded),
                fulfil_of_prepare_error (prepare_of_noVocabulary settingsLoaded loadedToo)]
              exact ⟨rfl, rfl, rfl⟩
          | ok vocabularyToo =>
              simp [loaded, loadedToo] at alike
      | ok vocabulary =>
          cases loadedToo : loadVocabulary other request files with
          | error reportToo =>
              simp [loaded, loadedToo] at alike
          | ok vocabularyToo =>
              simp only [loaded, loadedToo] at alike
              simp only [fulfil, prepare_of_loaded settingsLoaded loaded,
                prepare_of_loaded settingsLoaded loadedToo, named]
              cases files.readText path with
              | error reason =>
                  exact ⟨rfl, rfl, rfl⟩
              | ok source =>
                  simp only [scanSource, ← Scan.ofSource_of_find? settings vocabulary source alike]
                  cases (Scan.ofSource settings vocabulary source).result <;>
                    exact ⟨rfl, rfl, rfl⟩

end Changes

/--
A run on a source file writes the tokens of the whole source, or it fails, writes none and
says what the first stage that fails has to say.  It fails if and only if a stage does,
and no file that only later stages read changes anything then.  The standard input changes
nothing at all, neither a level of the log nor a verbose flag changes the exit code or the
output, and the platform changes nothing but what is said about a failure.
-/
theorem run_on_file
    {arguments : List String}
    {request : Request}
    {path : String}
    (accepted : Request.ofArguments? arguments = some request)
    (named : request.file? = some path)
    (platform : Platform)
    (levelText? : Option String)
    (files : Files)
    (input : List UInt8) :
    (Completes platform request files path (run platform arguments levelText? files input) ∨
        ∃ stage,
          EndsWith platform request files path (run platform arguments levelText? files input)
            stage) ∧
      ((run platform arguments levelText? files input).exitCode = 1 ↔
        ∃ stage words, Blamed platform request files path stage words) ∧
      (∀ stage words others,
        Blamed platform request files path stage words →
        (∀ read ∈ stage.filesRead request, others read = files read) →
        run platform arguments levelText? others input =
          run platform arguments levelText? files input) ∧
      (∀ otherInput,
        run platform arguments levelText? files otherInput =
          run platform arguments levelText? files input) ∧
      (∀ levelTextToo?,
        (run platform arguments levelTextToo? files input).exitCode =
            (run platform arguments levelText? files input).exitCode ∧
          (run platform arguments levelTextToo? files input).output =
            (run platform arguments levelText? files input).output) ∧
      (∀ front back flag,
        arguments = front ++ back →
        flag ∈ verboseFlags →
        (Request.ofArguments? (front ++ flag :: back)).isSome = true →
        (run platform (front ++ flag :: back) levelText? files input).exitCode =
            (run platform arguments levelText? files input).exitCode ∧
          (run platform (front ++ flag :: back) levelText? files input).output =
            (run platform arguments levelText? files input).output) ∧
      ∀ other,
        (run other arguments levelText? files input).exitCode =
            (run platform arguments levelText? files input).exitCode ∧
          (run other arguments levelText? files input).output =
            (run platform arguments levelText? files input).output ∧
          (run other arguments levelText? files input).log =
            (run platform arguments levelText? files input).log := by
  have fulfilled
      (platform : Platform)
      (levelText? : Option String)
      (files : Files)
      (input : List UInt8) :
      run platform arguments levelText? files input =
        fulfil platform request levelText? files input := by
    simp only [run, accepted]
  simp only [fulfilled]
  have course := course_fulfil platform named levelText? files input
  refine ⟨course.completes_or_endsWith, course.exitCode_eq_one_iff, ?_, ?_, ?_, ?_, ?_⟩
  · intro stage words others blamed agree
    exact fulfil_of_agree named blamed agree levelText? input
  · intro otherInput
    exact fulfil_of_input platform named levelText? files input otherInput
  · intro levelTextToo?
    exact fulfil_of_silent_eq platform rfl named levelText? levelTextToo? files input
  · rintro front back flag rfl listed acceptedToo
    obtain ⟨flagged, acceptedToo⟩ := Option.isSome_iff_exists.mp acceptedToo
    have alike : flagged.silent = request.silent :=
      Request.silent_eq_of_insert listed (by simp [named]) accepted acceptedToo
    have fulfilledToo :
        run platform (front ++ flag :: back) levelText? files input =
          fulfil platform flagged levelText? files input := by
      simp only [run, acceptedToo]
    rw [fulfilledToo]
    exact fulfil_of_silent_eq platform alike named levelText? levelText? files input
  · intro other
    exact fulfil_of_platform platform other named levelText? files input

/-- A source and no other file. -/
def sourceAlone : Files :=
  Files.ofList [("main", Text.encode "si x")]

/-- The same source and a vocabulary that reserves one of its words. -/
def sourceAndVocabulary : Files :=
  Files.ofList
    [("main", Text.encode "si x"), ("words.json", Text.encode "\x7b\"si\": \"IF\"\x7d")]

/--
With its vocabulary a run succeeds.  Without it a run fails, in the same way if the source
is not there either, and no less if it is verbose.
-/
theorem run_on_file_with_and_without_vocabulary :
    (run .plain ["--keywords", "words.json", "main"] none sourceAndVocabulary []).exitCode = 0 ∧
      (run .plain ["--keywords", "words.json", "main"] none sourceAndVocabulary []).output =
        "If 'si' line 1\nIdentifier 'x' line 1\n" ∧
      (run .plain ["--keywords", "words.json", "main"] none sourceAlone []).exitCode = 1 ∧
      (run .plain ["--keywords", "words.json", "main"] none sourceAlone []).errors =
        "Error: read keyword table 'words.json'\n\nCaused by:\n    " ++
          "No such file or directory (os error 2)\n" ∧
      run .plain ["--keywords", "words.json", "main"] none (Files.ofList []) [] =
        run .plain ["--keywords", "words.json", "main"] none sourceAlone [] ∧
      (run .plain ["--keywords", "words.json", "-v", "main"] none sourceAlone []).exitCode = 1 := by
  have accepted :
      Request.ofArguments? ["--keywords", "words.json", "main"] =
        some { file? := some "main", vocabularyFile? := some "words.json" } := by
    decide
  have runs := run_on_file accepted rfl .plain none
  obtain ⟨succeeds | ⟨stage, ends⟩, -⟩ := runs sourceAndVocabulary []
  · obtain ⟨-, fails, unchanged, -, -, verbose, -⟩ := runs sourceAlone []
    have unread : sourceAlone.readText "words.json" = .error .missing :=
      rfl
    have failed := fails.mpr ⟨.vocabulary, _, .vocabularyUnread rfl unread⟩
    have flagged := verbose ["--keywords", "words.json"] ["main"] "-v" rfl (by decide) (by decide)
    refine ⟨succeeds.exitCode, by decide +kernel, failed, by decide +kernel,
      unchanged .vocabulary _ (Files.ofList []) (.vocabularyUnread rfl unread) ?_,
      flagged.1.trans failed⟩
    intro read listed
    cases List.mem_singleton.mp listed
    rfl
  · exact absurd ends.exitCode (by decide +kernel)

end PinkyLex.Command
