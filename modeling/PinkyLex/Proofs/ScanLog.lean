import PinkyLex.Proofs.RunStages
import PinkyLex.Proofs.ScannablePrefix

namespace PinkyLex

/-!
# Logs of scans

The log of a run on a source file accounts for the scan: one line for every token
that was found, and a last line that says how far the scan came.  Where the scan
was aborted, the tokens found are those of the source up to the fault.
-/

namespace LogLevel

theorem write_append
    (level : LogLevel)
    (events later : List LogEvent) :
    level.write (events ++ later) = level.write events ++ level.write later := by
  simp [write]

/-- Events of one level are written all or not at all. -/
theorem write_of_level
    {events : List LogEvent}
    {common : LogLevel}
    (alike : ∀ event ∈ events, event.level = common)
    (level : LogLevel) :
    level.write events = if level.admits common then events.map LogEvent.toText else [] := by
  cases admitted : level.admits common with
  | true =>
      have all : (events.filter fun event => level.admits event.level) = events :=
        List.filter_eq_self.mpr fun event member => (alike event member).symm ▸ admitted
      rw [write, all]
      rfl
  | false =>
      have none : (events.filter fun event => level.admits event.level) = [] :=
        List.filter_eq_nil_iff.mpr fun event member => by simp [alike event member, admitted]
      rw [write, none]
      rfl

/-- Tokens are written at the highest level only, and what is told around them one level below too. -/
theorem write_tokens_between
    {before after : List LogEvent}
    (around : ∀ event ∈ before ++ after, event.level = .debug)
    (tokens : List Token)
    (level : LogLevel) :
    level.write (before ++ (tokens.map LogEvent.token ++ after)) =
      match level with
      | .trace =>
          before.map LogEvent.toText ++
            (tokens.map (fun token => (LogEvent.token token).toText) ++ after.map LogEvent.toText)
      | .debug =>
          before.map LogEvent.toText ++ after.map LogEvent.toText
      | _ =>
          [] := by
  obtain ⟨aroundBefore, aroundAfter⟩ := List.forall_mem_append.mp around
  have ofTokens : ∀ event ∈ tokens.map LogEvent.token, event.level = .trace := by
    intro event member
    obtain ⟨token, -, rfl⟩ := List.mem_map.mp member
    rfl
  rw [write_append, write_append, write_of_level aroundBefore, write_of_level aroundAfter,
    write_of_level ofTokens, List.map_map]
  cases level <;> rfl

end LogLevel

section Accounts

variable {settings : Settings} {vocabulary : Vocabulary} {source : String} {tokens : List Token}

/-- A scan that comes to the end of a source has reached its last line. -/
theorem Scan.lines_ofSource_of_ok
    (scanned : scan settings vocabulary source = .ok tokens) :
    (ofSource settings vocabulary source).lines = 1 + source.toList.count '\n' := by
  obtain ⟨segments, cut, -⟩ := scan_eq_ok_iff.mp scanned
  have flat := (Tiled.iff_cut.mpr cut).1.flatten_append
  rw [List.append_nil] at flat
  rw [lines_ofSource, cut, Segment.totalLineEnds_eq, flat]

/-- The line of a log about a token. -/
def Token.logLine (token : Token) : String :=
  "TRACE token kind=" ++ token.kind.name ++ " lexeme=" ++ Text.quoted token.lexeme ++
    " line=" ++ toString token.line

/-- The tokens that a scan of a source finds, and the last line of its log. -/
inductive Scan.Account (settings : Settings) (vocabulary : Vocabulary) (source : String) :
    List Token → String → Prop where
  | finished {tokens : List Token} :
      scan settings vocabulary source = .ok tokens →
      Scan.Account settings vocabulary source tokens
        ("DEBUG scan finished tokens=" ++ toString tokens.length ++
          " lines=" ++ toString (1 + source.toList.count '\n'))
  | aborted {fault : Fault} {front back : String} {tokens : List Token} :
      scan settings vocabulary source = .error fault →
      front ++ back = source →
      front.utf8ByteSize = fault.offset →
      scan settings vocabulary front = .ok tokens →
      Scan.Account settings vocabulary source tokens
        ("DEBUG scan aborted err=" ++ fault.message ++ " tokens=" ++ toString tokens.length)

/-- The events of a scan are its start, the tokens that it finds and one event at its end. -/
theorem Scan.exists_account
    (settings : Settings)
    (vocabulary : Vocabulary)
    (source : String)
    (dialect : Dialect) :
    ∃ tokens ending,
      Scan.Account settings vocabulary source tokens ending.toText ∧
        ending.level = .debug ∧
        (ofSource settings vocabulary source).tokens = tokens ∧
        (ofSource settings vocabulary source).events dialect =
          .started dialect :: tokens.map LogEvent.token ++ [ending] := by
  cases stopped : (ofSource settings vocabulary source).fault? with
  | none =>
      have scanned :
          scan settings vocabulary source =
            .ok (ofSource settings vocabulary source).tokens := by
        rw [scan, result, stopped]
      refine ⟨_, .finished _ _, .finished scanned, rfl, rfl, ?_⟩
      rw [events, stopped, lines_ofSource_of_ok scanned]
  | some fault =>
      have failed : scan settings vocabulary source = .error fault := by
        rw [scan, result, stopped]
      obtain ⟨front, back, split, place, scannedFront⟩ := exists_scan_front failed
      refine ⟨_, .aborted fault _, .aborted failed split place scannedFront, rfl, rfl, ?_⟩
      rw [events, stopped]

end Accounts

namespace Command

variable {platform : Platform} {request : Request} {files : Files} {path : String}
variable {settings : Settings} {vocabulary : Vocabulary} {source : String}

/-- A run that has all it needs scans its source. -/
theorem fulfil_of_loaded
    (named : request.file? = some path)
    (settingsLoaded : loadSettings request files = .ok settings)
    (vocabularyLoaded : loadVocabulary platform request files = .ok vocabulary)
    (sourceLoaded : loadSource path files = .ok source)
    (levelText? : Option String)
    (input : List UInt8) :
    fulfil platform request levelText? files input =
      scanSource platform request (logLevel request levelText?) settings vocabulary path
        source := by
  cases read : files.readText path with
  | error reason =>
      rw [loadSource, read] at sourceLoaded
      cases sourceLoaded
  | ok text =>
      rw [loadSource, read] at sourceLoaded
      cases sourceLoaded
      simp only [fulfil, prepare_of_loaded settingsLoaded vocabularyLoaded, named, read]

theorem log_scanSource (level : LogLevel) :
    (scanSource platform request level settings vocabulary path source).log =
      level.write (.scanning path source.utf8ByteSize ::
        (Scan.ofSource settings vocabulary source).events settings.dialect) := by
  rw [scanSource]
  cases (Scan.ofSource settings vocabulary source).result <;> rfl

/-- A run that scans its source without a fault writes the tokens found. -/
theorem output_scanSource
    (level : LogLevel)
    (succeeds : (scanSource platform request level settings vocabulary path source).exitCode = 0) :
    (scanSource platform request level settings vocabulary path source).output =
      dump (request.format?.getD .text) (Scan.ofSource settings vocabulary source).tokens := by
  rw [scanSource] at succeeds ⊢
  cases stopped : (Scan.ofSource settings vocabulary source).fault? with
  | none =>
      simp only [Scan.result, stopped]
  | some fault =>
      simp [Scan.result, stopped] at succeeds

/-- A run that neither the environment nor its arguments make verbose logs no events. -/
theorem logLevel_default
    (quiet : request.verbose = false) :
    logLevel request none = .info := by
  rw [logLevel, quiet]
  rfl

/--
The log of a run that comes to scan its source accounts for the scan.  At the highest
level it has a line for each token found between the two lines at its start and the one
at its end; one level below it is the same without the tokens, and further below it is
empty, as it is by default.
-/
theorem run_log_accounts
    {arguments : List String}
    (accepted : Request.ofArguments? arguments = some request)
    (named : request.file? = some path)
    (settingsLoaded : loadSettings request files = .ok settings)
    (vocabularyLoaded : loadVocabulary platform request files = .ok vocabulary)
    (sourceLoaded : loadSource path files = .ok source)
    (levelText? : Option String)
    (input : List UInt8) :
    ∃ tokens ending,
      Scan.Account settings vocabulary source tokens ending ∧
        ((run platform arguments levelText? files input).exitCode = 0 →
          (run platform arguments levelText? files input).output =
            dump (request.format?.getD .text) tokens) ∧
        (logLevel request levelText? = .trace →
          (run platform arguments levelText? files input).log =
            ("DEBUG scanning file=" ++ path ++ " bytes=" ++ toString source.utf8ByteSize) ::
              ("DEBUG scan started dialect=" ++ settings.dialect.name) ::
              (tokens.map Token.logLine ++ [ending])) ∧
        (logLevel request levelText? = .debug →
          (run platform arguments levelText? files input).log =
            ["DEBUG scanning file=" ++ path ++ " bytes=" ++ toString source.utf8ByteSize,
              "DEBUG scan started dialect=" ++ settings.dialect.name,
              ending]) ∧
        (logLevel request levelText? ∉ [.trace, .debug] →
          (run platform arguments levelText? files input).log = []) ∧
        (levelText? = none →
          request.verbose = false →
          (run platform arguments levelText? files input).log = []) := by
  have fulfilled :
      run platform arguments levelText? files input =
        scanSource platform request (logLevel request levelText?) settings vocabulary path
          source := by
    simp only [run, accepted,
      fulfil_of_loaded named settingsLoaded vocabularyLoaded sourceLoaded levelText? input]
  obtain ⟨tokens, ending, account, last, found, told⟩ :=
    Scan.exists_account settings vocabulary source settings.dialect
  have logged :
      (run platform arguments levelText? files input).log =
        (logLevel request levelText?).write
          ([.scanning path source.utf8ByteSize, .started settings.dialect] ++
            (tokens.map LogEvent.token ++ [ending])) := by
    rw [fulfilled, log_scanSource, told]
    rfl
  have around : ∀ event ∈
      [.scanning path source.utf8ByteSize, .started settings.dialect] ++ [ending],
      event.level = .debug := by
    simpa using ⟨rfl, rfl, last⟩
  rw [LogLevel.write_tokens_between around] at logged
  refine ⟨tokens, ending.toText, account, ?_, ?_, ?_, ?_, ?_⟩
  · rw [fulfilled, ← found]
    exact output_scanSource _
  · intro traced
    rw [logged, traced]
    rfl
  · intro debugged
    rw [logged, debugged]
    rfl
  · intro further
    rw [logged]
    cases reached : logLevel request levelText? with
    | trace | debug =>
        simp [reached] at further
    | off | error | warn | info =>
        rfl
  · rintro rfl quiet
    rw [logged, logLevel_default quiet]

/-- A source with a comment and a string that is left open behind it, and no other file. -/
def openString : Files :=
  Files.ofList [("main", Text.encode "x --é\n'b")]

theorem run_log_accounts_open_string :
    (run .plain ["main"] (some "trace") openString []).log =
        ["DEBUG scanning file=main bytes=9",
          "DEBUG scan started dialect=Pinky",
          "TRACE token kind=Identifier lexeme=\"x\" line=1",
          "DEBUG scan aborted err=[line 2] unterminated string tokens=1"] ∧
      (∃ tokens ending,
        Scan.Account {} .pinky "x --é\n'b" tokens ending ∧
          (run .plain ["main"] (some "trace") openString []).log =
            "DEBUG scanning file=main bytes=9" :: "DEBUG scan started dialect=Pinky" ::
              (tokens.map Token.logLine ++ [ending])) ∧
      (run .plain ["main"] none openString []).log = [] := by
  have accepted : Request.ofArguments? ["main"] = some { file? := some "main" } := by
    decide
  have sourceLoaded : loadSource "main" openString = .ok "x --é\n'b" := by
    decide +kernel
  have vocabularyLoaded :
      loadVocabulary .plain { file? := some "main" } openString = .ok .pinky :=
    rfl
  have accounts := run_log_accounts accepted rfl rfl vocabularyLoaded sourceLoaded
  obtain ⟨tokens, ending, account, -, traced, -⟩ := accounts (some "trace") []
  obtain ⟨-, -, -, -, -, -, -, byDefault⟩ := accounts none []
  refine ⟨by decide +kernel, ⟨tokens, ending, account, traced ?_⟩, byDefault rfl rfl⟩
  decide

end Command

end PinkyLex
