import PinkyLex.Proofs.ScannerSteps

namespace PinkyLex.Scanner

/-!
# Runs of scanners

A scanner goes past the segments of a source one after the other, with the tokens and
the line that a scan has there, and its log has the tokens found so far.  So it gives
what the scan of the source gives, the log included.
-/

variable {settings : Settings} {vocabulary : Vocabulary} {scanner next : Scanner}
variable {source : String} {before lexeme : List Char} {first : Char}

/-- The tokens found so far and the line reached. -/
def progress (scanner : Scanner) : ScanProgress where
  found := scanner.found
  line := scanner.window.line

/-- The log tells the start of the scan and the tokens found so far. -/
def Logs (dialect : Dialect) (scanner : Scanner) : Prop :=
  scanner.events = scanner.found.map LogEvent.token ++ [.started dialect]

section Steps

/-- The counter of a scanner is at the line where the segments passed end. -/
theorem progress_pastSegment
    (vocabulary : Vocabulary)
    (scanner : Scanner)
    (segment : Segment)
    (taken rest : List Char) :
    (scanner.pastSegment vocabulary segment taken rest).progress =
      scanner.progress.step vocabulary segment :=
  (ScanProgress.step_eq vocabulary scanner.progress segment).symm

/-- A token is logged when it is found. -/
theorem Logs.pastSegment
    {dialect : Dialect}
    (logs : Logs dialect scanner)
    (segment : Segment)
    (taken rest : List Char) :
    Logs dialect (scanner.pastSegment vocabulary segment taken rest) := by
  simp only [Logs, Scanner.pastSegment, List.map_append, List.append_assoc]
  rw [logs]

end Steps

/-- The scan of which a scanner has gone past the front, given how the rest is cut. -/
def scanFrom
    (settings : Settings)
    (vocabulary : Vocabulary)
    (scanner : Scanner)
    (tiling : Tiling) :
    Scan :=
  let reached := scanner.progress.past vocabulary tiling.segments
  { tokens := reached.found.reverse
    lines := reached.line
    fault? :=
      match tiling.remainder with
      | [] =>
          none
      | first :: rest =>
          some {
            cause := FaultCause.of settings first rest
            line := reached.line
            offset := scanner.window.stop + Scan.byteLength tiling.segments
          } }

/-- The whole log tells the start of the scan, the tokens found and the end. -/
theorem Logs.logWith_eq
    {dialect : Dialect}
    (logs : Logs dialect scanner)
    (ending : LogEvent) :
    scanner.logWith ending =
      .started dialect :: scanner.found.reverse.map LogEvent.token ++ [ending] := by
  rw [logWith, logs]
  simp

/-- What is left of a scan starts with the segment that is read next. -/
theorem scanFrom_cons
    (settings : Settings)
    (vocabulary : Vocabulary)
    (scanner : Scanner)
    (kind : SegmentKind)
    (first : Char)
    (taken rest : List Char)
    (tiling : Tiling) :
    scanFrom settings vocabulary scanner (tiling.cons ⟨kind, first :: taken⟩) =
      scanFrom settings vocabulary
        ((scanner.moved (scanner.window.beginLexeme.past [first] (taken ++ rest))).pastSegment
          vocabulary ⟨kind, first :: taken⟩ taken rest)
        tiling := by
  have reached :
      scanner.progress.past vocabulary (tiling.cons ⟨kind, first :: taken⟩).segments =
        ((scanner.moved
            (scanner.window.beginLexeme.past [first] (taken ++ rest))).pastSegment
          vocabulary ⟨kind, first :: taken⟩ taken rest).progress.past vocabulary
            tiling.segments := by
    rw [progress_pastSegment]
    rfl
  have offset :
      ((scanner.moved
              (scanner.window.beginLexeme.past [first] (taken ++ rest))).pastSegment
            vocabulary ⟨kind, first :: taken⟩ taken rest).window.stop +
          Scan.byteLength tiling.segments =
        scanner.window.stop +
          Scan.byteLength (tiling.cons ⟨kind, first :: taken⟩).segments := by
    simp [Tiling.cons, pastSegment, Window.past, Window.stop, Window.beginLexeme, Nat.add_assoc]
  simp only [scanFrom, reached, offset]
  rfl

section Reading

variable {window : Window}

theorem of_takeOne_eq_none
    (taken : scanner.window.beginLexeme.takeOne = (none, window)) :
    scanner.window.unread.rest = [] ∧ window = scanner.window.beginLexeme := by
  have atEnd : scanner.window.beginLexeme.unread.rest = [] := by
    rw [← List.head?_eq_none_iff]
    exact (Window.fst_takeOne _).symm.trans (congrArg Prod.fst taken)
  rw [Window.takeOne, Unread.takeOne, atEnd] at taken
  cases taken
  exact ⟨atEnd, rfl⟩

/-- The window past the first character of a new lexeme shows that character. -/
theorem exists_of_takeOne_eq_some
    (shows : Window.Shows source before lexeme scanner.window)
    (taken : scanner.window.beginLexeme.takeOne = (some first, window)) :
    ∃ rest,
      scanner.window.unread.rest = first :: rest ∧
        window = scanner.window.beginLexeme.past [first] rest ∧
        Window.Shows source (before ++ lexeme) [first] window := by
  have atHead : scanner.window.beginLexeme.next? = some first := by
    rw [← Window.fst_takeOne, taken]
  obtain ⟨rest, shape⟩ := List.head?_eq_some_iff.mp atHead
  rw [Window.takeOne_eq_past shape] at taken
  cases taken
  exact ⟨rest, shape, rfl, shows.beginLexeme.past shape⟩

end Reading

/-- A scanner gives the rest of the scan and the whole log, whatever it has gone past. -/
theorem run?_eq
    (shows : Window.Shows source before lexeme scanner.window)
    (logs : Logs settings.dialect scanner) :
    run? settings vocabulary scanner =
      some
        ((scanFrom settings vocabulary scanner
            (Tiling.cut settings scanner.window.unread.rest)).result,
          (scanFrom settings vocabulary scanner
            (Tiling.cut settings scanner.window.unread.rest)).events settings.dialect) := by
  fun_induction run? settings vocabulary scanner generalizing before lexeme with
  | case1 scanner window taken =>
      obtain ⟨atEnd, rfl⟩ := of_takeOne_eq_none taken
      rw [atEnd, Tiling.cut_nil, logs.logWith_eq]
      simp [scanFrom, ScanProgress.past, progress, Scan.result, Scan.events, Window.beginLexeme]
  | case2 scanner first window taken apart =>
      obtain ⟨rest, shape, -, shown⟩ := exists_of_takeOne_eq_some shows taken
      have reads : Reads settings vocabulary (scanner.moved window) first _ _ :=
        reads_readLexeme? shown
      rw [apart] at reads
      exact absurd reads Reads.ne_none
  | case3 scanner first window taken fault read =>
      obtain ⟨rest, shape, passed, shown⟩ := exists_of_takeOne_eq_some shows taken
      have reads : Reads settings vocabulary (scanner.moved window) first _ _ :=
        reads_readLexeme? shown
      rw [read] at reads
      obtain ⟨stuck, rfl⟩ := reads.of_error
      subst passed
      rw [moved_window, Window.rest_past] at stuck ⊢
      rw [shape, Tiling.cut_cons_of_none stuck, logs.logWith_eq]
      simp [scanFrom, ScanProgress.past, progress, Scan.result, Scan.events, blame,
        Window.past, Window.beginLexeme]
  | case4 scanner first window taken next read inductionHypothesis =>
      obtain ⟨behind, shape, passed, shown⟩ := exists_of_takeOne_eq_some shows taken
      have reads : Reads settings vocabulary (scanner.moved window) first _ _ :=
        reads_readLexeme? shown
      rw [read] at reads
      obtain ⟨kind, more, rest, split, reached, rfl⟩ := reads.of_ok
      subst passed
      have shownToo := shown.past split
      rw [moved_window, Window.rest_past] at split reached
      subst split
      have cut := Tiling.cut_cons_of_some reached
      rw [List.take_left, List.drop_left] at cut
      rw [shape, cut, scanFrom_cons]
      exact inductionHypothesis
        ⟨shownToo.sameSource, shownToo.split, shownToo.start, shownToo.stop⟩
        (Logs.pastSegment logs _ more rest)

/-- A scanner gives the tokens or the fault of its source and logs what there is to tell. -/
theorem tokenize?_eq
    (settings : Settings)
    (vocabulary : Vocabulary)
    (source : String) :
    tokenize? settings vocabulary source =
      some
        (scan settings vocabulary source,
          (Scan.ofSource settings vocabulary source).events settings.dialect) := by
  have started :
      scanFrom settings vocabulary
          { window := .ofSource source, events := [.started settings.dialect] }
          (Tiling.cut settings source.toList) =
        Scan.ofSource settings vocabulary source := by
    have atStart (bytes : Nat) : (Window.ofSource source).stop + bytes = bytes :=
      Nat.zero_add bytes
    simp only [scanFrom, Scan.ofSource, Scan.ofTiling, atStart]
    rfl
  have run :
      run? settings vocabulary
          { window := .ofSource source, events := [.started settings.dialect] } = _ :=
    run?_eq (.ofSource source) rfl
  rw [tokenize?, run, scan, ← started]
  rfl

end PinkyLex.Scanner
