import PinkyLex.Proofs.FaultPlace
import PinkyLex.Proofs.SegmentEnd
import PinkyLex.Proofs.WindowRuns
import PinkyLex.Scan.Scanner

namespace PinkyLex.Scanner

/-!
# Steps of scanners

A scanner that reads a lexeme on takes the longest segment, counts its line ends, and
emits and logs the token that the segment becomes.  Where no segment starts it stops
with the fault of that place.  Nothing is ever cut apart.
-/

variable {settings : Settings} {vocabulary : Vocabulary} {scanner : Scanner}
variable {source : String} {before : List Char} {first : Char}

/-- The window that has gone past some characters and counted the line ends among them. -/
def pastLines (window : Window) (taken rest : List Char) : Window :=
  { window.past taken rest with line := window.line + taken.count '\n' }

theorem pastLines_nil (window : Window) :
    pastLines window [] window.unread.rest = window :=
  rfl

theorem pastLines_pastLines
    (window : Window)
    (first second middle rest : List Char) :
    pastLines (pastLines window first middle) second rest =
      pastLines window (first ++ second) rest := by
  simp [pastLines, Window.past, Window.stop, Nat.add_assoc]

theorem takeOne_eq_pastLines
    {window : Window}
    {next : Char}
    {rest : List Char}
    (shape : window.unread.rest = next :: rest)
    (notLineEnd : next ≠ '\n') :
    window.takeOne.2 = pastLines window [next] rest := by
  rw [Window.takeOne_eq_past shape, pastLines,
    List.count_eq_zero.mpr (by simpa using Ne.symm notLineEnd)]
  rfl

section Runs

variable {window : Window} {test : Char → Bool}

/-- A window stays where no character is next that satisfies the test. -/
theorem pastLines_of_stops
    (stops : ∀ next, window.next? = some next → test next = false) :
    pastLines window (window.unread.rest.takeWhile test) (window.unread.rest.dropWhile test) =
      window := by
  have stays := pastLines_nil window
  cases shape : window.unread.rest with
  | nil =>
      rwa [shape] at stays
  | cons next rest =>
      have fails : ¬ test next = true := by
        simp [stops next (congrArg List.head? shape)]
      rwa [List.takeWhile_cons_of_neg fails, List.dropWhile_cons_of_neg fails, ← shape]

theorem pastLines_of_passes
    {next : Char}
    {rest : List Char}
    (shape : window.unread.rest = next :: rest)
    (passes : test next = true) :
    pastLines (pastLines window [next] rest)
        ((pastLines window [next] rest).unread.rest.takeWhile test)
        ((pastLines window [next] rest).unread.rest.dropWhile test) =
      pastLines window (window.unread.rest.takeWhile test)
        (window.unread.rest.dropWhile test) := by
  rw [shape, List.takeWhile_cons_of_pos passes, List.dropWhile_cons_of_pos passes,
    pastLines_pastLines]
  rfl

end Runs

/-- The scanner that has read on what its lexeme had left of a segment. -/
def pastSegment
    (vocabulary : Vocabulary)
    (scanner : Scanner)
    (segment : Segment)
    (taken rest : List Char) :
    Scanner :=
  let token? := segment.token? vocabulary scanner.window.line
  { window :=
      { scanner.window.past taken rest with line := scanner.window.line + segment.lineEnds }
    found := token?.toList ++ scanner.found
    events := token?.toList.map LogEvent.token ++ scanner.events }

/-- What comes of reading a lexeme on, given how far a segment reaches after its first character. -/
inductive Reads
    (settings : Settings)
    (vocabulary : Vocabulary)
    (scanner : Scanner)
    (first : Char) :
    Option (SegmentKind × Nat) → Option (Except Fault Scanner) → Prop where
  | segment {kind : SegmentKind} {taken rest : List Char} :
      scanner.window.unread.rest = taken ++ rest →
      Reads settings vocabulary scanner first
        (some (kind, taken.length))
        (some (.ok (scanner.pastSegment vocabulary ⟨kind, first :: taken⟩ taken rest)))
  | stuck :
      Reads settings vocabulary scanner first
        none
        (some (.error (scanner.blame (.of settings first scanner.window.unread.rest))))

namespace Reads

variable {reached? : Option (SegmentKind × Nat)}

/-- Nothing is cut apart. -/
theorem ne_none : ¬ Reads settings vocabulary scanner first reached? none := by
  intro reads
  cases reads

theorem of_ok
    {next : Scanner}
    (reads : Reads settings vocabulary scanner first reached? (some (.ok next))) :
    ∃ kind taken rest,
      scanner.window.unread.rest = taken ++ rest ∧
        reached? = some (kind, taken.length) ∧
        next = scanner.pastSegment vocabulary ⟨kind, first :: taken⟩ taken rest := by
  cases reads with
  | segment split =>
      exact ⟨_, _, _, split, rfl, rfl⟩

theorem of_error
    {fault : Fault}
    (reads : Reads settings vocabulary scanner first reached? (some (.error fault))) :
    reached? = none ∧
      fault = scanner.blame (.of settings first scanner.window.unread.rest) := by
  cases reads
  exact ⟨rfl, rfl⟩

end Reads

section Emission

variable {kind : SegmentKind} {tokenKind : TokenKind} {taken rest : List Char}

/-- A segment that becomes no token and stays on its line is only passed. -/
theorem reads_moved
    (split : scanner.window.unread.rest = taken ++ rest)
    (silent : Segment.tokenKind? vocabulary ⟨kind, first :: taken⟩ = none)
    (sameLine : '\n' ∉ first :: taken) :
    Reads settings vocabulary scanner first
      (some (kind, taken.length))
      (some (.ok (scanner.moved (scanner.window.past taken rest)))) := by
  have passed :
      scanner.moved (scanner.window.past taken rest) =
        scanner.pastSegment vocabulary ⟨kind, first :: taken⟩ taken rest := by
    simp only [pastSegment, Segment.token?, silent, Segment.lineEnds,
      List.count_eq_zero.mpr sameLine]
    rfl
  exact passed ▸ .segment split

/-- A token is the whole segment, on the line on which the lexeme starts. -/
theorem reads_emitOn?
    (shows : Window.Shows source before [first] scanner.window)
    (split : scanner.window.unread.rest = taken ++ rest)
    (means : Segment.tokenKind? vocabulary ⟨kind, first :: taken⟩ = some tokenKind)
    (notLineEnd : first ≠ '\n') :
    Reads settings vocabulary scanner first
      (some (kind, taken.length))
      (.ok <$> (scanner.moved (pastLines scanner.window taken rest)).emitOn?
        scanner.window.line tokenKind) := by
  have emitted :
      (scanner.moved (pastLines scanner.window taken rest)).emitOn?
          scanner.window.line tokenKind =
        some (scanner.pastSegment vocabulary ⟨kind, first :: taken⟩ taken rest) := by
    rw [emitOn?]
    change (scanner.window.past taken rest).lexeme?.bind _ = _
    rw [(shows.past split).lexeme?_eq]
    simp only [pastSegment, Segment.token?, means, Segment.lineEnds,
      List.count_cons_of_ne notLineEnd]
    rfl
  rw [emitted]
  exact .segment split

theorem reads_emit?
    (shows : Window.Shows source before [first] scanner.window)
    (split : scanner.window.unread.rest = taken ++ rest)
    (means : Segment.tokenKind? vocabulary ⟨kind, first :: taken⟩ = some tokenKind)
    (notLineEnd : first ≠ '\n')
    (sameLine : '\n' ∉ taken) :
    Reads settings vocabulary scanner first
      (some (kind, taken.length))
      (.ok <$> (scanner.moved (scanner.window.past taken rest)).emit? tokenKind) := by
  have reads : Reads settings vocabulary scanner first _ _ :=
    reads_emitOn? shows split means notLineEnd
  rwa [pastLines, List.count_eq_zero.mpr sameLine] at reads

/-- A token of one character is the lexeme as it stands. -/
theorem reads_emit?_first
    (shows : Window.Shows source before [first] scanner.window)
    (means : Segment.tokenKind? vocabulary ⟨kind, [first]⟩ = some tokenKind)
    (notLineEnd : first ≠ '\n') :
    Reads settings vocabulary scanner first (some (kind, 0)) (.ok <$> scanner.emit? tokenKind) :=
  reads_emit? shows (List.nil_append _).symm means notLineEnd List.not_mem_nil

end Emission

theorem takeWhile?_eq_moved
    (scanner : Scanner)
    (test : Char → Bool) :
    scanner.takeWhile? test =
      some (scanner.moved (scanner.window.past (scanner.window.unread.rest.takeWhile test)
        (scanner.window.unread.rest.dropWhile test))) := by
  rw [takeWhile?, Window.takeWhile?_eq_past]
  rfl

section Numbers

/-- A point belongs to a number together with the digits behind it. -/
theorem numberReach_of_fraction
    {text fraction : List Char}
    (behind : text.dropWhile Char.isDigit = '.' :: fraction)
    (digit : fraction[0]?.any Char.isDigit = true) :
    Segment.numberReach text =
      (.float,
        (text.takeWhile Char.isDigit ++ '.' :: fraction.takeWhile Char.isDigit).length) := by
  unfold Segment.numberReach
  cases fraction with
  | nil =>
      simp at digit
  | cons next later =>
      have first : next.isDigit = true := by
        simpa using digit
      simp [behind, first, Nat.add_assoc, Nat.add_comm 1]

/-- A point without a digit behind it does not belong to a number. -/
theorem numberReach_of_noFraction
    {text : List Char}
    (noFraction :
      ¬ ((text.dropWhile Char.isDigit).head? = some '.' ∧
        (text.dropWhile Char.isDigit)[1]?.any Char.isDigit = true)) :
    Segment.numberReach text = (.integer, (text.takeWhile Char.isDigit).length) := by
  unfold Segment.numberReach
  split
  case h_1 fraction behind =>
    rw [behind] at noFraction
    cases fraction with
    | nil =>
        simp
    | cons next later =>
        have notDigit : next.isDigit = false := by
          simpa using noFraction
        simp [notDigit]
  case h_2 =>
    rfl

/-- A number is read on as far as it reaches. -/
theorem reads_readNumber?
    (shows : Window.Shows source before [first] scanner.window)
    (digit : first.isDigit = true) :
    Reads settings vocabulary scanner first
      (some (Segment.numberReach scanner.window.unread.rest))
      (.ok <$> scanner.readNumber?) := by
  have notLineEnd : first ≠ '\n' := by
    rintro rfl
    exact absurd digit (by decide)
  have sameLine := Segment.lineEnd_not_mem_takeWhile (by decide : Char.isDigit '\n' = false)
  have split := List.takeWhile_append_dropWhile (p := Char.isDigit)
    (l := scanner.window.unread.rest)
  by_cases fractional :
      (scanner.window.unread.rest.dropWhile Char.isDigit).head? = some '.' ∧
        (scanner.window.unread.rest.dropWhile Char.isDigit)[1]?.any Char.isDigit = true
  · obtain ⟨fraction, behind⟩ := List.head?_eq_some_iff.mp fractional.1
    have splitFraction := List.takeWhile_append_dropWhile (p := Char.isDigit) (l := fraction)
    have whole :
        scanner.window.unread.rest =
          scanner.window.unread.rest.takeWhile Char.isDigit ++
              '.' :: fraction.takeWhile Char.isDigit ++
            fraction.dropWhile Char.isDigit := by
      rw [List.append_assoc, List.cons_append, splitFraction, ← behind, split]
    have read :
        scanner.readNumber? =
          (scanner.moved (scanner.window.past
            (scanner.window.unread.rest.takeWhile Char.isDigit ++
              '.' :: fraction.takeWhile Char.isDigit)
            (fraction.dropWhile Char.isDigit))).emit? .float := by
      rw [readNumber?, takeWhile?_eq_moved]
      refine (if_pos fractional).trans ?_
      simp only [takeWhile?_eq_moved, Option.bind_eq_bind, Option.bind_some, moved_window,
        moved_moved]
      rw [Window.takeOne_eq_past behind]
      simp [Window.past_past]
    rw [read, numberReach_of_fraction behind (by simpa [behind] using fractional.2)]
    exact reads_emit? shows whole rfl notLineEnd (by simp [sameLine])
  · have read :
        scanner.readNumber? =
          (scanner.moved (scanner.window.past
            (scanner.window.unread.rest.takeWhile Char.isDigit)
            (scanner.window.unread.rest.dropWhile Char.isDigit))).emit? .integer := by
      rw [readNumber?, takeWhile?_eq_moved]
      exact if_neg fractional
    rw [read, numberReach_of_noFraction fractional]
    exact reads_emit? shows split.symm rfl notLineEnd (sameLine _)

end Numbers

section Strings

/-- The inside of a string is passed with its line ends, up to what may be the closing quote. -/
theorem passString_eq
    (settings : Settings)
    (quote : Char)
    (window : Window) :
    passString settings quote window =
      (decide ((window.unread.rest.dropWhile (Segment.insideString settings quote)).head? =
          some quote),
        pastLines window
          (window.unread.rest.takeWhile (Segment.insideString settings quote))
          (window.unread.rest.dropWhile (Segment.insideString settings quote))) := by
  fun_induction passString settings quote window with
  | case1 window atEnd =>
      rw [pastLines_of_stops (by simp [atEnd]), List.head?_eq_none_iff.mp atEnd]
      rfl
  | case2 window atHead =>
      obtain ⟨rest, shape⟩ := List.head?_eq_some_iff.mp atHead
      have stops : Segment.insideString settings quote quote = false := by
        simp [Segment.insideString]
      rw [pastLines_of_stops (by simp [atHead, stops]), shape,
        List.dropWhile_cons_of_neg (by simp [stops])]
      simp
  | case3 window multiline atHead notQuote inductionHypothesis =>
      obtain ⟨rest, shape⟩ := List.head?_eq_some_iff.mp atHead
      have inside : Segment.insideString settings quote '\n' = true := by
        simp [Segment.insideString, multiline, notQuote]
      have passed : window.takeOne.2.countLine = pastLines window ['\n'] rest := by
        rw [Window.takeOne_eq_past shape]
        rfl
      rw [inductionHypothesis, passed, pastLines_of_passes shape inside, shape,
        List.dropWhile_cons_of_pos inside]
      rfl
  | case4 window singleLine atHead notQuote =>
      obtain ⟨rest, shape⟩ := List.head?_eq_some_iff.mp atHead
      have stops : Segment.insideString settings quote '\n' = false := by
        simp [Segment.insideString, Segment.insideLine, singleLine]
      rw [pastLines_of_stops (by simp [atHead, stops]), shape,
        List.dropWhile_cons_of_neg (by simp [stops])]
      simp [notQuote]
  | case5 window next atHead notQuote notLineEnd inductionHypothesis =>
      obtain ⟨rest, shape⟩ := List.head?_eq_some_iff.mp atHead
      have inside : Segment.insideString settings quote next = true := by
        simp [Segment.insideString, Segment.insideLine, notLineEnd, notQuote]
      rw [inductionHypothesis, takeOne_eq_pastLines shape notLineEnd,
        pastLines_of_passes shape inside, shape, List.dropWhile_cons_of_pos inside]
      rfl

/-- A string is read on up to its closing quote, which must be there. -/
theorem reads_readString?
    (shows : Window.Shows source before [first] scanner.window)
    (literals : settings.dialect = .pinky)
    (quoted : Segment.isQuote first = true) :
    Reads settings vocabulary scanner first
      ((Segment.stringReach? settings first scanner.window.unread.rest).map
        fun count => (.string, count))
      (readString? settings scanner first) := by
  have split := List.takeWhile_append_dropWhile (p := Segment.insideString settings first)
    (l := scanner.window.unread.rest)
  have unclosed : Reads settings vocabulary scanner first none _ :=
    .stuck
  rw [FaultCause.of_quote literals (Segment.isQuote_iff.mp quoted)] at unclosed
  unfold readString? Segment.stringReach?
  rw [passString_eq]
  generalize scanner.window.unread.rest.takeWhile (Segment.insideString settings first) = inside
    at split unclosed ⊢
  generalize scanner.window.unread.rest.dropWhile (Segment.insideString settings first) = behind
    at split ⊢
  by_cases closed : behind.head? = some first
  · obtain ⟨rest, rfl⟩ := List.head?_eq_some_iff.mp closed
    have notLineEnd : first ≠ '\n' := by
      rintro rfl
      exact absurd quoted (by decide)
    have closing :
        (pastLines scanner.window inside (first :: rest)).takeOne.2 =
          pastLines scanner.window (inside ++ [first]) rest := by
      rw [takeOne_eq_pastLines rfl notLineEnd, pastLines_pastLines]
    have whole : scanner.window.unread.rest = inside ++ [first] ++ rest := by
      simp [← split]
    have reads :
        Reads settings vocabulary scanner first
          (some (.string, (inside ++ [first]).length)) _ :=
      reads_emitOn? shows whole rfl notLineEnd
    rw [if_pos closed, decide_eq_true closed]
    simp only [closing]
    rw [List.length_append] at reads
    exact reads
  · have stops := (shows.past split.symm).stop
    have length :
        (pastLines scanner.window inside behind).stop -
            (pastLines scanner.window inside behind).start =
          Text.byteLength (first :: inside) := by
      change (scanner.window.past inside behind).stop - scanner.window.start = _
      rw [shows.start, stops, Text.byteLength_append, Nat.add_sub_cancel_left]
      rfl
    rw [if_neg closed, decide_eq_false closed]
    simp only [length]
    exact unclosed

end Strings

section Literals

/-- A word is read on as long as it continues and is looked up as a whole. -/
theorem reads_readWord?
    (shows : Window.Shows source before [first] scanner.window)
    (starts : Text.startsWord first = true) :
    Reads settings vocabulary scanner first
      (some (.word, Segment.wordReach scanner.window.unread.rest))
      (.ok <$> scanner.readWord? vocabulary) := by
  have split := List.takeWhile_append_dropWhile (p := Text.continuesWord)
    (l := scanner.window.unread.rest)
  have notLineEnd : first ≠ '\n' := by
    rintro rfl
    exact absurd starts (by decide)
  have sameLine := Segment.lineEnd_not_mem_takeWhile (by decide : Text.continuesWord '\n' = false)
  have read :
      scanner.readWord? vocabulary =
        (scanner.moved (scanner.window.past
          (scanner.window.unread.rest.takeWhile Text.continuesWord)
          (scanner.window.unread.rest.dropWhile Text.continuesWord))).emit?
          ((vocabulary.find? (String.ofList
            (first :: scanner.window.unread.rest.takeWhile Text.continuesWord))).getD
              .identifier) := by
    rw [readWord?, takeWhile?_eq_moved]
    simp only [Option.bind_eq_bind, Option.bind_some, moved_window,
      (shows.past split.symm).lexeme?_eq]
    rfl
  rw [read]
  exact reads_emit? shows split.symm rfl notLineEnd (sameLine _)

/-- A literal or a word is read on as far as it reaches. -/
theorem reads_readLiteral?
    (shows : Window.Shows source before [first] scanner.window)
    (literals : settings.dialect = .pinky)
    (notEqual : first ≠ '=') :
    Reads settings vocabulary scanner first
      (Segment.literalReach? settings first scanner.window.unread.rest)
      (readLiteral? settings vocabulary scanner first) := by
  unfold readLiteral? Segment.literalReach?
  split
  case isTrue digit =>
    exact reads_readNumber? shows digit
  case isFalse =>
    split
    case isTrue quoted =>
      exact reads_readString? shows literals quoted
    case isFalse notQuoted =>
      split
      case isTrue starts =>
        exact reads_readWord? shows starts
      case isFalse =>
        have cause :
            FaultCause.of settings first scanner.window.unread.rest =
              .unrecognizedCharacter first :=
          FaultCause.of_other notEqual fun string =>
            notQuoted (Segment.isQuote_iff.mpr string.2)
        rw [← cause]
        exact .stuck

end Literals

section Operators

/-- An operator that an equals sign may follow is read on with it or taken alone. -/
theorem reads_readEither?
    {double : Operator}
    (shows : Window.Shows source before [first] scanner.window)
    (paired : Operator.ofPair? first '=' = some double) :
    Reads settings vocabulary scanner first
      ((Segment.operatorReach? first scanner.window.unread.rest).map
        fun taken => (.operator taken.1, taken.2))
      (scanner.readEither? double (Operator.ofChar? first)) := by
  have notLineEnd : first ≠ '\n' := by
    rintro rfl
    cases paired
  unfold readEither?
  by_cases follows : scanner.window.next? = some '='
  · obtain ⟨rest, split⟩ := List.head?_eq_some_iff.mp follows
    have whole : scanner.window.unread.rest = ['='] ++ rest :=
      split
    have reach : Segment.operatorReach? first scanner.window.unread.rest = some (double, 1) := by
      simp [split, Segment.operatorReach?, paired]
    rw [Window.accept, if_pos follows, Window.takeOne_eq_past split, reach]
    exact reads_emit? shows whole rfl notLineEnd (by decide)
  · have reach := Segment.operatorReach?_of_noPair fun second atHead =>
      Operator.ofPair?_eq_none (fun equal => follows (equal ▸ atHead)) first
    rw [Window.accept, if_neg follows, reach]
    cases single : Operator.ofChar? first with
    | some symbol =>
        exact reads_emit?_first shows rfl notLineEnd
    | none =>
        have equal : first = '=' := by
          rcases Operator.eq_or_exists_of_ofPair? paired with equal | ⟨half, found⟩
          · exact equal
          · rw [single] at found
            cases found
        subst equal
        rw [shows.lexeme?_eq]
        exact .stuck

/-- A character that is an operator by itself only is taken alone. -/
theorem operatorReach?_of_unpaired
    (unpaired : Operator.ofPair? first '=' = none)
    (rest : List Char) :
    Segment.operatorReach? first rest =
      (Operator.ofChar? first).map fun single => (single, 0) := by
  refine Segment.operatorReach?_of_noPair fun second _ => ?_
  by_cases equal : second = '='
  · rw [equal, unpaired]
  · exact Operator.ofPair?_eq_none equal first

end Operators

section Dispatch

theorem reads_skipComment? (hash : settings.dialect = .hash) :
    Reads settings vocabulary scanner '#'
      (Segment.reach? settings '#' scanner.window.unread.rest)
      (.ok <$> scanner.skipComment?) := by
  have split := List.takeWhile_append_dropWhile (p := Segment.insideLine)
    (l := scanner.window.unread.rest)
  have sameLine := Segment.lineEnd_not_mem_takeWhile (by decide : Segment.insideLine '\n' = false)
  have reach :
      Segment.reach? settings '#' scanner.window.unread.rest =
        some (.comment, (scanner.window.unread.rest.takeWhile Segment.insideLine).length) := by
    simp [Segment.reach?, Segment.isBlank, Segment.commentReach?, hash]
  rw [reach, skipComment?, takeWhile?_eq_moved]
  exact reads_moved split.symm rfl (by simp [sameLine])

/-- Two hyphens start a comment and a single one is an operator. -/
theorem reads_readHyphen?
    (shows : Window.Shows source before ['-'] scanner.window)
    (pinky : settings.dialect = .pinky) :
    Reads settings vocabulary scanner '-'
      (Segment.reach? settings '-' scanner.window.unread.rest)
      (.ok <$> scanner.readHyphen?) := by
  unfold readHyphen?
  by_cases follows : scanner.window.next? = some '-'
  · obtain ⟨body, split⟩ := List.head?_eq_some_iff.mp follows
    have whole :
        scanner.window.unread.rest =
          '-' :: body.takeWhile Segment.insideLine ++ body.dropWhile Segment.insideLine := by
      rw [List.cons_append, List.takeWhile_append_dropWhile, split]
    have sameLine :=
      Segment.lineEnd_not_mem_takeWhile (by decide : Segment.insideLine '\n' = false)
    have reach :
        Segment.reach? settings '-' scanner.window.unread.rest =
          some (.comment, ('-' :: body.takeWhile Segment.insideLine).length) := by
      simp [split, Segment.reach?, Segment.isBlank, Segment.commentReach?, pinky, Nat.add_comm]
    rw [Window.accept, if_pos follows, Window.takeOne_eq_past split, reach]
    simp only [skipComment?, takeWhile?_eq_moved, moved_window, moved_moved, Window.past_past,
      Window.rest_past]
    exact reads_moved whole rfl (by simp [sameLine])
  · have noComment : Segment.commentReach? settings.dialect '-' scanner.window.unread.rest = none :=
      Segment.commentReach?_eq_none (by simp) fun hyphens => follows hyphens.2.2
    have reach :
        Segment.reach? settings '-' scanner.window.unread.rest =
          some (.operator .minus, 0) := by
      rw [Segment.reach?, noComment, operatorReach?_of_unpaired rfl]
      rfl
    rw [Window.accept, if_neg follows, reach]
    exact reads_emit?_first shows rfl (by decide)

/-- An operator, a literal or a word is read on as far as it reaches. -/
theorem reads_readToken?
    (shows : Window.Shows source before [first] scanner.window)
    (notLineEnd : first ≠ '\n')
    (notBlank : ¬ Segment.isBlank first = true)
    (noComment : Segment.commentReach? settings.dialect first scanner.window.unread.rest = none) :
    Reads settings vocabulary scanner first
      (Segment.reach? settings first scanner.window.unread.rest)
      (readToken? settings vocabulary scanner first) := by
  rw [Segment.reach?, if_neg notLineEnd, if_neg notBlank, noComment, readToken?]
  cases paired : Operator.ofPair? first '=' with
  | some double =>
      have either : Reads settings vocabulary scanner first _ _ :=
        reads_readEither? shows paired
      have notLiteral : Segment.startsLiteral first = false :=
        (Operator.head_spelling (Operator.spelling_of_ofPair? paired)).2.2.2.2
      rw [Segment.literalReach?_eq_none notLiteral, ite_self]
      cases found : Segment.operatorReach? first scanner.window.unread.rest <;>
        rwa [found] at either
  | none =>
      have notEqual : first ≠ '=' := by
        rintro rfl
        cases paired
      rw [operatorReach?_of_unpaired paired]
      cases single : Operator.ofChar? first with
      | some symbol =>
          exact reads_emit?_first shows rfl notLineEnd
      | none =>
          simp only [Option.map_none]
          cases dialect : settings.dialect with
          | pinky =>
              exact reads_readLiteral? shows dialect notEqual
          | hash =>
              have cause :
                  FaultCause.of settings first scanner.window.unread.rest =
                    .unrecognizedCharacter first :=
                FaultCause.of_other notEqual (by simp [dialect])
              have unread : Reads settings vocabulary scanner first none _ :=
                .stuck
              rwa [cause] at unread

/-- A lexeme is read on as far as the segment at its place reaches. -/
theorem reads_readLexeme?
    (shows : Window.Shows source before [first] scanner.window) :
    Reads settings vocabulary scanner first
      (Segment.reach? settings first scanner.window.unread.rest)
      (readLexeme? settings vocabulary scanner first) := by
  unfold readLexeme?
  split
  case isTrue lineEnd =>
    subst lineEnd
    exact .segment (List.nil_append _).symm
  case isFalse notLineEnd =>
    split
    case isTrue blank =>
      rw [Segment.reach?, if_neg notLineEnd, if_pos blank]
      exact reads_moved (List.nil_append _).symm rfl (by simpa using Ne.symm notLineEnd)
    case isFalse notBlank =>
      split
      case isTrue marker =>
        obtain ⟨rfl, hash⟩ := marker
        exact reads_skipComment? hash
      case isFalse noHash =>
        split
        case isTrue marker =>
          obtain ⟨rfl, pinky⟩ := marker
          exact reads_readHyphen? shows pinky
        case isFalse noHyphen =>
          exact reads_readToken? shows notLineEnd notBlank
            (Segment.commentReach?_eq_none noHash fun hyphens => noHyphen ⟨hyphens.1, hyphens.2.1⟩)

end Dispatch

end PinkyLex.Scanner
