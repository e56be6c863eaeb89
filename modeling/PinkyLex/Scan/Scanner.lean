import PinkyLex.Log
import PinkyLex.Source.Window

namespace PinkyLex

/-!
# Scanners

A scanner takes a source apart with a window, one lexeme after the other.  The first
character of a lexeme says how to read on.  Lines are counted where their ends are
passed, between lexemes or inside a string, and a token is logged when it is emitted.

A window cuts its source by bytes, so whatever cuts may give nothing.
-/

/-- A window with the tokens and the events so far, the latest first. -/
structure Scanner where
  window : Window
  found : List Token := []
  events : List LogEvent := []
  deriving Repr, DecidableEq

namespace Scanner

/-- The same scanner with another window. -/
def moved (scanner : Scanner) (window : Window) : Scanner :=
  { scanner with window := window }

@[simp] theorem moved_window (scanner : Scanner) (window : Window) :
    (scanner.moved window).window = window :=
  rfl

@[simp] theorem moved_moved (scanner : Scanner) (first second : Window) :
    (scanner.moved first).moved second = scanner.moved second :=
  rfl

/-- Emit a token. -/
def withToken (scanner : Scanner) (token : Token) : Scanner :=
  { scanner with
    found := token :: scanner.found
    events := .token token :: scanner.events }

/-- Emit the lexeme as a token of a line. -/
def emitOn? (scanner : Scanner) (line : Nat) (kind : TokenKind) : Option Scanner := do
  let lexeme ← scanner.window.lexeme?
  pure (scanner.withToken { kind := kind, lexeme := lexeme, line := line })

/-- Emit the lexeme as a token of the line reached. -/
def emit? (scanner : Scanner) (kind : TokenKind) : Option Scanner :=
  scanner.emitOn? scanner.window.line kind

/-- Take the longest run of characters that satisfy a test into the lexeme. -/
def takeWhile? (scanner : Scanner) (test : Char → Bool) : Option Scanner := do
  let window ← scanner.window.takeWhile? test
  pure (scanner.moved window)

/-- The log, in order, with its last event. -/
def logWith (scanner : Scanner) (ending : LogEvent) : List LogEvent :=
  (ending :: scanner.events).reverse

/-- A fault of the lexeme. -/
def blame (scanner : Scanner) (cause : FaultCause) : Fault where
  cause := cause
  line := scanner.window.line
  offset := scanner.window.start

/-- Read a comment up to the end of its line, which is passed and counted later. -/
def skipComment? (scanner : Scanner) : Option Scanner :=
  scanner.takeWhile? Segment.insideLine

/-- Read a number on after its first digit. -/
def readNumber? (scanner : Scanner) : Option Scanner := do
  let whole ← scanner.takeWhile? Char.isDigit
  if whole.window.next? = some '.' ∧ (whole.window.ahead? 1).any Char.isDigit = true then do
    let fraction ← (whole.moved whole.window.takeOne.2).takeWhile? Char.isDigit
    fraction.emit? .float
  else
    whole.emit? .integer

/-- Go through the inside of a string and say whether the closing quote is next. -/
def passString (settings : Settings) (quote : Char) (window : Window) : Bool × Window :=
  match _ : window.next? with
  | none =>
      (false, window)
  | some next =>
      if next = quote then
        (true, window)
      else if next = '\n' then
        if settings.multilineStrings then
          passString settings quote window.takeOne.2.countLine
        else
          (false, window)
      else
        passString settings quote window.takeOne.2
termination_by window.unread.rest.length
decreasing_by
  all_goals exact Window.length_takeOne_lt (by assumption)

/-- Read a string on after its opening quote.  Its token is on the line on which it opens. -/
def readString?
    (settings : Settings)
    (scanner : Scanner)
    (quote : Char) :
    Option (Except Fault Scanner) :=
  match passString settings quote scanner.window with
  | (true, window) =>
      .ok <$> (scanner.moved window.takeOne.2).emitOn? scanner.window.line .string
  | (false, window) =>
      some (.error (scanner.blame (.unterminatedString (window.stop - window.start))))

/-- Read a word on after its first character and look it up. -/
def readWord? (vocabulary : Vocabulary) (scanner : Scanner) : Option Scanner := do
  let word ← scanner.takeWhile? Text.continuesWord
  let spelling ← word.window.lexeme?
  word.emit? ((vocabulary.find? spelling).getD .identifier)

/-- Read a literal or word on after its first character. -/
def readLiteral?
    (settings : Settings)
    (vocabulary : Vocabulary)
    (scanner : Scanner)
    (first : Char) :
    Option (Except Fault Scanner) :=
  if first.isDigit then
    .ok <$> scanner.readNumber?
  else if Segment.isQuote first then
    readString? settings scanner first
  else if Text.startsWord first then
    .ok <$> scanner.readWord? vocabulary
  else
    some (.error (scanner.blame (.unrecognizedCharacter first)))

/-- Read an operator on: the double one if its second character follows, or else the single one. -/
def readEither?
    (scanner : Scanner)
    (double : Operator)
    (single? : Option Operator) :
    Option (Except Fault Scanner) :=
  match scanner.window.accept '=', single? with
  | (true, window), _ =>
      .ok <$> (scanner.moved window).emit? (.operator double)
  | (false, _), some single =>
      .ok <$> scanner.emit? (.operator single)
  | (false, _), none => do
      let lexeme ← scanner.window.lexeme?
      pure (.error (scanner.blame (.malformedOperator lexeme)))

/-- Read on what two hyphens make a comment and one an operator. -/
def readHyphen? (scanner : Scanner) : Option Scanner :=
  match scanner.window.accept '-' with
  | (true, window) =>
      (scanner.moved window).skipComment?
  | (false, _) =>
      scanner.emit? (.operator .minus)

/-- Read an operator, a literal or a word on after its first character. -/
def readToken?
    (settings : Settings)
    (vocabulary : Vocabulary)
    (scanner : Scanner)
    (first : Char) :
    Option (Except Fault Scanner) :=
  match Operator.ofPair? first '=', Operator.ofChar? first with
  | some double, single? =>
      scanner.readEither? double single?
  | none, some single =>
      .ok <$> scanner.emit? (.operator single)
  | none, none =>
      if settings.dialect.hasLiterals then
        readLiteral? settings vocabulary scanner first
      else
        some (.error (scanner.blame (.unrecognizedCharacter first)))

/-- Read a lexeme on after its first character. -/
def readLexeme?
    (settings : Settings)
    (vocabulary : Vocabulary)
    (scanner : Scanner)
    (first : Char) :
    Option (Except Fault Scanner) :=
  if first = '\n' then
    some (.ok (scanner.moved scanner.window.countLine))
  else if Segment.isBlank first then
    some (.ok scanner)
  else if first = '#' ∧ settings.dialect = .hash then
    .ok <$> scanner.skipComment?
  else if first = '-' ∧ settings.dialect = .pinky then
    .ok <$> scanner.readHyphen?
  else
    readToken? settings vocabulary scanner first

/-- A scanner that has at most the characters left that another one has. -/
def Behind (scanner next : Scanner) : Prop :=
  next.window.unread.rest <:+ scanner.window.unread.rest

section Progress

variable {settings : Settings} {vocabulary : Vocabulary} {scanner next : Scanner}

theorem behind_emitOn?
    {line : Nat}
    {kind : TokenKind}
    (emitted : scanner.emitOn? line kind = some next) :
    scanner.Behind next := by
  obtain ⟨lexeme, -, same⟩ := Option.bind_eq_some_iff.mp emitted
  cases same
  exact List.suffix_rfl

theorem behind_takeWhile?
    {test : Char → Bool}
    (taken : scanner.takeWhile? test = some next) :
    scanner.Behind next := by
  obtain ⟨window, run, same⟩ := Option.bind_eq_some_iff.mp taken
  cases same
  exact Window.suffix_takeWhile? run

theorem behind_readNumber?
    (read : scanner.readNumber? = some next) :
    scanner.Behind next := by
  obtain ⟨whole, taken, read⟩ := Option.bind_eq_some_iff.mp read
  refine List.IsSuffix.trans ?_ (behind_takeWhile? taken)
  split at read
  case isTrue =>
    obtain ⟨fraction, takenToo, emitted⟩ := Option.bind_eq_some_iff.mp read
    exact (behind_emitOn? emitted).trans
      ((behind_takeWhile? takenToo).trans (Window.suffix_takeOne _))
  case isFalse =>
    exact behind_emitOn? read

theorem suffix_passString
    (settings : Settings)
    (quote : Char)
    (window : Window) :
    (passString settings quote window).2.unread.rest <:+ window.unread.rest := by
  fun_induction passString settings quote window with
  | case1 | case2 | case4 =>
      exact List.suffix_rfl
  | case3 window _ _ _ inductionHypothesis =>
      exact inductionHypothesis.trans window.suffix_takeOne
  | case5 window _ _ _ _ inductionHypothesis =>
      exact inductionHypothesis.trans window.suffix_takeOne

theorem behind_readString?
    {quote : Char}
    (read : readString? settings scanner quote = some (.ok next)) :
    scanner.Behind next := by
  have passed := suffix_passString settings quote scanner.window
  unfold readString? at read
  split at read
  case h_1 window closed =>
    obtain ⟨emitted, token, same⟩ := Option.map_eq_some_iff.mp read
    cases same
    rw [closed] at passed
    exact (behind_emitOn? token).trans (window.suffix_takeOne.trans passed)
  case h_2 =>
    cases read

theorem behind_readWord?
    (read : scanner.readWord? vocabulary = some next) :
    scanner.Behind next := by
  obtain ⟨word, taken, read⟩ := Option.bind_eq_some_iff.mp read
  obtain ⟨spelling, -, emitted⟩ := Option.bind_eq_some_iff.mp read
  exact (behind_emitOn? emitted).trans (behind_takeWhile? taken)

theorem behind_readLiteral?
    {first : Char}
    (read : readLiteral? settings vocabulary scanner first = some (.ok next)) :
    scanner.Behind next := by
  unfold readLiteral? at read
  split at read
  case isTrue =>
    obtain ⟨number, readNumber, same⟩ := Option.map_eq_some_iff.mp read
    cases same
    exact behind_readNumber? readNumber
  case isFalse =>
    split at read
    case isTrue =>
      exact behind_readString? read
    case isFalse =>
      split at read
      case isTrue =>
        obtain ⟨word, readWord, same⟩ := Option.map_eq_some_iff.mp read
        cases same
        exact behind_readWord? readWord
      case isFalse =>
        cases read

theorem behind_readEither?
    {double : Operator}
    {single? : Option Operator}
    (read : scanner.readEither? double single? = some (.ok next)) :
    scanner.Behind next := by
  have accepted := scanner.window.suffix_accept '='
  unfold readEither? at read
  split at read
  case h_1 window taken =>
    obtain ⟨emitted, token, same⟩ := Option.map_eq_some_iff.mp read
    cases same
    rw [taken] at accepted
    exact (behind_emitOn? token).trans accepted
  case h_2 =>
    obtain ⟨emitted, token, same⟩ := Option.map_eq_some_iff.mp read
    cases same
    exact behind_emitOn? token
  case h_3 =>
    obtain ⟨lexeme, -, same⟩ := Option.bind_eq_some_iff.mp read
    cases same

theorem behind_readHyphen?
    (read : scanner.readHyphen? = some next) :
    scanner.Behind next := by
  have accepted := scanner.window.suffix_accept '-'
  unfold readHyphen? at read
  split at read
  case h_1 window taken =>
    rw [taken] at accepted
    exact (behind_takeWhile? read).trans accepted
  case h_2 =>
    exact behind_emitOn? read

theorem behind_readToken?
    {first : Char}
    (read : readToken? settings vocabulary scanner first = some (.ok next)) :
    scanner.Behind next := by
  unfold readToken? at read
  split at read
  case h_1 =>
    exact behind_readEither? read
  case h_2 =>
    obtain ⟨emitted, token, same⟩ := Option.map_eq_some_iff.mp read
    cases same
    exact behind_emitOn? token
  case h_3 =>
    split at read
    case isTrue =>
      exact behind_readLiteral? read
    case isFalse =>
      cases read

/-- Reading a lexeme on never goes back. -/
theorem behind_readLexeme?
    {first : Char}
    (read : readLexeme? settings vocabulary scanner first = some (.ok next)) :
    scanner.Behind next := by
  unfold readLexeme? at read
  split at read
  case isTrue =>
    cases read
    exact List.suffix_rfl
  case isFalse =>
    split at read
    case isTrue =>
      cases read
      exact List.suffix_rfl
    case isFalse =>
      split at read
      case isTrue =>
        obtain ⟨comment, skipped, same⟩ := Option.map_eq_some_iff.mp read
        cases same
        exact behind_takeWhile? skipped
      case isFalse =>
        split at read
        case isTrue =>
          obtain ⟨hyphen, readHyphen, same⟩ := Option.map_eq_some_iff.mp read
          cases same
          exact behind_readHyphen? readHyphen
        case isFalse =>
          exact behind_readToken? read

/-- Reading a whole lexeme leaves fewer characters. -/
theorem length_lt_of_readLexeme?
    {first : Char}
    {window : Window}
    (taken : scanner.window.beginLexeme.takeOne = (some first, window))
    (read : readLexeme? settings vocabulary (scanner.moved window) first = some (.ok next)) :
    next.window.unread.rest.length < scanner.window.unread.rest.length := by
  have atHead : scanner.window.beginLexeme.next? = some first := by
    rw [← Window.fst_takeOne, taken]
  have shorter := Window.length_takeOne_lt atHead
  rw [taken] at shorter
  exact Nat.lt_of_le_of_lt (behind_readLexeme? read).length_le shorter

end Progress

/--
Read lexeme after lexeme, up to the end of the source or the first fault, and give the
tokens or the fault together with the log.
-/
def run?
    (settings : Settings)
    (vocabulary : Vocabulary)
    (scanner : Scanner) :
    Option (Except Fault (List Token) × List LogEvent) :=
  match _ : scanner.window.beginLexeme.takeOne with
  | (none, window) =>
      some
        (.ok scanner.found.reverse,
          scanner.logWith (.finished scanner.found.length window.line))
  | (some first, window) =>
      match _ : readLexeme? settings vocabulary (scanner.moved window) first with
      | none =>
          none
      | some (.error fault) =>
          some (.error fault, scanner.logWith (.aborted fault scanner.found.length))
      | some (.ok next) =>
          run? settings vocabulary next
termination_by scanner.window.unread.rest.length
decreasing_by
  exact length_lt_of_readLexeme? (by assumption) (by assumption)

/-- Scan a source and give its tokens or its fault together with the log. -/
def tokenize?
    (settings : Settings)
    (vocabulary : Vocabulary)
    (source : String) :
    Option (Except Fault (List Token) × List LogEvent) :=
  run? settings vocabulary { window := .ofSource source, events := [.started settings.dialect] }

end Scanner

end PinkyLex
