import PinkyLex.Proofs.SegmentTokens
import PinkyLex.Source.Window

namespace PinkyLex

/-!
# Windows in use

Whatever is done with a window, in whatever order, its places stay bytes of the source
between two characters.  What lies before the place reached are the characters that
were taken, and the lexeme is the last part of them.  A run of characters that is taken
by its bytes is the run that is taken one character after the other.
-/

namespace Text

/-- A text can be cut behind some of its characters. -/
theorem splitAtByte?_byteLength (front back : List Char) :
    splitAtByte? (byteLength front) (front ++ back) = some (front, back) := by
  induction front with
  | nil =>
      rw [byteLength_nil, List.nil_append, splitAtByte?]
  | cons character front inductionHypothesis =>
      obtain ⟨count, positive⟩ :
          ∃ count, byteLength (character :: front) = count + 1 :=
        Nat.exists_eq_add_one.mpr (Nat.add_pos_left character.utf8Size_pos _)
      have others : count + 1 - character.utf8Size = byteLength front := by
        rw [← positive, byteLength_cons, Nat.add_sub_cancel_left]
      have fits : character.utf8Size ≤ count + 1 :=
        positive ▸ Nat.le_add_right _ _
      rw [positive, List.cons_append, splitAtByte?, if_pos fits, others, inductionHypothesis]
      rfl

/-- The first character that fails a test starts behind the longest run of those that pass it. -/
theorem byteOfFirst?_not
    (test : Char → Bool)
    (text : List Char) :
    (byteOfFirst? (fun character => !test character) text).getD (byteLength text) =
      byteLength (text.takeWhile test) := by
  induction text with
  | nil =>
      rfl
  | cons character rest inductionHypothesis =>
      cases passes : test character with
      | false =>
          simp [byteOfFirst?, passes]
      | true =>
          rw [List.takeWhile_cons_of_pos passes, byteLength_cons, byteLength_cons,
            ← inductionHypothesis]
          cases found : byteOfFirst? (fun character => !test character) rest <;>
            simp [byteOfFirst?, passes, found]

/-- The bytes of a text in the middle of another one. -/
theorem extract_toByteArray_append (before middle after : String) :
    (before ++ (middle ++ after)).toByteArray.extract before.utf8ByteSize
        (before.utf8ByteSize + middle.utf8ByteSize) =
      middle.toByteArray := by
  rw [String.toByteArray_append, String.toByteArray_append]
  calc
    (before.toByteArray ++ (middle.toByteArray ++ after.toByteArray)).extract
          (before.toByteArray.size + 0) (before.toByteArray.size + middle.toByteArray.size) =
        (middle.toByteArray ++ after.toByteArray).extract 0 middle.toByteArray.size :=
      ByteArray.extract_append_size_add
    _ = middle.toByteArray.extract 0 middle.toByteArray.size :=
      ByteArray.extract_append_size_left
    _ = middle.toByteArray :=
      ByteArray.extract_zero_size

/-- The text between two places that lie between characters. -/
theorem slice?_of_split
    {source : String}
    {before middle after : List Char}
    (split : source.toList = before ++ (middle ++ after)) :
    slice? source (byteLength before) (byteLength (before ++ middle)) =
      some (String.ofList middle) := by
  have startValid : String.Pos.Raw.IsValid source ⟨byteLength before⟩ :=
    isValid_byteLength split
  have stopValid : String.Pos.Raw.IsValid source ⟨byteLength (before ++ middle)⟩ :=
    isValid_byteLength (split.trans (List.append_assoc before middle after).symm)
  have ordered : byteLength before ≤ byteLength (before ++ middle) := by
    rw [byteLength_append]
    exact Nat.le_add_right _ _
  have joined : source = String.ofList before ++ (String.ofList middle ++ String.ofList after) := by
    rw [← String.ofList_append, ← String.ofList_append, ← split, String.ofList_toList]
  have bytes :
      source.toByteArray.extract (byteLength before) (byteLength (before ++ middle)) =
        (String.ofList middle).toByteArray := by
    rw [byteLength_append, ← utf8ByteSize_ofList before, ← utf8ByteSize_ofList middle, joined]
    exact extract_toByteArray_append _ _ _
  rw [slice?, dif_pos ⟨startValid, stopValid, ordered⟩, Option.some.injEq,
    ← String.toByteArray_inj]
  exact bytes

end Text

namespace Window

variable {source : String} {window next : Window} {operation : Operation} {answer : Answer}
variable {before lexeme : List Char}

section OneByOne

/-- Take one character after the other as long as there is one and it passes a test. -/
def takeOneByOne (window : Window) (test : Char → Bool) : Window :=
  match _ : window.next? with
  | none =>
      window
  | some character =>
      if test character then
        window.takeOne.2.takeOneByOne test
      else
        window
termination_by window.unread.rest.length
decreasing_by
  exact length_takeOne_lt (by assumption)

/-- The window that has gone past some characters and leaves others. -/
def past (window : Window) (taken rest : List Char) : Window :=
  { window with
    unread := { offset := window.stop + Text.byteLength taken, rest := rest } }

@[simp] theorem rest_past (window : Window) (taken rest : List Char) :
    (window.past taken rest).unread.rest = rest :=
  rfl

theorem takeOne_eq_past
    {character : Char}
    {rest : List Char}
    (shape : window.unread.rest = character :: rest) :
    window.takeOne = (some character, window.past [character] rest) := by
  simp [takeOne, Unread.takeOne, shape, past, stop]

/-- A window that goes past nothing stays where it is. -/
theorem past_nil (window : Window) :
    window.past [] window.unread.rest = window :=
  rfl

theorem past_past
    (window : Window)
    (first second middle rest : List Char) :
    (window.past first middle).past second rest = window.past (first ++ second) rest := by
  simp [past, stop, Nat.add_assoc]

theorem takeOneByOne_eq_past
    (window : Window)
    (test : Char → Bool) :
    window.takeOneByOne test =
      window.past (window.unread.rest.takeWhile test) (window.unread.rest.dropWhile test) := by
  fun_induction takeOneByOne window test with
  | case1 window atEnd =>
      have nothing : window.unread.rest = [] :=
        List.head?_eq_none_iff.mp atEnd
      have stays := past_nil window
      rw [nothing] at stays
      rw [nothing, List.takeWhile_nil, List.dropWhile_nil, stays]
  | case2 window character atHead passes inductionHypothesis =>
      obtain ⟨rest, shape⟩ := List.head?_eq_some_iff.mp atHead
      rw [inductionHypothesis, takeOne_eq_past shape, shape, List.takeWhile_cons_of_pos passes,
        List.dropWhile_cons_of_pos passes]
      exact past_past window [character] _ _ _
  | case3 window character atHead fails =>
      obtain ⟨rest, shape⟩ := List.head?_eq_some_iff.mp atHead
      rw [shape, List.takeWhile_cons_of_neg fails, List.dropWhile_cons_of_neg fails, ← shape,
        past_nil]

/-- The bytes of a run are those of its characters, taken one by one. -/
theorem takeWhile?_eq_takeOneByOne
    (window : Window)
    (test : Char → Bool) :
    window.takeWhile? test = some (window.takeOneByOne test) := by
  have bytes := Text.byteOfFirst?_not test window.unread.rest
  have cut :=
    Text.splitAtByte?_byteLength (window.unread.rest.takeWhile test)
      (window.unread.rest.dropWhile test)
  rw [List.takeWhile_append_dropWhile] at cut
  rw [takeOneByOne_eq_past, takeWhile?, bytes, Unread.takeBytes?, cut]
  rfl

theorem takeWhile?_eq_past
    (window : Window)
    (test : Char → Bool) :
    window.takeWhile? test =
      some (window.past (window.unread.rest.takeWhile test)
        (window.unread.rest.dropWhile test)) := by
  rw [takeWhile?_eq_takeOneByOne, takeOneByOne_eq_past]

end OneByOne

/-- What an operation answers and what it leaves, given what is unread. -/
inductive Effect (window : Window) : Operation → Answer → Window → Prop where
  | beginLexeme :
      Effect window .beginLexeme .nothing { window with start := window.stop }
  | countLine :
      Effect window .countLine .nothing { window with line := window.line + 1 }
  | takeOne {character : Char} {rest : List Char} :
      window.unread.rest = character :: rest →
      Effect window .takeOne (.character (some character)) (window.past [character] rest)
  | takeNone :
      window.unread.rest = [] →
      Effect window .takeOne (.character none) window
  | look :
      Effect window .look (.character window.unread.rest.head?) window
  | lookAhead {distance : Nat} :
      Effect window (.lookAhead distance) (.character window.unread.rest[distance]?) window
  | accept {expected : Char} {rest : List Char} :
      window.unread.rest = expected :: rest →
      Effect window (.accept expected) (.accepted true) (window.past [expected] rest)
  | refuse {expected : Char} :
      window.unread.rest.head? ≠ some expected →
      Effect window (.accept expected) (.accepted false) window
  | takeWhile {test : Char → Bool} :
      Effect window (.takeWhile test) .nothing (window.takeOneByOne test)

/-- Every operation has its effect, whatever the window. -/
theorem exists_effect (window : Window) (operation : Operation) :
    ∃ answer next,
      window.perform operation = some (answer, next) ∧ Effect window operation answer next := by
  cases operation with
  | beginLexeme =>
      exact ⟨_, _, rfl, .beginLexeme⟩
  | countLine =>
      exact ⟨_, _, rfl, .countLine⟩
  | takeOne =>
      refine ⟨_, _, rfl, ?_⟩
      cases shape : window.unread.rest with
      | nil =>
          have same : window.takeOne = (none, window) := by
            simp [Window.takeOne, Unread.takeOne, shape]
          rw [same]
          exact .takeNone shape
      | cons character rest =>
          rw [takeOne_eq_past shape]
          exact .takeOne shape
  | look =>
      exact ⟨_, _, rfl, .look⟩
  | lookAhead distance =>
      exact ⟨_, _, rfl, .lookAhead⟩
  | accept expected =>
      refine ⟨_, _, rfl, ?_⟩
      by_cases atHead : window.next? = some expected
      · obtain ⟨rest, shape⟩ := List.head?_eq_some_iff.mp atHead
        rw [Window.accept, if_pos atHead, takeOne_eq_past shape]
        exact .accept shape
      · rw [Window.accept, if_neg atHead]
        exact .refuse atHead
  | takeWhile test =>
      refine ⟨.nothing, window.takeOneByOne test, ?_, .takeWhile⟩
      rw [perform, takeWhile?_eq_takeOneByOne]
      rfl

namespace Operation

/-- The characters that an operation takes from those that are unread. -/
def takes (rest : List Char) : Operation → List Char
  | .takeOne =>
      rest.take 1
  | .accept expected =>
      if rest.head? = some expected then rest.take 1 else []
  | .takeWhile test =>
      rest.takeWhile test
  | .beginLexeme | .countLine | .look | .lookAhead _ =>
      []

/-- The characters that operations take one after the other. -/
def takesAll : List Char → List Operation → List Char
  | _, [] =>
      []
  | rest, operation :: others =>
      operation.takes rest ++ takesAll (rest.drop (operation.takes rest).length) others

/-- Whether an operation counts a line. -/
def countsLine : Operation → Bool
  | .countLine => true
  | _ => false

end Operation

/-- A window shows a lexeme of a source behind some characters. -/
structure Shows
    (source : String)
    (before lexeme : List Char)
    (window : Window) : Prop where
  sameSource :
    window.source = source
  split :
    source.toList = before ++ (lexeme ++ window.unread.rest)
  start :
    window.start = Text.byteLength before
  stop :
    window.stop = Text.byteLength (before ++ lexeme)

namespace Shows

theorem ofSource (source : String) :
    Shows source [] [] (ofSource source) where
  sameSource := rfl
  split := rfl
  start := rfl
  stop := rfl

/-- The characters that are taken become the end of the lexeme. -/
theorem past
    {taken rest : List Char}
    (shows : Shows source before lexeme window)
    (shape : window.unread.rest = taken ++ rest) :
    Shows source before (lexeme ++ taken) (window.past taken rest) where
  sameSource := shows.sameSource
  split := by
    rw [shows.split, shape, List.append_assoc]
    rfl
  start := shows.start
  stop := by
    rw [← List.append_assoc, Text.byteLength_append, ← shows.stop]
    rfl

/-- A new lexeme starts behind all characters that were taken. -/
theorem beginLexeme (shows : Shows source before lexeme window) :
    Shows source (before ++ lexeme) [] { window with start := window.stop } where
  sameSource := shows.sameSource
  split := by
    rw [shows.split, List.append_assoc]
    rfl
  start := shows.stop
  stop := by
    rw [List.append_nil]
    exact shows.stop

theorem lexeme?_eq (shows : Shows source before lexeme window) :
    window.lexeme? = some (String.ofList lexeme) := by
  rw [lexeme?, shows.sameSource, shows.start, shows.stop]
  exact Text.slice?_of_split shows.split

theorem start_le_stop (shows : Shows source before lexeme window) :
    window.start ≤ window.stop := by
  rw [shows.start, shows.stop, Text.byteLength_append]
  exact Nat.le_add_right _ _

/-- An operation adds what it takes to what lies before the place reached. -/
theorem effect
    (shows : Shows source before lexeme window)
    (effect : Effect window operation answer next) :
    window.unread.rest = operation.takes window.unread.rest ++ next.unread.rest ∧
      ∃ front back,
        front ++ back = before ++ (lexeme ++ operation.takes window.unread.rest) ∧
          Shows source front back next := by
  cases effect with
  | beginLexeme =>
      refine ⟨rfl, before ++ lexeme, [], ?_, shows.beginLexeme⟩
      simp [Operation.takes]
  | countLine =>
      refine ⟨rfl, before, lexeme, ?_, ⟨shows.sameSource, shows.split, shows.start, shows.stop⟩⟩
      simp [Operation.takes]
  | takeOne shape =>
      refine ⟨?_, before, _, ?_, shows.past shape⟩ <;> simp [Operation.takes, shape, Window.past]
  | takeNone shape =>
      refine ⟨?_, before, lexeme, ?_, shows⟩ <;> simp [Operation.takes, shape]
  | look =>
      refine ⟨rfl, before, lexeme, ?_, shows⟩
      simp [Operation.takes]
  | lookAhead =>
      refine ⟨rfl, before, lexeme, ?_, shows⟩
      simp [Operation.takes]
  | accept shape =>
      refine ⟨?_, before, _, ?_, shows.past shape⟩ <;> simp [Operation.takes, shape, Window.past]
  | refuse atHead =>
      refine ⟨?_, before, lexeme, ?_, shows⟩ <;> simp [Operation.takes, atHead]
  | @takeWhile test =>
      have whole := List.takeWhile_append_dropWhile (p := test) (l := window.unread.rest)
      rw [takeOneByOne_eq_past]
      exact ⟨whole.symm, before, _, rfl, shows.past whole.symm⟩

end Shows

namespace Effect

theorem line_eq (effect : Effect window operation answer next) :
    next.line = window.line + [operation].countP Operation.countsLine := by
  cases effect with
  | countLine =>
      rfl
  | takeWhile =>
      rw [takeOneByOne_eq_past]
      rfl
  | beginLexeme | takeOne | takeNone | look | lookAhead | accept | refuse =>
      rfl

/-- No operation goes back. -/
theorem places_le
    (effect : Effect window operation answer next)
    (ordered : window.start ≤ window.stop) :
    window.start ≤ next.start ∧ window.stop ≤ next.stop := by
  cases effect with
  | beginLexeme =>
      exact ⟨ordered, Nat.le_refl _⟩
  | takeOne | accept =>
      exact ⟨Nat.le_refl _, Nat.le_add_right _ _⟩
  | takeWhile =>
      rw [takeOneByOne_eq_past]
      exact ⟨Nat.le_refl _, Nat.le_add_right _ _⟩
  | countLine | takeNone | look | lookAhead | refuse =>
      exact ⟨Nat.le_refl _, Nat.le_refl _⟩

end Effect

/-- Operations can always be done; what they take is added to what lies before the place reached. -/
theorem exists_performAll
    (operations : List Operation)
    (shows : Shows source before lexeme window) :
    ∃ last front back,
      window.performAll operations = some last ∧
        front ++ back = before ++ (lexeme ++ Operation.takesAll window.unread.rest operations) ∧
        Shows source front back last ∧
        last.line = window.line + operations.countP Operation.countsLine := by
  induction operations generalizing window before lexeme with
  | nil =>
      refine ⟨window, before, lexeme, rfl, ?_, shows, rfl⟩
      rw [Operation.takesAll, List.append_nil]
  | cons operation others inductionHypothesis =>
      obtain ⟨answer, next, performed, effect⟩ := exists_effect window operation
      obtain ⟨rest, front, back, taken, shown⟩ := shows.effect effect
      obtain ⟨last, lastFront, lastBack, later, takenLater, shownLast, line⟩ :=
        inductionHypothesis shown
      have behind :
          window.unread.rest.drop (operation.takes window.unread.rest).length =
            next.unread.rest := by
        calc
          window.unread.rest.drop (operation.takes window.unread.rest).length =
              (operation.takes window.unread.rest ++ next.unread.rest).drop
                (operation.takes window.unread.rest).length :=
            congrArg _ rest
          _ = next.unread.rest :=
            List.drop_left
      refine ⟨last, lastFront, lastBack, ?_, ?_, shownLast, ?_⟩
      · rw [performAll, performed]
        exact later
      · rw [takenLater, ← List.append_assoc, taken, Operation.takesAll, behind]
        simp only [List.append_assoc]
      · rw [line, effect.line_eq, Nat.add_assoc, ← List.countP_append, List.singleton_append]

/-- What holds of a window on a source after some operations. -/
structure Faithful
    (source : String)
    (operations : List Operation)
    (window : Window) : Prop where
  ordered :
    window.start ≤ window.stop
  inside :
    window.stop ≤ source.utf8ByteSize
  startBoundary :
    String.Pos.Raw.IsValid source ⟨window.start⟩
  stopBoundary :
    String.Pos.Raw.IsValid source ⟨window.stop⟩
  takenBefore :
    Text.slice? source 0 window.stop =
      some (String.ofList (Operation.takesAll source.toList operations))
  unreadBehind :
    Text.slice? source window.stop source.utf8ByteSize =
      some (String.ofList window.unread.rest)
  lexemeBetween :
    ∃ before lexeme,
      source = before ++ (lexeme ++ String.ofList window.unread.rest) ∧
        window.start = before.utf8ByteSize ∧
        window.stop = (before ++ lexeme).utf8ByteSize ∧
        window.lexeme? = some lexeme
  line :
    window.line = 1 + operations.countP Operation.countsLine

theorem Shows.faithful
    {operations : List Operation}
    (shows : Shows source before lexeme window)
    (taken : before ++ lexeme = Operation.takesAll source.toList operations)
    (line : window.line = 1 + operations.countP Operation.countsLine) :
    Faithful source operations window := by
  have cutStart : source.toList = before ++ (lexeme ++ window.unread.rest) :=
    shows.split
  have cutStop : source.toList = (before ++ lexeme) ++ window.unread.rest :=
    cutStart.trans (List.append_assoc _ _ _).symm
  have stopBoundary : String.Pos.Raw.IsValid source ⟨window.stop⟩ :=
    shows.stop ▸ Text.isValid_byteLength cutStop
  refine
    { ordered := shows.start_le_stop
      inside := stopBoundary.le_utf8ByteSize
      startBoundary := shows.start ▸ Text.isValid_byteLength cutStart
      stopBoundary := stopBoundary
      takenBefore := ?_
      unreadBehind := ?_
      lexemeBetween := ?_
      line := line }
  · have fromStart : source.toList = [] ++ ((before ++ lexeme) ++ window.unread.rest) :=
      cutStop
    rw [shows.stop, ← taken]
    exact Text.slice?_of_split fromStart
  · have whole : source.toList = (before ++ lexeme) ++ (window.unread.rest ++ []) := by
      rw [List.append_nil, cutStop]
    rw [shows.stop, ← Text.byteLength_toList, cutStop]
    exact Text.slice?_of_split whole
  · refine ⟨String.ofList before, String.ofList lexeme, ?_, ?_, ?_, ?_⟩
    · rw [← String.ofList_append, ← String.ofList_append, ← cutStart, String.ofList_toList]
    · rw [Text.utf8ByteSize_ofList, shows.start]
    · rw [← String.ofList_append, Text.utf8ByteSize_ofList, shows.stop]
    · exact shows.lexeme?_eq

/--
Whatever is done with a window, nothing fails, and afterwards its places, its lexeme and
its line are true to the source.  Every further operation has its effect and does not go
back.
-/
theorem performAll_faithful (source : String) (operations : List Operation) :
    ∃ window,
      (ofSource source).performAll operations = some window ∧
        Faithful source operations window ∧
        ∀ operation,
          ∃ answer next,
            window.perform operation = some (answer, next) ∧
              Effect window operation answer next ∧
              window.start ≤ next.start ∧
              window.stop ≤ next.stop := by
  obtain ⟨window, before, lexeme, performed, taken, shows, line⟩ :=
    exists_performAll operations (Shows.ofSource source)
  refine ⟨window, performed, shows.faithful taken line, fun operation => ?_⟩
  obtain ⟨answer, next, done, effect⟩ := exists_effect window operation
  obtain ⟨start, stop⟩ := effect.places_le shows.start_le_stop
  exact ⟨answer, next, done, effect, start, stop⟩

/-- Places count bytes. -/
example :
    ((ofSource "é1").performAll [.takeOne, .beginLexeme]).map start = some 2 := by
  decide

end Window

end PinkyLex
