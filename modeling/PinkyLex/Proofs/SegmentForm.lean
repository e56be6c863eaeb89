import Mathlib.Data.List.TakeWhile
import PinkyLex.Segment.Basic

namespace PinkyLex

/-!
# Forms of segments

What the segments of every kind look like is said here of their texts alone,
without the text around them.  The two main results tie this to the reach of a
segment: what `Segment.reach?` takes has the form of the kind it gives, and it
takes no less than any form that the text starts with.
-/

namespace Text

/-- The alphabetic characters begin at the letter A. -/
theorem le_of_isAlphabetic
    {character : Char}
    (alphabetic : isAlphabetic character = true) :
    0x41 ≤ character.toNat := by
  by_contra below
  have outside : isAlphabetic character = false :=
    CodeSet.contains_eq_false_of_lt _ (Nat.lt_of_not_le below)
  simp [outside] at alphabetic

/-- No word starts with a digit. -/
theorem isDigit_of_startsWord
    {character : Char}
    (starts : startsWord character = true) :
    character.isDigit = false := by
  rw [Bool.eq_false_iff]
  intro digit
  have upper : character.toNat ≤ 57 := by
    simp only [Char.isDigit, Bool.and_eq_true, decide_eq_true_eq] at digit
    exact UInt32.le_iff_toNat_le.mp digit.2
  simp only [startsWord, Bool.or_eq_true, beq_iff_eq] at starts
  rcases starts with alphabetic | rfl
  · have lower := le_of_isAlphabetic alphabetic
    omega
  · exact absurd upper (by decide)

end Text

section Runs

variable {test : Char → Bool} {body tail : List Char}

/-- A run stops where a character follows that does not belong to it. -/
theorem takeWhile_append_of_stops
    (inside : ∀ character ∈ body, test character = true)
    (stops : ∀ next, tail.head? = some next → test next = false) :
    (body ++ tail).takeWhile test = body := by
  rw [List.takeWhile_append_of_pos inside]
  cases tail with
  | nil =>
      simp
  | cons next later =>
      simp [stops next rfl]

theorem dropWhile_append_of_stops
    (inside : ∀ character ∈ body, test character = true)
    (stops : ∀ next, tail.head? = some next → test next = false) :
    (body ++ tail).dropWhile test = tail := by
  rw [List.dropWhile_append_of_pos inside]
  cases tail with
  | nil =>
      rfl
  | cons next later =>
      simp [stops next rfl]

end Runs

namespace Segment

/-- A run of digits that is not empty. -/
structure Digits (text : List Char) : Prop where
  nonempty : text ≠ []
  allDigits : ∀ character ∈ text, character.isDigit = true

/-- The texts that the segments of each kind have. -/
inductive Form (settings : Settings) : SegmentKind → List Char → Prop where
  | lineEnd :
      Form settings .lineEnd ['\n']
  | blank {character : Char} :
      character ∈ [' ', '\t', '\r'] →
      Form settings .blank [character]
  | comment {body : List Char} :
      '\n' ∉ body →
      Form settings .comment (settings.dialect.commentMarker ++ body)
  | operator (symbol : Operator) :
      Form settings (.operator symbol) symbol.spelling.toList
  | integer {digits : List Char} :
      settings.dialect = .pinky →
      Digits digits →
      Form settings .integer digits
  | float {whole fraction : List Char} :
      settings.dialect = .pinky →
      Digits whole →
      Digits fraction →
      Form settings .float (whole ++ '.' :: fraction)
  | string {quote : Char} {body : List Char} :
      settings.dialect = .pinky →
      quote ∈ ['"', '\''] →
      quote ∉ body →
      (settings.multilineStrings = false → '\n' ∉ body) →
      Form settings .string (quote :: (body ++ [quote]))
  | word {first : Char} {rest : List Char} :
      settings.dialect = .pinky →
      Text.startsWord first = true →
      (∀ character ∈ rest, Text.continuesWord character = true) →
      Form settings .word (first :: rest)

/-- Whether a character starts a literal or a word. -/
def startsLiteral (character : Char) : Bool :=
  character.isDigit || isQuote character || Text.startsWord character

theorem literalReach?_eq_none
    {first : Char}
    (notLiteral : startsLiteral first = false)
    (settings : Settings)
    (rest : List Char) :
    literalReach? settings first rest = none := by
  simp only [startsLiteral, Bool.or_eq_false_iff] at notLiteral
  obtain ⟨⟨notDigit, notQuote⟩, notWord⟩ := notLiteral
  simp [literalReach?, notDigit, notQuote, notWord]

end Segment

namespace Operator

theorem spelling_of_ofChar?
    {first : Char}
    {symbol : Operator}
    (found : ofChar? first = some symbol) :
    symbol.spelling.toList = [first] := by
  unfold ofChar? at found
  split at found <;> cases found <;> rfl

theorem spelling_of_ofPair?
    {first second : Char}
    {symbol : Operator}
    (found : ofPair? first second = some symbol) :
    symbol.spelling.toList = [first, second] := by
  unfold ofPair? at found
  split at found <;> cases found <;> rfl

/-- The first half of an operator is an operator, unless it is an equals sign. -/
theorem eq_or_exists_of_ofPair?
    {first second : Char}
    {symbol : Operator}
    (found : ofPair? first second = some symbol) :
    first = '=' ∨ ∃ half, ofChar? first = some half := by
  unfold ofPair? at found
  split at found
  · exact .inl rfl
  · exact .inr ⟨_, rfl⟩
  · exact .inr ⟨_, rfl⟩
  · exact .inr ⟨_, rfl⟩
  · exact .inr ⟨_, rfl⟩
  · cases found

/-- An operator is one character or two, and is found from what it is written with. -/
theorem spelling_cases (symbol : Operator) :
    (∃ first,
      symbol.spelling.toList = [first] ∧ ofChar? first = some symbol) ∨
    (∃ first second,
      symbol.spelling.toList = [first, second] ∧ ofPair? first second = some symbol) := by
  cases symbol with
  | equal | notEqual | lessEqual | greaterEqual | assign =>
      exact .inr ⟨_, _, rfl, rfl⟩
  | _ =>
      exact .inl ⟨_, rfl, rfl⟩

/-- No operator starts like a line end, a blank, a literal or a word. -/
theorem head_spelling
    {symbol : Operator}
    {first : Char}
    {rest : List Char}
    (shape : symbol.spelling.toList = first :: rest) :
    first ≠ '\n' ∧
      Segment.isBlank first = false ∧
      first ≠ '#' ∧
      (first = '-' → rest = []) ∧
      Segment.startsLiteral first = false := by
  cases symbol <;>
    (obtain ⟨rfl, rfl⟩ := List.cons.inj shape.symm) <;>
    decide

end Operator

namespace Segment

section Reach

variable {settings : Settings} {kind : SegmentKind} {first : Char} {rest : List Char} {count : Nat}

/-- The characters taken by a run are the run. -/
private theorem take_length_takeWhile
    (test : Char → Bool)
    (text : List Char) :
    text.take (text.takeWhile test).length = text.takeWhile test :=
  (List.prefix_iff_eq_take.mp (List.takeWhile_prefix test)).symm

private theorem length_takeWhile_le
    (test : Char → Bool)
    (text : List Char) :
    (text.takeWhile test).length ≤ text.length :=
  (List.takeWhile_prefix test).length_le

/-- A run together with what stopped it. -/
private theorem takeWhile_append_of_dropWhile
    {test : Char → Bool}
    {text later : List Char}
    {next : Char}
    (stopped : text.dropWhile test = next :: later) :
    text.takeWhile test ++ next :: later = text := by
  rw [← stopped, List.takeWhile_append_dropWhile]

private theorem length_of_dropWhile
    {test : Char → Bool}
    {text later : List Char}
    {next : Char}
    (stopped : text.dropWhile test = next :: later) :
    (text.takeWhile test).length + (later.length + 1) = text.length := by
  simpa using congrArg List.length (takeWhile_append_of_dropWhile stopped)

private theorem take_past_takeWhile
    {test : Char → Bool}
    {text later : List Char}
    {next : Char}
    (stopped : text.dropWhile test = next :: later)
    (more : Nat) :
    text.take ((text.takeWhile test).length + (more + 1)) =
      text.takeWhile test ++ next :: later.take more := by
  have split := takeWhile_append_of_dropWhile stopped
  generalize text.takeWhile test = run at split ⊢
  rw [← split, List.take_length_add_append, List.take_succ_cons]

theorem Digits.cons_takeWhile
    (digit : first.isDigit = true) :
    Digits (first :: rest.takeWhile Char.isDigit) where
  nonempty :=
    List.cons_ne_nil _ _
  allDigits character member := by
    rcases List.mem_cons.mp member with rfl | inRest
    · exact digit
    · exact List.mem_takeWhile_imp inRest

/-- A run of characters that stops at line ends has none. -/
theorem lineEnd_not_mem_takeWhile
    {test : Char → Bool}
    (stops : test '\n' = false)
    (text : List Char) :
    '\n' ∉ text.takeWhile test := by
  intro member
  exact absurd (List.mem_takeWhile_imp member) (by simp [stops])

theorem form_of_commentReach?
    (reached : commentReach? settings.dialect first rest = some count) :
    count ≤ rest.length ∧ Form settings .comment (first :: rest.take count) := by
  have form (body : List Char) :
      Form settings .comment (settings.dialect.commentMarker ++ body.takeWhile insideLine) :=
    .comment (lineEnd_not_mem_takeWhile (by decide) body)
  unfold commentReach? at reached
  split at reached
  case h_1 body pinky =>
    have bound := length_takeWhile_le insideLine body
    cases reached
    refine ⟨by simp only [List.length_cons]; omega, ?_⟩
    rw [Nat.add_comm, List.take_succ_cons, take_length_takeWhile]
    simpa [pinky, Dialect.commentMarker] using form body
  case h_2 body _ _ _ hash =>
    cases reached
    refine ⟨length_takeWhile_le insideLine body, ?_⟩
    rw [take_length_takeWhile]
    simpa [hash, Dialect.commentMarker] using form body
  case h_3 =>
    cases reached

theorem form_of_operatorReach?
    {symbol : Operator}
    (reached : operatorReach? first rest = some (symbol, count)) :
    count ≤ rest.length ∧ Form settings (.operator symbol) (first :: rest.take count) := by
  have form : Form settings (.operator symbol) symbol.spelling.toList :=
    .operator symbol
  unfold operatorReach? at reached
  cases paired : rest.head?.bind (Operator.ofPair? first) with
  | some found =>
      obtain ⟨second, atHead, found⟩ := Option.bind_eq_some_iff.mp paired
      simp only [paired, Option.some.injEq, Prod.mk.injEq] at reached
      obtain ⟨rfl, rfl⟩ := reached
      obtain ⟨later, rfl⟩ := List.head?_eq_some_iff.mp atHead
      rw [Operator.spelling_of_ofPair? found] at form
      exact ⟨by simp, by simpa using form⟩
  | none =>
      simp only [paired, Option.map_eq_some_iff, Prod.mk.injEq] at reached
      obtain ⟨found, single, rfl, rfl⟩ := reached
      rw [Operator.spelling_of_ofChar? single] at form
      exact ⟨by simp, by simpa using form⟩

theorem form_of_numberReach
    (literals : settings.dialect = .pinky)
    (digit : first.isDigit = true)
    (reached : numberReach rest = (kind, count)) :
    count ≤ rest.length ∧ Form settings kind (first :: rest.take count) := by
  have wholeDigits : Digits (first :: rest.takeWhile Char.isDigit) :=
    .cons_takeWhile digit
  have integerForm :
      (rest.takeWhile Char.isDigit).length ≤ rest.length ∧
        Form settings .integer
          (first :: rest.take (rest.takeWhile Char.isDigit).length) := by
    refine ⟨length_takeWhile_le _ _, ?_⟩
    rw [take_length_takeWhile]
    exact .integer literals wholeDigits
  unfold numberReach at reached
  split at reached
  case h_1 fraction afterWhole =>
    by_cases noDigits : (fraction.takeWhile Char.isDigit).length = 0
    · simp only [noDigits, ↓reduceIte, Prod.mk.injEq] at reached
      obtain ⟨rfl, rfl⟩ := reached
      exact integerForm
    · simp only [noDigits, ↓reduceIte, Prod.mk.injEq] at reached
      obtain ⟨rfl, rfl⟩ := reached
      have lengths := length_of_dropWhile afterWhole
      have bound := length_takeWhile_le Char.isDigit fraction
      refine ⟨by omega, ?_⟩
      have fractionDigits : Digits (fraction.takeWhile Char.isDigit) :=
        ⟨fun empty => noDigits (by simp [empty]), fun _ member => List.mem_takeWhile_imp member⟩
      rw [Nat.add_assoc, Nat.add_comm 1, take_past_takeWhile afterWhole, take_length_takeWhile]
      exact .float literals wholeDigits fractionDigits
  case h_2 =>
    cases reached
    exact integerForm

private theorem insideLine_of_not_mem
    {body : List Char}
    (sameLine : '\n' ∉ body) :
    ∀ character ∈ body, insideLine character = true := by
  intro character member
  rw [insideLine, bne_iff_ne]
  rintro rfl
  exact sameLine member

/-- All that may stand between the quotes of a string lies inside it. -/
theorem insideString_of_not_mem
    {quote : Char}
    {body : List Char}
    (notInside : quote ∉ body)
    (sameLine : settings.multilineStrings = false → '\n' ∉ body) :
    ∀ character ∈ body, insideString settings quote character = true := by
  intro character member
  have different : character ≠ quote := by
    rintro rfl
    exact notInside member
  cases multiline : settings.multilineStrings with
  | true =>
      simp [insideString, different, multiline]
  | false =>
      simp [insideString, different, insideLine_of_not_mem (sameLine multiline) _ member]

/-- A string is taken up to the first quote like its own, if no line end stands in the way. -/
theorem stringReach?_eq_some_iff
    {quote : Char} :
    stringReach? settings quote rest = some count ↔
      ∃ body tail,
        rest = body ++ quote :: tail ∧
          quote ∉ body ∧
          (settings.multilineStrings = false → '\n' ∉ body) ∧
          count = body.length + 1 := by
  unfold stringReach?
  constructor
  · intro reached
    split at reached
    case isTrue closed =>
      cases reached
      obtain ⟨tail, afterBody⟩ := List.head?_eq_some_iff.mp closed
      refine ⟨_, tail, (takeWhile_append_of_dropWhile afterBody).symm, ?_, ?_, rfl⟩
      · intro member
        simpa [insideString] using List.mem_takeWhile_imp member
      · intro singleLine member
        simpa [insideString, insideLine, singleLine] using List.mem_takeWhile_imp member
    case isFalse =>
      cases reached
  · rintro ⟨body, tail, rfl, notInside, sameLine, rfl⟩
    have inside := insideString_of_not_mem notInside sameLine
    have stops (next : Char) (atHead : (quote :: tail).head? = some next) :
        insideString settings quote next = false := by
      cases atHead
      simp [insideString]
    rw [takeWhile_append_of_stops inside stops, dropWhile_append_of_stops inside stops,
      List.head?_cons, if_pos rfl]

theorem form_of_stringReach?
    (literals : settings.dialect = .pinky)
    (quoted : isQuote first = true)
    (reached : stringReach? settings first rest = some count) :
    count ≤ rest.length ∧ Form settings .string (first :: rest.take count) := by
  obtain ⟨body, tail, rfl, notInside, sameLine, rfl⟩ := stringReach?_eq_some_iff.mp reached
  refine ⟨by simp, ?_⟩
  rw [List.take_length_add_append, List.take_succ_cons, List.take_zero]
  exact .string literals (by simpa [isQuote] using quoted) notInside sameLine

theorem form_of_literalReach?
    (literals : settings.dialect = .pinky)
    (reached : literalReach? settings first rest = some (kind, count)) :
    count ≤ rest.length ∧ Form settings kind (first :: rest.take count) := by
  unfold literalReach? at reached
  split at reached
  case isTrue digit =>
    exact form_of_numberReach literals digit (Option.some.inj reached)
  case isFalse =>
    split at reached
    case isTrue quoted =>
      obtain ⟨length, closed, shape⟩ := Option.map_eq_some_iff.mp reached
      cases shape
      exact form_of_stringReach? literals quoted closed
    case isFalse =>
      split at reached
      case isTrue starts =>
        cases reached
        refine ⟨length_takeWhile_le _ _, ?_⟩
        unfold wordReach
        rw [take_length_takeWhile]
        exact .word literals starts fun _ member => List.mem_takeWhile_imp member
      case isFalse =>
        cases reached

/-- What is taken from a text has the form of the kind that it is given. -/
theorem form_of_reach?
    (reached : reach? settings first rest = some (kind, count)) :
    count ≤ rest.length ∧ Form settings kind (first :: rest.take count) := by
  unfold reach? at reached
  split at reached
  case isTrue lineEnd =>
    cases reached
    exact ⟨Nat.zero_le _, lineEnd ▸ .lineEnd⟩
  case isFalse =>
    split at reached
    case isTrue blank =>
      cases reached
      exact ⟨Nat.zero_le _, .blank (by simpa [isBlank, or_assoc] using blank)⟩
    case isFalse =>
      split at reached
      case h_1 comment =>
        cases reached
        exact form_of_commentReach? comment
      case h_2 =>
        split at reached
        case h_1 operator =>
          cases reached
          exact form_of_operatorReach? operator
        case h_2 =>
          split at reached
          case isTrue literals =>
            refine form_of_literalReach? ?_ reached
            cases dialect : settings.dialect with
            | pinky => rfl
            | hash => simp [dialect, Dialect.hasLiterals] at literals
          case isFalse =>
            cases reached

/-- A comment starts with the marker of its dialect only. -/
theorem commentReach?_eq_none
    {dialect : Dialect}
    (noHash : ¬ (first = '#' ∧ dialect = .hash))
    (noHyphens : ¬ (first = '-' ∧ dialect = .pinky ∧ rest.head? = some '-')) :
    commentReach? dialect first rest = none := by
  unfold commentReach?
  split
  case h_1 =>
    exact absurd ⟨rfl, rfl, rfl⟩ noHyphens
  case h_2 =>
    exact absurd ⟨rfl, rfl⟩ noHash
  case h_3 =>
    rfl

/-- A character that makes no pair with the next one is at most an operator by itself. -/
theorem operatorReach?_of_noPair
    (noPair : ∀ second, rest.head? = some second → Operator.ofPair? first second = none) :
    operatorReach? first rest = (Operator.ofChar? first).map fun single => (single, 0) := by
  have alone : rest.head?.bind (Operator.ofPair? first) = none :=
    Option.bind_eq_none_iff.mpr noPair
  rw [operatorReach?, alone]

/-- A text that a literal starts with is no line end, blank, comment or operator. -/
theorem reach?_eq_literalReach?
    (literals : settings.dialect = .pinky)
    (starts : startsLiteral first = true) :
    reach? settings first rest = literalReach? settings first rest := by
  have notLineEnd : first ≠ '\n' := by
    rintro rfl
    exact absurd starts (by decide)
  have notBlank : isBlank first = false := by
    rw [Bool.eq_false_iff]
    intro blank
    simp only [isBlank, Bool.or_eq_true, beq_iff_eq] at blank
    rcases blank with (rfl | rfl) | rfl <;> exact absurd starts (by decide)
  have noComment : commentReach? settings.dialect first rest = none := by
    refine commentReach?_eq_none ?_ ?_
    · rintro ⟨rfl, -⟩
      exact absurd starts (by decide)
    · rintro ⟨rfl, -⟩
      exact absurd starts (by decide)
  have noOperator : operatorReach? first rest = none := by
    cases found : operatorReach? first rest with
    | none =>
        rfl
    | some taken =>
        have form : Form settings _ _ := (form_of_operatorReach? found).2
        generalize shape : first :: rest.take taken.2 = text at form
        cases form
        have notLiteral := (Operator.head_spelling shape.symm).2.2.2.2
        simp [starts] at notLiteral
  rw [reach?, if_neg notLineEnd, if_neg (by simp [notBlank]), noComment, noOperator]
  simp [literals, Dialect.hasLiterals]

/-- At least a segment of a kind and a length is taken, and no other kind of just that length. -/
def TakesAtLeast
    (settings : Settings)
    (first : Char)
    (rest : List Char)
    (kind : SegmentKind)
    (length : Nat) :
    Prop :=
  ∃ found count,
    reach? settings first rest = some (found, count) ∧
      length ≤ count ∧
      (count = length → found = kind)

variable {body tail : List Char}

private theorem length_le_takeWhile_append
    {test : Char → Bool}
    (tail : List Char)
    (inside : ∀ character ∈ body, test character = true) :
    body.length ≤ ((body ++ tail).takeWhile test).length := by
  rw [List.takeWhile_append_of_pos inside, List.length_append]
  exact Nat.le_add_right _ _

theorem takesAtLeast_comment
    (sameLine : '\n' ∉ body)
    (shape : settings.dialect.commentMarker ++ body = first :: rest) :
    TakesAtLeast settings first (rest ++ tail) .comment rest.length := by
  have inside := insideLine_of_not_mem sameLine
  have bound := length_le_takeWhile_append tail inside
  cases dialect : settings.dialect with
  | pinky =>
      simp only [dialect, Dialect.commentMarker, List.cons_append, List.nil_append,
        List.cons.injEq] at shape
      obtain ⟨rfl, rfl⟩ := shape
      refine ⟨.comment, 1 + ((body ++ tail).takeWhile insideLine).length, ?_, ?_, fun _ => rfl⟩
      · simp [reach?, isBlank, commentReach?, dialect]
      · rw [List.length_cons]
        omega
  | hash =>
      simp only [dialect, Dialect.commentMarker, List.cons_append, List.nil_append,
        List.cons.injEq] at shape
      obtain ⟨rfl, rfl⟩ := shape
      refine ⟨.comment, ((body ++ tail).takeWhile insideLine).length, ?_, bound, fun _ => rfl⟩
      simp [reach?, isBlank, commentReach?, dialect]

theorem takesAtLeast_operator
    {symbol : Operator}
    (shape : symbol.spelling.toList = first :: rest) :
    TakesAtLeast settings first (rest ++ tail) (.operator symbol) rest.length := by
  obtain ⟨notLineEnd, notBlank, notHash, afterMinus, -⟩ := Operator.head_spelling shape
  have past :
      ∀ {count}, commentReach? settings.dialect first (rest ++ tail) = some count →
        rest.length < count := by
    intro count commented
    unfold commentReach? at commented
    split at commented
    · cases commented
      rw [afterMinus rfl, List.length_nil]
      omega
    · exact absurd rfl notHash
    · cases commented
  cases commented : commentReach? settings.dialect first (rest ++ tail) with
  | some count =>
      have longer := past commented
      refine ⟨.comment, count, ?_, longer.le, fun same => absurd same longer.ne'⟩
      simp [reach?, notLineEnd, notBlank, commented]
  | none =>
      have reached {found : Operator} {count : Nat}
          (taken : operatorReach? first (rest ++ tail) = some (found, count)) :
          reach? settings first (rest ++ tail) = some (.operator found, count) := by
        simp [reach?, notLineEnd, notBlank, commented, taken]
      rcases symbol.spelling_cases with
        ⟨one, spelled, single⟩ | ⟨one, two, spelled, pair⟩
      · obtain ⟨rfl, rfl⟩ := List.cons.inj (spelled.symm.trans shape)
        cases paired : tail.head?.bind (Operator.ofPair? one) with
        | some longer =>
            exact ⟨.operator longer, 1, reached (by simp [operatorReach?, paired]), by simp, by simp⟩
        | none =>
            exact ⟨.operator symbol, 0, reached (by simp [operatorReach?, paired, single]), by simp,
              fun _ => rfl⟩
      · obtain ⟨rfl, rfl⟩ := List.cons.inj (spelled.symm.trans shape)
        exact ⟨.operator symbol, 1, reached (by simp [operatorReach?, pair]), by simp,
          fun _ => rfl⟩

/-- What is taken from a digit is a number. -/
theorem reach?_of_isDigit
    (literals : settings.dialect = .pinky)
    (digit : first.isDigit = true) :
    reach? settings first rest = some (numberReach rest) := by
  rw [reach?_eq_literalReach? literals (by simp [startsLiteral, digit]), literalReach?,
    if_pos digit]

theorem takesAtLeast_integer
    (literals : settings.dialect = .pinky)
    (digits : Digits (first :: rest)) :
    TakesAtLeast settings first (rest ++ tail) .integer rest.length := by
  obtain ⟨digit, restDigits⟩ := List.forall_mem_cons.mp digits.allDigits
  have bound := length_le_takeWhile_append tail restDigits
  refine ⟨(numberReach (rest ++ tail)).1, (numberReach (rest ++ tail)).2,
    reach?_of_isDigit literals digit, ?_⟩
  · unfold numberReach
    split
    case h_1 fraction _ =>
      by_cases noDigits : (fraction.takeWhile Char.isDigit).length = 0
      · simp only [noDigits, ↓reduceIte, implies_true, and_true]
        exact bound
      · simp only [noDigits, ↓reduceIte]
        exact ⟨by omega, by omega⟩
    case h_2 =>
      exact ⟨bound, fun _ => rfl⟩

theorem takesAtLeast_float
    {whole fraction : List Char}
    (literals : settings.dialect = .pinky)
    (wholeDigits : Digits whole)
    (fractionDigits : Digits fraction)
    (shape : whole ++ '.' :: fraction = first :: rest) :
    TakesAtLeast settings first (rest ++ tail) .float rest.length := by
  obtain ⟨digit, later, rfl⟩ := List.exists_cons_of_ne_nil wholeDigits.nonempty
  rw [List.cons_append, List.cons.injEq] at shape
  obtain ⟨rfl, rfl⟩ := shape
  obtain ⟨isDigit, laterDigits⟩ := List.forall_mem_cons.mp wholeDigits.allDigits
  have bound := length_le_takeWhile_append tail fractionDigits.allDigits
  have positive := List.length_pos_iff.mpr fractionDigits.nonempty
  have someDigits : ((fraction ++ tail).takeWhile Char.isDigit).length ≠ 0 := by
    omega
  have text : later ++ '.' :: fraction ++ tail = later ++ '.' :: (fraction ++ tail) := by
    simp
  have stops (next : Char) (atHead : ('.' :: (fraction ++ tail)).head? = some next) :
      next.isDigit = false := by
    cases atHead
    rfl
  refine ⟨.float, later.length + 1 + ((fraction ++ tail).takeWhile Char.isDigit).length, ?_, ?_,
    fun _ => rfl⟩
  · rw [reach?_of_isDigit literals isDigit, text, numberReach,
      takeWhile_append_of_stops laterDigits stops, dropWhile_append_of_stops laterDigits stops]
    simp only [someDigits, ↓reduceIte]
  · simp only [List.length_append, List.length_cons]
    omega

theorem isQuote_iff
    {character : Char} :
    isQuote character = true ↔ character ∈ ['"', '\''] := by
  simp [isQuote]

theorem isDigit_of_isQuote
    {quote : Char}
    (quoted : isQuote quote = true) :
    quote.isDigit = false := by
  simp only [isQuote, Bool.or_eq_true, beq_iff_eq] at quoted
  rcases quoted with rfl | rfl <;> decide

/-- What is taken from a quote is a string or nothing. -/
theorem reach?_of_isQuote
    (literals : settings.dialect = .pinky)
    (quoted : isQuote first = true) :
    reach? settings first rest =
      (stringReach? settings first rest).map fun count => (.string, count) := by
  rw [reach?_eq_literalReach? literals (by simp [startsLiteral, quoted]), literalReach?,
    if_neg (by simp [isDigit_of_isQuote quoted]), if_pos quoted]

theorem takesAtLeast_string
    {quote : Char}
    (literals : settings.dialect = .pinky)
    (quoted : quote ∈ ['"', '\''])
    (notInside : quote ∉ body)
    (sameLine : settings.multilineStrings = false → '\n' ∉ body) :
    TakesAtLeast settings quote (body ++ [quote] ++ tail) .string (body ++ [quote]).length := by
  have closed : stringReach? settings quote (body ++ [quote] ++ tail) = some (body.length + 1) :=
    stringReach?_eq_some_iff.mpr ⟨body, tail, by simp, notInside, sameLine, rfl⟩
  refine ⟨.string, body.length + 1, ?_, by simp, fun _ => rfl⟩
  rw [reach?_of_isQuote literals (isQuote_iff.mpr quoted), closed]
  rfl

/-- What is taken from a character that starts a word is a word. -/
theorem reach?_of_startsWord
    (literals : settings.dialect = .pinky)
    (startsWord : Text.startsWord first = true) :
    reach? settings first rest = some (.word, wordReach rest) := by
  have notDigit : first.isDigit = false :=
    Text.isDigit_of_startsWord startsWord
  have notQuote : isQuote first = false := by
    rw [Bool.eq_false_iff]
    intro quoted
    simp only [isQuote, Bool.or_eq_true, beq_iff_eq] at quoted
    rcases quoted with rfl | rfl <;> exact absurd startsWord (by decide)
  rw [reach?_eq_literalReach? literals (by simp [startsLiteral, startsWord]), literalReach?,
    if_neg (by simp [notDigit]), if_neg (by simp [notQuote]), if_pos startsWord]

theorem takesAtLeast_word
    (literals : settings.dialect = .pinky)
    (startsWord : Text.startsWord first = true)
    (continues : ∀ character ∈ rest, Text.continuesWord character = true) :
    TakesAtLeast settings first (rest ++ tail) .word rest.length :=
  ⟨.word, wordReach (rest ++ tail), reach?_of_startsWord literals startsWord,
    length_le_takeWhile_append tail continues, fun _ => rfl⟩

/-- No segment that a text starts with is longer than what is taken from it. -/
theorem takesAtLeast_of_form
    (form : Form settings kind (first :: rest))
    (tail : List Char) :
    TakesAtLeast settings first (rest ++ tail) kind rest.length := by
  generalize shape : first :: rest = text at form
  cases form with
  | lineEnd =>
      cases shape
      exact ⟨.lineEnd, 0, by simp [reach?], le_rfl, fun _ => rfl⟩
  | @blank character blank =>
      cases shape
      simp only [List.mem_cons, List.not_mem_nil, or_false] at blank
      rcases blank with rfl | rfl | rfl <;>
        exact ⟨.blank, 0, by simp [reach?, isBlank], le_rfl, fun _ => rfl⟩
  | comment sameLine =>
      exact takesAtLeast_comment sameLine shape.symm
  | operator symbol =>
      exact takesAtLeast_operator shape.symm
  | integer literals digits =>
      exact takesAtLeast_integer literals (shape ▸ digits)
  | float literals whole fraction =>
      exact takesAtLeast_float literals whole fraction shape.symm
  | string literals quoted notInside sameLine =>
      cases shape
      exact takesAtLeast_string literals quoted notInside sameLine
  | word literals starts continues =>
      cases shape
      exact takesAtLeast_word literals starts continues

end Reach

end Segment

end PinkyLex
