import PinkyLex.Proofs.LongestTiling
import PinkyLex.Proofs.SegmentTokens

namespace PinkyLex

/-!
# Where segments end

A segment that becomes a token ends at its own last character unless one or two
characters behind it would make it longer.  `Segment.RunsOn` lists all the ways in
which they do.
-/

namespace Text

/-- A word may go on with a digit. -/
theorem continuesWord_of_isDigit
    {character : Char}
    (digit : character.isDigit = true) :
    continuesWord character = true := by
  simp only [Char.isDigit, Bool.and_eq_true, decide_eq_true_eq] at digit
  have lower : 0x30 ≤ character.toNat := UInt32.le_iff_toNat_le.mp digit.1
  have upper : character.toNat < 0x3a := Nat.lt_succ_of_le (UInt32.le_iff_toNat_le.mp digit.2)
  have numeric : isNumeric character = true :=
    (CodeSet.contains_cons_of_le _ lower).trans
      (congrArg Bool.not (CodeSet.contains_eq_false_of_lt _ upper))
  simp [continuesWord, isAlphanumeric, numeric]

end Text

namespace Operator

/-- Only an equals sign is a second character of an operator, and only after five others. -/
theorem mem_of_ofPair?
    {first second : Char}
    {symbol : Operator}
    (found : ofPair? first second = some symbol) :
    second = '=' ∧ first ∈ ['=', '<', '>', '~', ':'] := by
  unfold ofPair? at found
  split at found
  case h_6 =>
    cases found
  all_goals exact ⟨rfl, by decide⟩

theorem ofPair?_eq_none
    {second : Char}
    (notEqual : second ≠ '=')
    (first : Char) :
    ofPair? first second = none := by
  rw [Option.eq_none_iff_forall_ne_some]
  intro symbol found
  exact notEqual (mem_of_ofPair? found).1

/-- An operator starts like no word and, if with a point or an equals sign, like one operator only. -/
theorem rest_of_spelling
    {symbol : Operator}
    {first : Char}
    {rest : List Char}
    (shape : symbol.spelling.toList = first :: rest) :
    Text.continuesWord first = false ∧
      (first = '.' → rest = []) ∧
      (first = '=' → rest = ['=']) := by
  cases symbol <;>
    (obtain ⟨rfl, rfl⟩ := List.cons.inj shape.symm) <;>
    decide

end Operator

namespace Segment

/-- A text goes on into the text behind it, so that a longer segment may start with it. -/
inductive RunsOn (dialect : Dialect) : List Char → List Char → Prop where
  | word {first next : Char} {rest later : List Char} :
      Text.startsWord first = true →
      Text.continuesWord next = true →
      RunsOn dialect (first :: rest) (next :: later)
  | number {first next : Char} {rest later : List Char} :
      first.isDigit = true →
      next.isDigit = true →
      RunsOn dialect (first :: rest) (next :: later)
  | fraction {digits later : List Char} {next : Char} :
      Digits digits →
      next.isDigit = true →
      RunsOn dialect digits ('.' :: next :: later)
  | equal {first : Char} {later : List Char} :
      first ∈ ['<', '>', '~', ':'] →
      RunsOn dialect [first] ('=' :: later)
  | comment {later : List Char} :
      dialect = .pinky →
      RunsOn dialect ['-'] ('-' :: later)

variable {settings : Settings} {kind : SegmentKind} {text tail rest : List Char} {first : Char}

/-- A segment that becomes a token is an operator, or its first character says what it is. -/
theorem Form.token_cases
    (form : Form settings kind (first :: rest))
    (loud : ¬ Silent ⟨kind, first :: rest⟩) :
    (∃ symbol, kind = .operator symbol ∧ symbol.spelling.toList = first :: rest) ∨
      settings.dialect = .pinky ∧
        (first.isDigit = true ∧ (kind = .integer ∨ kind = .float) ∨
          first ∈ ['"', '\''] ∧ kind = .string ∨
          Text.startsWord first = true ∧ kind = .word) := by
  generalize shape : first :: rest = text at form loud
  cases form with
  | lineEnd =>
      exact absurd (.inl rfl) loud
  | blank =>
      exact absurd (.inr (.inl rfl)) loud
  | comment =>
      exact absurd (.inr (.inr rfl)) loud
  | operator symbol =>
      exact .inl ⟨symbol, rfl, rfl⟩
  | integer literals digits =>
      subst shape
      exact .inr ⟨literals, .inl ⟨digits.allDigits first List.mem_cons_self, .inl rfl⟩⟩
  | float literals whole fraction =>
      obtain ⟨digit, digits, rfl⟩ := List.exists_cons_of_ne_nil whole.nonempty
      cases shape
      exact .inr ⟨literals, .inl ⟨whole.allDigits first List.mem_cons_self, .inr rfl⟩⟩
  | string literals quoted =>
      cases shape
      exact .inr ⟨literals, .inr (.inl ⟨quoted, rfl⟩)⟩
  | word literals starts =>
      cases shape
      exact .inr ⟨literals, .inr (.inr ⟨starts, rfl⟩)⟩

/-- What starts like a literal is a number, a string or a word, by its first character. -/
theorem Form.literal_cases
    (form : Form settings kind (first :: rest))
    (loud : ¬ Silent ⟨kind, first :: rest⟩)
    (starts : startsLiteral first = true) :
    settings.dialect = .pinky ∧
      (first.isDigit = true ∧ (kind = .integer ∨ kind = .float) ∨
        first ∈ ['"', '\''] ∧ kind = .string ∨
        Text.startsWord first = true ∧ kind = .word) := by
  rcases form.token_cases loud with ⟨symbol, -, spelled⟩ | literal
  · have notLiteral := (Operator.head_spelling spelled).2.2.2.2
    simp [starts] at notLiteral
  · exact literal

/-- Of the tokens that two characters may lead to, the first character fixes which one it is. -/
theorem Form.rest_of_first
    (form : Form settings kind (first :: rest))
    (loud : ¬ Silent ⟨kind, first :: rest⟩) :
    (first = '.' → rest = []) ∧
      (first = '=' → rest = ['=']) ∧
      (first = '-' → rest = []) ∧
      (Text.continuesWord first = true →
        Text.startsWord first = true ∨ first.isDigit = true) := by
  rcases form.token_cases loud with
    ⟨symbol, -, spelled⟩ | ⟨-, ⟨digit, -⟩ | ⟨quoted, -⟩ | ⟨starts, -⟩⟩
  · obtain ⟨notWord, afterPoint, afterEqual⟩ := Operator.rest_of_spelling spelled
    refine ⟨afterPoint, afterEqual, (Operator.head_spelling spelled).2.2.2.1, ?_⟩
    intro continues
    simp [notWord] at continues
  · refine ⟨?_, ?_, ?_, fun _ => .inr digit⟩ <;>
      (rintro rfl; exact absurd digit (by decide))
  · refine ⟨?_, ?_, ?_, ?_⟩
    case refine_4 =>
      simp only [List.mem_cons, List.not_mem_nil, or_false] at quoted
      rcases quoted with rfl | rfl <;> exact fun continues => absurd continues (by decide)
    all_goals
      rintro rfl
      exact absurd quoted (by decide)
  · refine ⟨?_, ?_, ?_, fun _ => .inl starts⟩ <;>
      (rintro rfl; exact absurd starts (by decide))

theorem Form.kind_of_startsWord
    (form : Form settings kind (first :: rest))
    (loud : ¬ Silent ⟨kind, first :: rest⟩)
    (starts : Text.startsWord first = true) :
    kind = .word := by
  have notDigit := Text.isDigit_of_startsWord starts
  obtain ⟨-, ⟨digit, -⟩ | ⟨quoted, -⟩ | ⟨-, word⟩⟩ :=
    form.literal_cases loud (by simp [startsLiteral, starts])
  · simp [notDigit] at digit
  · simp only [List.mem_cons, List.not_mem_nil, or_false] at quoted
    rcases quoted with rfl | rfl <;> exact absurd starts (by decide)
  · exact word

theorem Form.kind_of_isDigit
    (form : Form settings kind (first :: rest))
    (loud : ¬ Silent ⟨kind, first :: rest⟩)
    (digit : first.isDigit = true) :
    kind = .integer ∨ kind = .float := by
  obtain ⟨-, ⟨-, number⟩ | ⟨quoted, -⟩ | ⟨starts, -⟩⟩ :=
    form.literal_cases loud (by simp [startsLiteral, digit])
  · exact number
  · simp [isDigit_of_isQuote (isQuote_iff.mpr quoted)] at digit
  · simp [Text.isDigit_of_startsWord starts] at digit

section Stops

variable (quiet : ¬ RunsOn settings.dialect text tail)
include quiet

theorem not_digit_of_not_runsOn
    (digit : first.isDigit = true)
    (shape : text = first :: rest)
    (next : Char)
    (atHead : tail.head? = some next) :
    next.isDigit = false := by
  obtain ⟨later, rfl⟩ := List.head?_eq_some_iff.mp atHead
  rw [Bool.eq_false_iff]
  exact fun goesOn => quiet (shape ▸ .number digit goesOn)

theorem longest_integer_of_not_runsOn
    (literals : settings.dialect = .pinky)
    (digits : Digits text) :
    Longest settings ⟨.integer, text⟩ (text ++ tail) := by
  obtain ⟨first, rest, rfl⟩ := List.exists_cons_of_ne_nil digits.nonempty
  obtain ⟨digit, restDigits⟩ := List.forall_mem_cons.mp digits.allDigits
  have stops := not_digit_of_not_runsOn quiet digit rfl
  rw [List.cons_append, longest_iff_reach?, reach?_of_isDigit literals digit, numberReach,
    takeWhile_append_of_stops restDigits stops, dropWhile_append_of_stops restDigits stops]
  split
  case h_1 fraction =>
    have noFraction : fraction.takeWhile Char.isDigit = [] := by
      cases fraction with
      | nil =>
          rfl
      | cons next later =>
          have notDigit : ¬ next.isDigit = true :=
            fun digit => quiet (.fraction digits digit)
          rw [List.takeWhile_cons_of_neg notDigit]
    rw [noFraction]
    rfl
  case h_2 =>
    rfl

theorem longest_float_of_not_runsOn
    {whole fraction : List Char}
    (literals : settings.dialect = .pinky)
    (wholeDigits : Digits whole)
    (fractionDigits : Digits fraction)
    (shape : text = whole ++ '.' :: fraction) :
    Longest settings ⟨.float, text⟩ (text ++ tail) := by
  obtain ⟨first, rest, rfl⟩ := List.exists_cons_of_ne_nil wholeDigits.nonempty
  obtain ⟨digit, restDigits⟩ := List.forall_mem_cons.mp wholeDigits.allDigits
  have point (next : Char) (atHead : ('.' :: (fraction ++ tail)).head? = some next) :
      next.isDigit = false := by
    cases atHead
    rfl
  have stops := not_digit_of_not_runsOn quiet digit shape
  have positive := List.length_pos_iff.mpr fractionDigits.nonempty
  have someDigits : fraction.length ≠ 0 := by
    omega
  subst shape
  rw [List.cons_append, List.cons_append, longest_iff_reach?, List.append_assoc, List.cons_append,
    reach?_of_isDigit literals digit, numberReach, takeWhile_append_of_stops restDigits point,
    dropWhile_append_of_stops restDigits point]
  simp only [takeWhile_append_of_stops fractionDigits.allDigits stops, someDigits, ↓reduceIte,
    List.length_append, List.length_cons]
  rw [Nat.add_right_comm, Nat.add_assoc]

theorem longest_word_of_not_runsOn
    (literals : settings.dialect = .pinky)
    (starts : Text.startsWord first = true)
    (continues : ∀ character ∈ rest, Text.continuesWord character = true)
    (shape : text = first :: rest) :
    Longest settings ⟨.word, text⟩ (text ++ tail) := by
  have stops (next : Char) (atHead : tail.head? = some next) :
      Text.continuesWord next = false := by
    obtain ⟨later, rfl⟩ := List.head?_eq_some_iff.mp atHead
    rw [Bool.eq_false_iff]
    exact fun goesOn => quiet (shape ▸ .word starts goesOn)
  rw [shape, List.cons_append, longest_iff_reach?, reach?_of_startsWord literals starts, wordReach,
    takeWhile_append_of_stops continues stops]

theorem longest_operator_of_not_runsOn
    {symbol : Operator}
    (spelled : symbol.spelling.toList = text) :
    Longest settings ⟨.operator symbol, text⟩ (text ++ tail) := by
  have form : Form settings (.operator symbol) text := spelled ▸ .operator symbol
  obtain ⟨first, rest, rfl⟩ := List.exists_cons_of_ne_nil form.ne_nil
  obtain ⟨notLineEnd, notBlank, notHash, afterMinus, -⟩ := Operator.head_spelling spelled
  have noComment : commentReach? settings.dialect first (rest ++ tail) = none := by
    refine commentReach?_eq_none (fun marker => notHash marker.1) ?_
    rintro ⟨rfl, pinky, follows⟩
    rw [afterMinus rfl] at follows quiet
    obtain ⟨body, rfl⟩ := List.head?_eq_some_iff.mp follows
    exact quiet (.comment pinky)
  have operator : operatorReach? first (rest ++ tail) = some (symbol, rest.length) := by
    rcases symbol.spelling_cases with
      ⟨one, spelledOne, single⟩ | ⟨one, two, spelledTwo, pair⟩
    · obtain ⟨rfl, rfl⟩ := List.cons.inj (spelledOne.symm.trans spelled)
      have noPair (second : Char) (atHead : tail.head? = some second) :
          Operator.ofPair? one second = none := by
        rw [Option.eq_none_iff_forall_ne_some]
        intro longer found
        obtain ⟨rfl, member⟩ := Operator.mem_of_ofPair? found
        obtain ⟨later, rfl⟩ := List.head?_eq_some_iff.mp atHead
        rcases List.mem_cons.mp member with rfl | beforeEqual
        · cases single
        · exact quiet (.equal beforeEqual)
      rw [List.nil_append, operatorReach?_of_noPair noPair, single]
      rfl
    · obtain ⟨rfl, rfl⟩ := List.cons.inj (spelledTwo.symm.trans spelled)
      simp [operatorReach?, pair]
  rw [List.cons_append, longest_iff_reach?, reach?, if_neg notLineEnd, if_neg (by simp [notBlank]),
    noComment, operator]

end Stops

/-- A segment that becomes a token is the longest one at its place if its text does not go on. -/
theorem Form.longest_of_not_runsOn
    (form : Form settings kind text)
    (loud : ¬ Silent ⟨kind, text⟩)
    (quiet : ¬ RunsOn settings.dialect text tail) :
    Longest settings ⟨kind, text⟩ (text ++ tail) := by
  cases form with
  | lineEnd =>
      exact absurd (.inl rfl) loud
  | blank =>
      exact absurd (.inr (.inl rfl)) loud
  | comment =>
      exact absurd (.inr (.inr rfl)) loud
  | operator symbol =>
      exact longest_operator_of_not_runsOn quiet rfl
  | integer literals digits =>
      exact longest_integer_of_not_runsOn quiet literals digits
  | float literals whole fraction =>
      exact longest_float_of_not_runsOn quiet literals whole fraction rfl
  | @string quote body literals quoted notInside sameLine =>
      rw [List.cons_append, longest_iff_reach?, reach?_of_isQuote literals (isQuote_iff.mpr quoted),
        stringReach?_eq_some_iff.mpr ⟨body, tail, by simp, notInside, sameLine, rfl⟩]
      simp
  | word literals starts continues =>
      exact longest_word_of_not_runsOn quiet literals starts continues rfl

theorem Longest.not_form_append
    {other : SegmentKind}
    {more : List Char}
    (longest : Longest settings ⟨kind, text⟩ (text ++ tail))
    (starts : more <+: tail)
    (someMore : more ≠ []) :
    ¬ Form settings other (text ++ more) := by
  intro form
  have notLonger : (text ++ more).length ≤ text.length :=
    longest.greatest form ((List.prefix_append_right_inj text).mpr starts)
  have positive := List.length_pos_iff.mpr someMore
  rw [List.length_append] at notLonger
  omega

theorem Digits.append
    {digits : List Char}
    {next : Char}
    (run : Digits digits)
    (digit : next.isDigit = true) :
    Digits (digits ++ [next]) where
  nonempty := by
    simp
  allDigits character member := by
    rcases List.mem_append.mp member with inRun | isNext
    · exact run.allDigits character inRun
    · rw [List.mem_singleton.mp isNext]
      exact digit

/-- A segment that is the longest one at its place does not go on. -/
theorem Longest.not_runsOn
    (longest : Longest settings ⟨kind, text⟩ (text ++ tail))
    (loud : ¬ Silent ⟨kind, text⟩) :
    ¬ RunsOn settings.dialect text tail := by
  have form : Form settings kind text := longest.form
  intro runsOn
  cases runsOn with
  | @word first next rest later starts goesOn =>
      have single : [next] <+: next :: later := by simp
      obtain rfl := form.kind_of_startsWord loud starts
      cases form with
      | word literals _ continues =>
          refine longest.not_form_append single (by simp) (.word literals starts ?_)
          intro character member
          rcases List.mem_append.mp member with inRest | isNext
          · exact continues character inRest
          · rw [List.mem_singleton.mp isNext]
            exact goesOn
  | @number first next rest later digit nextDigit =>
      have single : [next] <+: next :: later := by simp
      have longer : ¬ Form settings kind (first :: rest ++ [next]) :=
        longest.not_form_append single (by simp)
      have isNumber := form.kind_of_isDigit loud digit
      generalize first :: rest = text at form longer
      rcases isNumber with rfl | rfl
      · cases form with
        | integer literals digits =>
            exact longer (.integer literals (digits.append nextDigit))
      · cases form with
        | float literals whole fraction =>
            rw [List.append_assoc, List.cons_append] at longer
            exact longer (.float literals whole (fraction.append nextDigit))
  | @fraction digits later next run nextDigit =>
      have point : ['.', next] <+: '.' :: next :: later := by simp
      apply longest.not_form_append point (by simp)
      obtain ⟨first, rest, rfl⟩ := List.exists_cons_of_ne_nil run.nonempty
      have digit := run.allDigits first List.mem_cons_self
      have literals := (form.literal_cases loud (by simp [startsLiteral, digit])).1
      exact .float literals run ⟨List.cons_ne_nil _ _, by simpa using nextDigit⟩
  | @equal first later member =>
      have single : [ '=' ] <+: '=' :: later := by simp
      have pair (symbol : Operator) (spelled : symbol.spelling.toList = [first, '=']) : False := by
        apply longest.not_form_append single (by simp)
        rw [List.singleton_append, ← spelled]
        exact .operator symbol
      simp only [List.mem_cons, List.not_mem_nil, or_false] at member
      rcases member with rfl | rfl | rfl | rfl
      · exact pair .lessEqual rfl
      · exact pair .greaterEqual rfl
      · exact pair .notEqual rfl
      · exact pair .assign rfl
  | @comment later pinky =>
      have single : ['-'] <+: '-' :: later := by simp
      have comment : Form settings .comment (settings.dialect.commentMarker ++ []) :=
        .comment List.not_mem_nil
      rw [pinky] at comment
      exact longest.not_form_append single (by simp) comment

end Segment

end PinkyLex
