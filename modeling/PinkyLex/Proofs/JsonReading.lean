import Mathlib.Tactic.IntervalCases
import PinkyLex.Json.Object
import PinkyLex.Proofs.JsonForm
import PinkyLex.Proofs.SegmentForm

namespace PinkyLex.Json

/-!
# Reading what has a form

A reader takes a value from a text if it goes just past the text, whatever stands
behind it or before a given tail.  Strings and objects are taken from every text that
has their form.
-/

namespace Place

theorem afterAll_append
    (place : Place)
    (text later : List Char) :
    place.afterAll (text ++ later) = (place.afterAll text).afterAll later :=
  List.foldl_append

end Place

theorem Input.drop_append
    (place : Place)
    (text tail : List Char) :
    (Input.mk place (text ++ tail)).drop text.length = ⟨place.afterAll text, tail⟩ := by
  simp [Input.drop]

namespace Reader

variable {α β σ : Type}

/-- A reader takes a value from a text and goes past it, if the given tail stands behind it. -/
def TakesBefore
    (tail : List Char)
    (reader : Reader α)
    (text : List Char)
    (value : α) :
    Prop :=
  ∀ place, reader.run ⟨place, text ++ tail⟩ = .ok (value, ⟨place.afterAll text, tail⟩)

/-- A reader takes a value from a text and goes past it, whatever stands behind it. -/
def Takes (reader : Reader α) (text : List Char) (value : α) : Prop :=
  ∀ place tail,
    reader.run ⟨place, text ++ tail⟩ = .ok (value, ⟨place.afterAll text, tail⟩)

section Texts

variable {tail text later blanks : List Char} {next : Char}
variable {reader : Reader α} {value : α} {result : β}

theorem Takes.before
    (taken : reader.Takes text value) :
    reader.TakesBefore tail text value :=
  fun place => taken place tail

theorem takes_pure (value : α) :
    (pure value : Reader α).Takes [] value :=
  fun _ _ => rfl

theorem TakesBefore.bind
    {behind : α → Reader β}
    (first : reader.TakesBefore (later ++ tail) text value)
    (second : (behind value).TakesBefore tail later result) :
    (reader >>= behind).TakesBefore tail (text ++ later) result := by
  intro place
  rw [run_bind, List.append_assoc, first place]
  simp only
  rw [second, Place.afterAll_append]

theorem Takes.bind
    {behind : α → Reader β}
    (first : reader.Takes text value)
    (second : (behind value).Takes later result) :
    (reader >>= behind).Takes (text ++ later) result :=
  fun place _ => TakesBefore.bind first.before second.before place

/-- A value may be changed after it is taken. -/
theorem TakesBefore.bind_pure
    {change : α → β}
    (taken : reader.TakesBefore tail text value) :
    (reader >>= fun value => pure (change value)).TakesBefore tail text (change value) := by
  intro place
  rw [run_bind, taken place]
  rfl

theorem Takes.map
    (taken : reader.Takes text value)
    (change : α → β) :
    (change <$> reader).Takes text (change value) :=
  fun place tail => (taken.before.bind_pure : TakesBefore tail _ text (change value)) place

theorem takes_skip (text : List Char) :
    (skip text.length).Takes text () := by
  intro place tail
  simp only [skip, Input.drop_append]

/-- Characters are skipped in front of what is taken behind them. -/
theorem takes_skip_bind
    {behind : Unit → Reader α}
    (text : List Char)
    (taken : (behind ()).Takes later value) :
    (skip text.length >>= behind).Takes (text ++ later) value :=
  (takes_skip text).bind taken

/-- A character is skipped in front of what is taken behind it. -/
theorem takesBefore_skipOne_bind
    {behind : Unit → Reader α}
    (character : Char)
    (taken : (behind ()).TakesBefore tail later value) :
    (skip 1 >>= behind).TakesBefore tail (character :: later) value :=
  (takes_skip [character]).before.bind taken

theorem takes_skipOne_bind
    {behind : Unit → Reader α}
    (character : Char)
    (taken : (behind ()).Takes later value) :
    (skip 1 >>= behind).Takes (character :: later) value :=
  takes_skip_bind [character] taken

/-- What the next character calls for takes the text that starts with it. -/
theorem takesBefore_onNext
    {atEnd : Reader α}
    {choose : Char → Reader α}
    (atHead : (text ++ tail).head? = some next)
    (chosen : (choose next).TakesBefore tail text value) :
    (onNext atEnd choose).TakesBefore tail text value := by
  obtain ⟨others, split⟩ := List.head?_eq_some_iff.mp atHead
  intro place
  simp only [onNext, split]
  rw [← split]
  exact chosen place

theorem takes_onNext
    {atEnd : Reader α}
    {choose : Char → Reader α}
    (chosen : (choose next).Takes (next :: text) value) :
    (onNext atEnd choose).Takes (next :: text) value :=
  fun place tail => chosen place tail

theorem isBlank_of_blanks
    {text : List Char}
    (blanks : Blanks text) :
    ∀ character ∈ text, isBlank character = true := by
  intro character member
  have blank := blanks character member
  simp only [List.mem_cons, List.not_mem_nil, or_false] at blank
  rcases blank with rfl | rfl | rfl | rfl <;> rfl

/-- A run of characters is taken up to the first that does not belong to it. -/
theorem takesBefore_takeWhile
    {test : Char → Bool}
    (inside : ∀ character ∈ text, test character = true)
    (stops : ∀ next, tail.head? = some next → test next = false) :
    (takeWhile test).TakesBefore tail text text := by
  intro place
  simp only [takeWhile, takeWhile_append_of_stops inside stops, Input.drop_append]

/-- Blanks are passed over up to the first character that is none. -/
theorem run_skipBlanks
    {text tail : List Char}
    (blanks : Blanks text)
    (stops : ∀ next, tail.head? = some next → isBlank next = false)
    (place : Place) :
    skipBlanks.run ⟨place, text ++ tail⟩ = .ok ((), ⟨place.afterAll text, tail⟩) := by
  have taken := takesBefore_takeWhile (isBlank_of_blanks blanks) stops place
  have discarded :
      skipBlanks.run ⟨place, text ++ tail⟩ =
        match (takeWhile isBlank).run ⟨place, text ++ tail⟩ with
        | .error failure => .error failure
        | .ok (_, after) => .ok ((), after) :=
    rfl
  rw [discarded, taken]

/-- Blanks in front of what the next character calls for are passed over. -/
theorem takesBefore_dispatch
    {atEnd : FailureCause}
    {choose : Char → Reader α}
    (before : Blanks blanks)
    (notBlank : isBlank next = false)
    (atHead : (text ++ tail).head? = some next)
    (chosen : (choose next).TakesBefore tail text value) :
    (dispatch atEnd choose).TakesBefore tail (blanks ++ text) value := by
  intro place
  have stops (other : Char) (same : (text ++ tail).head? = some other) :
      isBlank other = false := by
    cases atHead.symm.trans same
    exact notBlank
  have called : (onNext (failAhead atEnd) choose).TakesBefore tail text value :=
    takesBefore_onNext atHead chosen
  rw [dispatch, run_bind, List.append_assoc, run_skipBlanks before stops]
  simp only
  rw [called, Place.afterAll_append]

theorem takes_dispatch
    {atEnd : FailureCause}
    {choose : Char → Reader α}
    (before : Blanks blanks)
    (notBlank : isBlank next = false)
    (chosen : (choose next).Takes (next :: text) value) :
    (dispatch atEnd choose).Takes (blanks ++ next :: text) value :=
  fun place _ => takesBefore_dispatch before notBlank rfl chosen.before place

/-- What depends on the next character is taken from it on. -/
theorem takesBefore_peek_bind
    {behind : Option Char → Reader α}
    (chosen : (behind (text ++ tail).head?).TakesBefore tail text value) :
    (peek >>= behind).TakesBefore tail text value :=
  fun place => chosen place

theorem takesBefore_expectWord (word : List Char) :
    (expectWord word).TakesBefore tail word () := by
  induction word with
  | nil =>
      exact (takes_pure ()).before
  | cons first others inductionHypothesis =>
      refine takesBefore_onNext rfl ?_
      rw [if_pos rfl]
      exact takesBefore_skipOne_bind first inductionHypothesis

end Texts

section Loops

variable {step : σ → Reader (σ ⊕ α)} {strict : ∀ state, (step state).Strict}
variable {state next : σ} {text later : List Char} {value : α}

/-- Before a tail, a loop goes on over a text from a state, or has given the result before it. -/
def Onward
    (step : σ → Reader (σ ⊕ α))
    (strict : ∀ state, (step state).Strict)
    (tail : List Char)
    (next : σ ⊕ α)
    (text : List Char)
    (result : α) :
    Prop :=
  match next with
  | .inl state =>
      (loop step strict state).TakesBefore tail text result
  | .inr value =>
      text = [] ∧ value = result

/-- A loop goes on over a text if its step does and it goes on from there. -/
theorem Onward.of_step
    {tail : List Char}
    {next : σ ⊕ α}
    {result : α}
    (first : (step state).TakesBefore (later ++ tail) text next)
    (others : Onward step strict tail next later result) :
    Onward step strict tail (.inl state) (text ++ later) result := by
  intro place
  have taken := first place
  change runLoop step strict state _ = _
  rw [List.append_assoc, runLoop]
  split
  case h_1 failed =>
    cases taken.symm.trans failed
  case h_2 ended =>
    cases taken.symm.trans ended
    obtain ⟨rfl, rfl⟩ := others
    rw [List.append_nil]
    rfl
  case h_3 goesOn =>
    cases taken.symm.trans goesOn
    rw [Place.afterAll_append]
    exact others _

/-- A loop ends where its step gives a result. -/
theorem takes_loop_of_inr
    (last : (step state).Takes text (.inr value)) :
    (loop step strict state).Takes text value := by
  intro place tail
  have ended : Onward step strict tail (.inl state) (text ++ []) value :=
    Onward.of_step last.before ⟨rfl, rfl⟩
  rw [List.append_nil] at ended
  exact ended place

/-- A loop goes on where its step gives another state. -/
theorem takes_loop_of_inl
    (first : (step state).Takes text (.inl next))
    (others : (loop step strict next).Takes later value) :
    (loop step strict state).Takes (text ++ later) value := by
  intro place tail
  have goesOn : Onward step strict tail (.inl next) later value :=
    others.before
  exact Onward.of_step first.before goesOn place

end Loops

/-- A whole text is read if nothing but blanks stands behind what is taken from it. -/
theorem readAll_of_takesBefore
    {reader : Reader α}
    {text : String}
    {front blanks : List Char}
    {value : α}
    (taken : reader.TakesBefore blanks front value)
    (behind : Blanks blanks)
    (split : text.toList = front ++ blanks) :
    reader.readAll text = .ok value := by
  have noMore (next : Char) (atHead : [].head? = some next) : isBlank next = false :=
    nomatch atHead
  have passed := run_skipBlanks behind noMore (Place.afterAll {} front)
  rw [List.append_nil] at passed
  have ends := taken {}
  simp only [readAll, Input.ofText, split, run_bind, ends, passed]
  rfl

theorem readAll_of_takes
    {reader : Reader α}
    {text : String}
    {front blanks : List Char}
    {value : α}
    (taken : reader.Takes front value)
    (behind : Blanks blanks)
    (split : text.toList = front ++ blanks) :
    reader.readAll text = .ok value :=
  readAll_of_takesBefore taken.before behind split

end Reader

namespace Quoted

theorem hexValue?_of_hexDigit
    {digit : Char}
    {value : Nat}
    (form : HexDigit digit value) :
    hexValue? digit = some value := by
  rcases form with lower | upper
  · have bound : value < 16 := (List.getElem?_eq_some_iff.mp lower).1
    interval_cases value <;> cases lower <;> decide
  · have bound : value < 16 := (List.getElem?_eq_some_iff.mp upper).1
    interval_cases value <;> cases upper <;> decide

/-- Four digits are read wherever they stand. -/
theorem fourDigits?_of_codeUnit
    {digits : List Char}
    {number : Nat}
    (form : CodeUnit digits number)
    (tail : List Char) :
    fourDigits? (digits ++ tail) = some number := by
  cases form with
  | digits first second third fourth =>
      simp only [List.cons_append, List.nil_append, fourDigits?, hexValue?_of_hexDigit first,
        hexValue?_of_hexDigit second, hexValue?_of_hexDigit third, hexValue?_of_hexDigit fourth,
        Option.bind_eq_bind, Option.bind_some, Option.pure_def, Option.some.injEq]
      omega

theorem length_of_codeUnit
    {digits : List Char}
    {number : Nat}
    (form : CodeUnit digits number) :
    digits.length = 4 := by
  cases form
  rfl

theorem takes_readDigits
    {digits : List Char}
    {number : Nat}
    (form : CodeUnit digits number) :
    readDigits.Takes digits number := by
  intro place tail
  have looked :
      lookDigits.run ⟨place, digits ++ tail⟩ = .ok (some number, ⟨place, digits ++ tail⟩) := by
    simp only [lookDigits, fourDigits?_of_codeUnit form]
  have passed :
      (Reader.skip digits.length >>= fun _ => pure number).Takes (digits ++ []) number :=
    Reader.takes_skip_bind digits (Reader.takes_pure number)
  rw [length_of_codeUnit form, List.append_nil] at passed
  rw [readDigits, Reader.run_bind, looked]
  exact passed place tail

/-- The code of a character is no half of a pair. -/
theorem not_isSurrogate (character : Char) :
    isHighSurrogate character.toNat = false ∧ isLowSurrogate character.toNat = false := by
  have valid : character.toNat < 0xd800 ∨ 0xdfff < character.toNat ∧ character.toNat < 0x110000 :=
    character.valid
  simp only [isHighSurrogate, isLowSurrogate, Bool.and_eq_false_iff, decide_eq_false_iff_not]
  omega

theorem takes_expectInPair (expected : Char) :
    (expectInPair expected).Takes [expected] () := by
  refine Reader.takes_onNext ?_
  rw [if_pos rfl]
  exact Reader.takes_skip [expected]

/-- The code of a character stands for it. -/
theorem takes_readUnicode_of_codeUnit
    {digits : List Char}
    {character : Char}
    (form : CodeUnit digits character.toNat) :
    readUnicode.Takes digits character := by
  obtain ⟨notHigh, notLow⟩ := not_isSurrogate character
  have read : readUnicode.Takes (digits ++ []) character := by
    refine (takes_readDigits form).bind ?_
    rw [notHigh, notLow, if_neg Bool.false_ne_true, if_neg Bool.false_ne_true,
      Char.ofNat_toNat]
    exact Reader.takes_pure character
  rwa [List.append_nil] at read

/-- Two halves of a pair stand for the character that they make up. -/
theorem takes_readUnicode_of_surrogates
    {digits more : List Char}
    {high low : Nat}
    {character : Char}
    (first : CodeUnit digits high)
    (second : CodeUnit more low)
    (isHigh : 0xd800 ≤ high ∧ high ≤ 0xdbff)
    (isLow : 0xdc00 ≤ low ∧ low ≤ 0xdfff)
    (joined : character.toNat = 0x10000 + (high - 0xd800) * 0x400 + (low - 0xdc00)) :
    readUnicode.Takes (digits ++ '\\' :: 'u' :: more) character := by
  have firstNotLow : isLowSurrogate high = false := by
    simp only [isLowSurrogate, Bool.and_eq_false_iff, decide_eq_false_iff_not]
    omega
  have firstIsHigh : isHighSurrogate high = true := by
    simpa [isHighSurrogate] using isHigh
  have secondIsLow : isLowSurrogate low = true := by
    simpa [isLowSurrogate] using isLow
  refine (takes_readDigits first).bind ?_
  rw [firstNotLow, firstIsHigh, if_neg Bool.false_ne_true, if_pos rfl]
  refine (takes_expectInPair '\\').bind ((takes_expectInPair 'u').bind ?_)
  have read :
      (readDigits >>= fun second =>
          if isLowSurrogate second then
            pure (joinSurrogates high second)
          else
            Reader.failHere .loneSurrogate).Takes (more ++ []) character := by
    refine (takes_readDigits second).bind ?_
    rw [secondIsLow, if_pos rfl, joinSurrogates, ← joined, Char.ofNat_toNat]
    exact Reader.takes_pure character
  rwa [List.append_nil] at read

section Escapes

variable {α : Type} {unicode : Reader α} {plain : Char → α}

/-- Behind the letter `u` of an escape stands what is read for it. -/
theorem takes_readEscape_of_unicode
    {text : List Char}
    {value : α}
    (taken : unicode.Takes text value) :
    (readEscape unicode plain).Takes ('u' :: text) value := by
  refine Reader.takes_onNext ?_
  rw [if_pos rfl]
  exact Reader.takes_skipOne_bind 'u' taken

theorem takes_readEscape_of_letter
    {letter character : Char}
    (listed : (letter, character) ∈ letterEscapes) :
    (readEscape unicode plain).Takes [letter] (plain character) := by
  have known : letter ≠ 'u' ∧ ofLetter? letter = some character := by
    simp only [letterEscapes, List.mem_cons, Prod.mk.injEq, List.not_mem_nil, or_false] at listed
    rcases listed with ⟨rfl, rfl⟩ | ⟨rfl, rfl⟩ | ⟨rfl, rfl⟩ | ⟨rfl, rfl⟩ | ⟨rfl, rfl⟩ |
      ⟨rfl, rfl⟩ | ⟨rfl, rfl⟩ | ⟨rfl, rfl⟩ <;> decide
  refine Reader.takes_onNext ?_
  rw [if_neg known.1, known.2]
  exact Reader.takes_skipOne_bind letter (Reader.takes_pure (plain character))

end Escapes

/-- An escape adds its character to those that are read. -/
theorem takes_step_of_escape
    {text : List Char}
    {character : Char}
    (read : List Char)
    (taken : (readEscape readUnicode id).Takes text character) :
    (step read).Takes ('\\' :: text) (.inl (character :: read)) := by
  refine Reader.takes_onNext ?_
  rw [if_neg (by decide), if_pos rfl]
  refine Reader.takes_skipOne_bind '\\' ?_
  have added := taken.map fun character => (Sum.inl (character :: read) : List Char ⊕ String)
  exact added

/-- Whatever form a character has, it is added to those that are read. -/
theorem takes_step
    {text : List Char}
    {character : Char}
    (form : CharForm text character)
    (read : List Char) :
    (step read).Takes text (.inl (character :: read)) := by
  cases form with
  | plain ordinary printable =>
      have notControl : isControl character = false := by
        simp only [isControl, decide_eq_false_iff_not]
        omega
      simp only [List.mem_cons, List.not_mem_nil, or_false, not_or] at ordinary
      refine Reader.takes_onNext ?_
      rw [if_neg ordinary.1, if_neg ordinary.2, notControl, if_neg Bool.false_ne_true]
      exact Reader.takes_skipOne_bind character (Reader.takes_pure _)
  | letter listed =>
      exact takes_step_of_escape read (takes_readEscape_of_letter listed)
  | unicode digits =>
      exact takes_step_of_escape read
        (takes_readEscape_of_unicode (takes_readUnicode_of_codeUnit digits))
  | surrogates first second isHigh isLow joined =>
      exact takes_step_of_escape read
        (takes_readEscape_of_unicode
          (takes_readUnicode_of_surrogates first second isHigh isLow joined))

/-- The closing quote ends the string with the characters that are read. -/
theorem takes_step_quote (read : List Char) :
    (step read).Takes ['"'] (.inr (String.ofList read.reverse)) := by
  refine Reader.takes_onNext ?_
  rw [if_pos rfl]
  exact Reader.takes_skipOne_bind '"' (Reader.takes_pure _)

/-- The characters of a string are read one by one up to its closing quote. -/
theorem takes_loop_step
    {text characters : List Char}
    (form : CharsForm text characters)
    (read : List Char) :
    (Reader.loop step strict_step read).Takes (text ++ ['"'])
      (String.ofList (read.reverse ++ characters)) := by
  induction form generalizing read with
  | nil =>
      rw [List.append_nil]
      exact Reader.takes_loop_of_inr (takes_step_quote read)
  | @cons text rest character characters first _ inductionHypothesis =>
      -- What is read is kept with the latest character first.
      have others := inductionHypothesis (character :: read)
      rw [List.reverse_cons, List.append_assoc] at others
      rw [List.append_assoc]
      exact Reader.takes_loop_of_inl (takes_step first read) others

theorem takes_readRest
    {text : List Char}
    {value : String}
    (form : CharsForm text value.toList) :
    readRest.Takes (text ++ ['"']) value := by
  have read := takes_loop_step form []
  rwa [List.reverse_nil, List.nil_append, String.ofList_toList] at read

end Quoted

namespace Reader

variable {α σ : Type}

theorem takes_colon
    {blanks : List Char}
    (before : Blanks blanks) :
    colon.Takes (blanks ++ [':']) () := by
  refine takes_dispatch before rfl ?_
  rw [if_pos rfl]
  exact takes_skip [':']

/-- The colon is passed over in front of what is taken behind it. -/
theorem takesBefore_colon_bind
    {behind : Unit → Reader α}
    {tail blanks text : List Char}
    {value : α}
    (before : Blanks blanks)
    (taken : (behind ()).TakesBefore tail text value) :
    (colon >>= behind).TakesBefore tail (blanks ++ ':' :: text) value := by
  rw [List.append_cons]
  exact (takes_colon before).before.bind taken

/-- A known name is read from whatever string stands for it. -/
theorem takes_name
    {known : List String}
    {ofName? : String → Option α}
    {blanks text : List Char}
    {name : String}
    {value : α}
    (before : Blanks blanks)
    (form : StringForm text name)
    (listed : ofName? name = some value) :
    (Reader.name known ofName?).Takes (blanks ++ text) value := by
  cases form with
  | @quoted text _ characters =>
      refine takes_dispatch before rfl ?_
      rw [if_pos rfl]
      refine takes_skipOne_bind '"' ?_
      have read : (nameRest known ofName?).Takes ((text ++ ['"']) ++ []) value := by
        refine (Quoted.takes_readRest characters).bind ?_
        rw [listed]
        exact takes_pure value
      rwa [List.append_nil] at read

section Members

variable {before after text : List Char} {key : String}

theorem takes_nextKey_close
    (blanks : Blanks before)
    (isFirst : Bool) :
    (nextKey isFirst).Takes (before ++ ['}']) none := by
  refine takes_dispatch blanks rfl ?_
  rw [if_pos rfl]
  exact takes_skipOne_bind '}' (takes_pure none)

theorem takes_nextKey_first
    (blanks : Blanks before)
    (form : StringForm text key) :
    (nextKey true).Takes (before ++ text) (some key) := by
  cases form with
  | quoted characters =>
      refine takes_dispatch blanks rfl ?_
      rw [if_neg (by decide), if_pos rfl, if_pos rfl]
      exact takes_skipOne_bind '"' ((Quoted.takes_readRest characters).map some)

theorem takes_keyAfterComma
    (blanks : Blanks before)
    (form : StringForm text key) :
    keyAfterComma.Takes (before ++ text) key := by
  cases form with
  | quoted characters =>
      refine takes_dispatch blanks rfl ?_
      rw [if_pos rfl]
      exact takes_skipOne_bind '"' (Quoted.takes_readRest characters)

theorem takes_nextKey_later
    (blanks : Blanks before)
    (moreBlanks : Blanks after)
    (form : StringForm text key) :
    (nextKey false).Takes (before ++ ',' :: (after ++ text)) (some key) := by
  refine takes_dispatch blanks rfl ?_
  rw [if_neg (by decide), if_neg Bool.false_ne_true, if_pos rfl]
  exact takes_skipOne_bind ',' ((takes_keyAfterComma moreBlanks form).map some)

variable {member : σ → String → Reader σ} {state : σ} {isFirst : Bool}

theorem takes_memberStep_close
    (blanks : Blanks before) :
    (memberStep member (isFirst, state)).Takes (before ++ ['}']) (.inr state) := by
  have closed :
      (memberStep member (isFirst, state)).Takes ((before ++ ['}']) ++ []) (.inr state) :=
    (takes_nextKey_close blanks isFirst).bind (takes_pure (Sum.inr state))
  rwa [List.append_nil] at closed

end Members

end Reader

end PinkyLex.Json
