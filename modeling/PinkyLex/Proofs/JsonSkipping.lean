import PinkyLex.Json.Skip
import PinkyLex.Proofs.JsonTreeReading

namespace PinkyLex.Json

/-!
# Skipping values

What a value looks like can be said without what it says.  A text of that shape is
skipped to its end, however deep the lists and objects in it go; nothing is asked of the
size of its numbers, and the halves of an escaped character may stand alone.
-/

namespace Quoted

/-- What may stand in a string for a character or for half of one. -/
inductive PieceShape : List Char → Prop where
  | plain {character : Char} :
      character ∉ ['"', '\\'] →
      0x20 ≤ character.toNat →
      PieceShape [character]
  | letter {letter character : Char} :
      (letter, character) ∈ letterEscapes →
      PieceShape ['\\', letter]
  | unicode {digits : List Char} {number : Nat} :
      CodeUnit digits number →
      PieceShape ('\\' :: 'u' :: digits)

/-- What a string may look like, its quotes included, whatever its escapes stand for. -/
inductive Shape : List Char → Prop where
  | quoted {pieces : List (List Char)} :
      (∀ piece ∈ pieces, PieceShape piece) →
      Shape ('"' :: (pieces.flatten ++ ['"']))

/-- A character of a string is one piece or, in two halves, two. -/
theorem pieces_of_charForm
    {text : List Char}
    {character : Char}
    (form : CharForm text character) :
    ∃ pieces : List (List Char), (∀ piece ∈ pieces, PieceShape piece) ∧ text = pieces.flatten := by
  have single (shape : PieceShape text) :
      ∃ pieces : List (List Char), (∀ piece ∈ pieces, PieceShape piece) ∧ text = pieces.flatten :=
    ⟨[text], by simpa using shape, by simp⟩
  cases form with
  | plain ordinary printable =>
      exact single (.plain ordinary printable)
  | letter listed =>
      exact single (.letter listed)
  | unicode digits =>
      exact single (.unicode digits)
  | @surrogates digits more _ _ _ first second =>
      refine ⟨['\\' :: 'u' :: digits, '\\' :: 'u' :: more], ?_, by simp⟩
      have secondShape : ∀ piece ∈ ['\\' :: 'u' :: more], PieceShape piece :=
        List.forall_mem_singleton.mpr (.unicode second)
      exact List.forall_mem_cons.mpr ⟨.unicode first, secondShape⟩

theorem pieces_of_charsForm
    {text characters : List Char}
    (form : CharsForm text characters) :
    ∃ pieces : List (List Char), (∀ piece ∈ pieces, PieceShape piece) ∧ text = pieces.flatten := by
  induction form with
  | nil =>
      exact ⟨[], by simp, rfl⟩
  | cons first _ inductionHypothesis =>
      obtain ⟨front, frontShapes, rfl⟩ := pieces_of_charForm first
      obtain ⟨back, backShapes, rfl⟩ := inductionHypothesis
      refine ⟨front ++ back, ?_, List.flatten_append.symm⟩
      exact List.forall_mem_append.mpr ⟨frontShapes, backShapes⟩

/-- Every string has the shape of one. -/
theorem shape_of_stringForm
    {text : List Char}
    {value : String}
    (form : StringForm text value) :
    Shape text := by
  cases form with
  | quoted charactersForm =>
      obtain ⟨pieces, shapes, rfl⟩ := pieces_of_charsForm charactersForm
      exact .quoted shapes

/-- An escape is passed over whether or not it stands for a character. -/
theorem takes_passOver_of_escape
    {text : List Char}
    (taken : (readEscape (discard readDigits) fun _ => ()).Takes text ()) :
    (passOver ()).Takes ('\\' :: text) (.inl ()) := by
  refine Reader.takes_onNext ?_
  rw [if_neg (by decide), if_pos rfl]
  have passed := taken.map fun _ => (Sum.inl () : Unit ⊕ Unit)
  exact Reader.takes_skipOne_bind '\\' passed

theorem takes_passOver
    {piece : List Char}
    (shape : PieceShape piece) :
    (passOver ()).Takes piece (.inl ()) := by
  cases shape with
  | plain ordinary printable =>
      have notControl : isControl _ = false :=
        decide_eq_false (Nat.not_lt.mpr printable)
      simp only [List.mem_cons, List.not_mem_nil, or_false, not_or] at ordinary
      refine Reader.takes_onNext ?_
      rw [if_neg ordinary.1, if_neg ordinary.2, notControl, if_neg Bool.false_ne_true]
      exact Reader.takes_skipOne_bind _ (Reader.takes_pure _)
  | letter listed =>
      exact takes_passOver_of_escape (takes_readEscape_of_letter listed)
  | unicode digits =>
      exact takes_passOver_of_escape
        (takes_readEscape_of_unicode ((takes_readDigits digits).map fun _ => ()))

/-- The closing quote ends the string. -/
theorem takes_passOver_quote :
    (passOver ()).Takes ['"'] (.inr ()) := by
  refine Reader.takes_onNext ?_
  rw [if_pos rfl]
  exact Reader.takes_skipOne_bind '"' (Reader.takes_pure _)

/-- A string is passed over piece by piece up to its closing quote. -/
theorem takes_passRest
    {pieces : List (List Char)}
    (shapes : ∀ piece ∈ pieces, PieceShape piece) :
    passRest.Takes (pieces.flatten ++ ['"']) () := by
  induction pieces with
  | nil =>
      exact Reader.takes_loop_of_inr takes_passOver_quote
  | cons piece others inductionHypothesis =>
      obtain ⟨first, later⟩ := List.forall_mem_cons.mp shapes
      rw [List.flatten_cons, List.append_assoc]
      exact Reader.takes_loop_of_inl (takes_passOver first) (inductionHypothesis later)

end Quoted

/-- The character that opens a frame. -/
def Frame.opening : Frame → Char
  | .list => '['
  | .object => '{'

namespace Skip

/--
What may stand before a value in a frame, and the blanks behind it: nothing in a list,
a key and a colon in an object.
-/
inductive LeadShape : Frame → List Char → List Char → Prop where
  | list {after : List Char} :
      Blanks after →
      LeadShape .list [] after
  | object {before key between after : List Char} :
      Blanks before →
      Quoted.Shape key →
      Blanks between →
      Blanks after →
      LeadShape .object (before ++ (key ++ (between ++ [':']))) after

/-- What a value may look like, or what may stand behind a value inside a frame. -/
inductive Shape : Option Frame → List Char → Prop where
  | word {word : List Char} :
      word ∈ [['n', 'u', 'l', 'l'], ['t', 'r', 'u', 'e'], ['f', 'a', 'l', 's', 'e']] →
      Shape none word
  | number {text : List Char} {numeral : Numeral} :
      NumeralForm text numeral →
      Shape none text
  | string {text : List Char} :
      Quoted.Shape text →
      Shape none text
  | empty {frame : Frame} {blanks : List Char} :
      Blanks blanks →
      Shape none (frame.opening :: (blanks ++ [frame.close]))
  | filled {frame : Frame} {lead after text rest : List Char} :
      LeadShape frame lead after →
      Shape none text →
      Shape (some frame) rest →
      Shape none (frame.opening :: (lead ++ (after ++ (text ++ rest))))
  | close {frame : Frame} {blanks : List Char} :
      Blanks blanks →
      Shape (some frame) (blanks ++ [frame.close])
  | next {frame : Frame} {before lead after text rest : List Char} :
      Blanks before →
      LeadShape frame lead after →
      Shape none text →
      Shape (some frame) rest →
      Shape (some frame) (before ++ ',' :: (lead ++ (after ++ (text ++ rest))))

variable {frame : Frame} {frames outer : List Frame}
variable {tail blanks text lead after later rest : List Char} {next : Char}

/-- Before a tail, skipping goes on over a text to the end of the value. -/
def Onward (tail : List Char) (next : Position ⊕ Unit) (text : List Char) : Prop :=
  Reader.Onward step strict_step tail next text ()

/-- A value starts with a character that is no blank and closes nothing. -/
theorem exists_cons_of_shape
    (shape : Shape none text) :
    ∃ first rest, text = first :: rest ∧ Reader.isBlank first = false ∧ first ≠ ']' := by
  cases shape with
  | word listed =>
      simp only [List.mem_cons, List.not_mem_nil, or_false] at listed
      rcases listed with rfl | rfl | rfl <;> exact ⟨_, _, rfl, rfl, by decide⟩
  | number form =>
      exact Tree.exists_cons_of_treeForm (.number form)
  | string shape =>
      cases shape
      exact ⟨'"', _, rfl, rfl, by decide⟩
  | @empty frame | @filled frame =>
      cases frame <;> exact ⟨_, _, rfl, rfl, by decide⟩

theorem takes_toValue
    (shape : LeadShape frame lead after) :
    (toValue frame).Takes lead () := by
  cases shape with
  | list =>
      exact Reader.takes_pure ()
  | @object before key between after beforeBlanks keyShape betweenBlanks =>
      cases keyShape with
      | @quoted pieces shapes =>
          have keyTaken :
              (Reader.dispatch .endInObject fun next =>
                if next = '"' then do
                  Reader.skip 1
                  Quoted.passRest
                else
                  Reader.failAhead .keyNotString).Takes
                (before ++ '"' :: (pieces.flatten ++ ['"'])) () := by
            refine Reader.takes_dispatch beforeBlanks rfl ?_
            rw [if_pos rfl]
            exact Reader.takes_skipOne_bind '"' (Quoted.takes_passRest shapes)
          rw [← List.append_assoc]
          exact keyTaken.bind (Reader.takes_colon betweenBlanks)

/-- What closes a frame is no blank. -/
theorem isBlank_close (frame : Frame) :
    Reader.isBlank frame.close = false := by
  cases frame <;> rfl

section Separators

theorem takesBefore_passSeparator_close (close : Blanks blanks) :
    (passSeparator frame outer).TakesBefore tail (blanks ++ [frame.close]) (ended outer) := by
  refine Reader.takesBefore_dispatch close (isBlank_close frame) rfl ?_
  have notComma : frame.close ≠ ',' := by
    cases frame <;> decide
  rw [if_neg notComma, if_pos rfl]
  exact Reader.takesBefore_skipOne_bind _ (Reader.takes_pure _).before

theorem takesBefore_passSeparator
    (before : Blanks blanks)
    (shape : LeadShape frame lead after) :
    (passSeparator frame outer).TakesBefore tail (blanks ++ ',' :: lead)
      (.inl (.value (frame :: outer))) := by
  refine Reader.takesBefore_dispatch before rfl rfl ?_
  rw [if_pos rfl]
  exact Reader.takesBefore_skipOne_bind ',' (takes_toValue shape).before.bind_pure

theorem takesBefore_openFrame_close (close : Blanks blanks) :
    (openFrame frame outer).TakesBefore tail (blanks ++ [frame.close]) (ended outer) := by
  refine Reader.takesBefore_dispatch close (isBlank_close frame) rfl ?_
  rw [if_pos rfl]
  exact Reader.takesBefore_skipOne_bind _ (Reader.takes_pure _).before

/-- A list that does not end at once is gone into. -/
theorem takesBefore_openFrame_list
    (before : Blanks blanks)
    (notBlank : Reader.isBlank next = false)
    (notClose : next ≠ Frame.list.close) :
    (openFrame .list outer).TakesBefore (next :: later) blanks
      (.inl (.value (.list :: outer))) := by
  rw [← List.append_nil blanks]
  refine Reader.takesBefore_dispatch before notBlank rfl ?_
  rw [if_neg notClose]
  exact (Reader.takes_pure _).before

/-- An object that does not end at once is gone into behind its first key. -/
theorem takesBefore_openFrame_object
    (shape : LeadShape .object lead after) :
    (openFrame .object outer).TakesBefore tail lead (.inl (.value (.object :: outer))) := by
  cases shape with
  | object before keyShape between afterBlanks =>
      have keyLead := LeadShape.object blanks_nil keyShape between afterBlanks
      cases keyShape with
      | quoted shapes =>
          refine Reader.takesBefore_dispatch before rfl rfl ?_
          rw [if_neg (by decide)]
          exact (takes_toValue keyLead).before.bind_pure

end Separators

section Value

variable (before : Blanks blanks)
include before

theorem takesBefore_passValue_word
    {word : List Char}
    (listed : word ∈ [['n', 'u', 'l', 'l'], ['t', 'r', 'u', 'e'], ['f', 'a', 'l', 's', 'e']]) :
    (passValue frames).TakesBefore tail (blanks ++ word) (ended frames) := by
  simp only [List.mem_cons, List.not_mem_nil, or_false] at listed
  rcases listed with rfl | rfl | rfl
  · refine Reader.takesBefore_dispatch before rfl rfl ?_
    rw [if_neg (by decide), if_neg (by decide), if_neg (by decide), if_neg (by decide),
      if_neg (by decide), if_pos rfl]
    exact (Reader.takesBefore_expectWord _).bind_pure
  · refine Reader.takesBefore_dispatch before rfl rfl ?_
    rw [if_neg (by decide), if_neg (by decide), if_neg (by decide), if_neg (by decide),
      if_neg (by decide), if_neg (by decide), if_pos rfl]
    exact (Reader.takesBefore_expectWord _).bind_pure
  · refine Reader.takesBefore_dispatch before rfl rfl ?_
    rw [if_neg (by decide), if_neg (by decide), if_neg (by decide), if_neg (by decide),
      if_neg (by decide), if_neg (by decide), if_neg (by decide), if_pos rfl]
    exact (Reader.takesBefore_expectWord _).bind_pure

theorem takesBefore_passValue_string
    (shape : Quoted.Shape text) :
    (passValue frames).TakesBefore tail (blanks ++ text) (ended frames) := by
  cases shape with
  | quoted shapes =>
      refine Reader.takesBefore_dispatch before rfl rfl ?_
      rw [if_neg (by decide), if_neg (by decide), if_pos rfl]
      exact Reader.takesBefore_skipOne_bind '"' (Quoted.takes_passRest shapes).before.bind_pure

theorem takesBefore_passValue_number
    {numeral : Numeral}
    (form : NumeralForm text numeral)
    (ends : Numeral.Ends tail) :
    (passValue frames).TakesBefore tail (blanks ++ text) (ended frames) := by
  obtain ⟨rest, rfl, taken⟩ | ⟨first, rest, rfl, digit, taken⟩ :=
    Numeral.takesBefore_of_form form ends
  · refine Reader.takesBefore_dispatch before rfl rfl ?_
    rw [if_neg (by decide), if_neg (by decide), if_neg (by decide), if_pos rfl]
    exact Reader.takesBefore_skipOne_bind '-' taken.bind_pure
  · have different {other : Char} (notDigit : other.isDigit = false) : first ≠ other :=
      Numeral.ne_of_isDigit digit notDigit
    refine Reader.takesBefore_dispatch before (Tree.isBlank_of_isDigit digit) rfl ?_
    rw [if_neg (different rfl), if_neg (different rfl), if_neg (different rfl),
      if_neg (different rfl), if_pos digit]
    exact taken.bind_pure

/-- Behind its opening character a list or object is skipped on. -/
theorem takesBefore_passValue_opening
    {position : Position ⊕ Unit}
    (taken : (openFrame frame frames).TakesBefore tail text position) :
    (passValue frames).TakesBefore tail (blanks ++ frame.opening :: text) position := by
  cases frame with
  | list =>
      change (passValue frames).TakesBefore tail (blanks ++ '[' :: text) position
      refine Reader.takesBefore_dispatch before rfl rfl ?_
      rw [if_pos rfl]
      exact Reader.takesBefore_skipOne_bind '[' taken
  | object =>
      change (passValue frames).TakesBefore tail (blanks ++ '{' :: text) position
      refine Reader.takesBefore_dispatch before rfl rfl ?_
      rw [if_neg (by decide), if_pos rfl]
      exact Reader.takesBefore_skipOne_bind '{' taken

end Value

/-- No numeral goes on into what stands behind a value in a frame. -/
theorem ends_of_shape
    (shape : Shape (some frame) text) :
    Numeral.Ends (text ++ tail) := by
  cases shape with
  | close blanks =>
      rw [List.append_assoc]
      have marked : frame.close ∈ [',', ']', '}'] := by
        cases frame <;> decide
      exact Tree.ends_of_mark blanks marked
  | next blanks =>
      rw [List.append_assoc]
      exact Tree.ends_of_mark blanks (by decide)

/-- Before a tail, skipping goes over a value, or over what stands behind one in a frame. -/
def Passes (tail text : List Char) : Option Frame → Prop
  | none =>
      ∀ {frames blanks later},
        Blanks blanks →
        Numeral.Ends (later ++ tail) →
        Onward tail (ended frames) later →
        Onward tail (.inl (.value frames)) (blanks ++ (text ++ later))
  | some frame =>
      ∀ {outer later},
        Onward tail (ended outer) later →
        Onward tail (.inl (.afterValue frame outer)) (text ++ later)

/-- A value without parts is passed in one step. -/
theorem passes_of_step
    (taken :
      ∀ {frames blanks later},
        Blanks blanks →
        Numeral.Ends (later ++ tail) →
        (passValue frames).TakesBefore (later ++ tail) (blanks ++ text) (ended frames)) :
    Passes tail text none := by
  intro frames blanks later before ends onward
  rw [← List.append_assoc]
  exact Reader.Onward.of_step (taken before ends) onward

/-- Skipping goes over a value in a frame and what stands behind it there. -/
theorem Passes.inside
    (valuePasses : Passes tail text none)
    (restPasses : Passes tail rest (some frame))
    (restShape : Shape (some frame) rest)
    (before : Blanks blanks)
    (onward : Onward tail (ended outer) later) :
    Onward tail (.inl (.value (frame :: outer))) (blanks ++ (text ++ (rest ++ later))) := by
  have ends : Numeral.Ends (rest ++ later ++ tail) := by
    rw [List.append_assoc]
    exact ends_of_shape restShape
  exact valuePasses before ends (restPasses onward)

theorem LeadShape.blanksBehind
    (shape : LeadShape frame lead after) :
    Blanks after := by
  cases shape <;> assumption

/-- Whatever shape a value or what stands behind one has, skipping goes over it. -/
theorem passes_of_shape
    {frame? : Option Frame}
    (shape : Shape frame? text) :
    Passes tail text frame? := by
  induction shape with
  | word listed =>
      exact passes_of_step fun before _ => takesBefore_passValue_word before listed
  | number form =>
      exact passes_of_step fun before ends => takesBefore_passValue_number before form ends
  | string shape =>
      exact passes_of_step fun before _ => takesBefore_passValue_string before shape
  | empty close =>
      exact passes_of_step fun before _ =>
        takesBefore_passValue_opening before (takesBefore_openFrame_close close)
  | filled leadShape valueShape restShape value rest =>
      intro frames blanks later outerBefore ends onward
      cases leadShape with
      | list before =>
          obtain ⟨first, others, rfl, notBlank, notClose⟩ := exists_cons_of_shape valueShape
          have inside := Passes.inside value rest restShape blanks_nil onward
          have whole : Onward tail (.inl (.value frames)) _ :=
            Reader.Onward.of_step
              (takesBefore_passValue_opening outerBefore
                (takesBefore_openFrame_list before notBlank notClose))
              inside
          simpa using whole
      | object before keyShape between after =>
          have leadShape := LeadShape.object before keyShape between after
          have inside := Passes.inside value rest restShape after onward
          have whole : Onward tail (.inl (.value frames)) _ :=
            Reader.Onward.of_step
              (takesBefore_passValue_opening outerBefore
                (takesBefore_openFrame_object leadShape))
              inside
          simpa using whole
  | close close =>
      intro outer later onward
      exact Reader.Onward.of_step (takesBefore_passSeparator_close close) onward
  | next before leadShape valueShape restShape value rest =>
      intro outer later onward
      have inside := Passes.inside value rest restShape leadShape.blanksBehind onward
      have whole : Onward tail (.inl (.afterValue _ outer)) _ :=
        Reader.Onward.of_step (takesBefore_passSeparator before leadShape) inside
      simpa using whole

end Skip

/-- A value is skipped, blanks before it included, whatever it says. -/
theorem takesBefore_skipValue
    {tail blanks text : List Char}
    (shape : Skip.Shape none text)
    (before : Blanks blanks)
    (ends : Numeral.Ends tail) :
    skipValue.TakesBefore tail (blanks ++ text) () := by
  have passes : Skip.Passes tail text none := Skip.passes_of_shape shape
  have done : Skip.Onward tail (Skip.ended []) [] := ⟨rfl, rfl⟩
  have whole : Skip.Onward tail (.inl (.value [])) (blanks ++ (text ++ [])) :=
    passes before ends done
  rw [List.append_nil] at whole
  exact whole

end PinkyLex.Json
