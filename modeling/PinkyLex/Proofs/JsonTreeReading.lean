import PinkyLex.Proofs.JsonReading
import PinkyLex.Proofs.JsonTree

namespace PinkyLex.Json

/-!
# Reading data files of any shape

Every text that has the form of a value is read as this value.  Where a numeral ends
depends on what stands behind it, so a value is taken before a tail that no numeral
goes on into.
-/

theorem WholeForm.exists_cons
    {whole : List Char}
    (form : WholeForm whole) :
    ∃ first rest, whole = first :: rest ∧ first.isDigit = true := by
  cases form with
  | zero =>
      exact ⟨'0', [], rfl, rfl⟩
  | digits _ run =>
      exact ⟨_, _, rfl, run.allDigits _ List.mem_cons_self⟩

namespace Numeral

variable {tail whole digits text : List Char} {negative : Bool}

/-- A tail that no numeral goes on into. -/
def Ends (tail : List Char) : Prop :=
  ∀ next, tail.head? = some next → next.isDigit = false ∧ next ∉ ['.', 'e', 'E']

theorem takesBefore_readDigits
    (purpose : Purpose)
    (run : Segment.Digits digits)
    (stops : ∀ next, tail.head? = some next → next.isDigit = false) :
    (readDigits purpose).TakesBefore tail digits digits := by
  obtain ⟨first, rest, rfl⟩ := List.exists_cons_of_ne_nil run.nonempty
  obtain ⟨digit, restDigits⟩ := List.forall_mem_cons.mp run.allDigits
  refine Reader.takesBefore_onNext rfl ?_
  rw [if_pos digit]
  exact Reader.takesBefore_skipOne_bind first
    (Reader.takesBefore_takeWhile restDigits stops).bind_pure

theorem takesBefore_readWhole
    (purpose : Purpose)
    (form : WholeForm whole)
    (stops : ∀ next, tail.head? = some next → next.isDigit = false) :
    (readWhole purpose).TakesBefore tail whole whole := by
  cases form with
  | zero =>
      refine Reader.takesBefore_onNext rfl ?_
      rw [if_pos rfl]
      refine Reader.takesBefore_skipOne_bind '0' (Reader.takesBefore_peek_bind ?_)
      cases tail with
      | nil =>
          exact (Reader.takes_pure _).before
      | cons next later =>
          have notDigit := stops next rfl
          simp only [List.nil_append, List.head?_cons, notDigit]
          exact (Reader.takes_pure _).before
  | @digits first rest notZero run =>
      refine Reader.takesBefore_onNext rfl ?_
      rw [if_neg notZero]
      exact takesBefore_readDigits purpose run stops

theorem takesBefore_readFraction
    {fraction : List Char}
    (purpose : Purpose)
    (form : FractionForm text fraction)
    (stops : ∀ next, tail.head? = some next → next.isDigit = false)
    (noPoint : tail.head? ≠ some '.') :
    (readFraction purpose).TakesBefore tail text fraction := by
  cases form with
  | none =>
      refine Reader.takesBefore_peek_bind ?_
      split
      case h_1 point =>
        exact absurd point noPoint
      case h_2 =>
        exact (Reader.takes_pure _).before
  | digits run =>
      exact Reader.takesBefore_peek_bind
        (Reader.takesBefore_skipOne_bind '.' (takesBefore_readDigits purpose run stops))

theorem takesBefore_readSign
    {sign : List Char}
    (listed : (sign, negative) ∈ [([], false), (['+'], false), (['-'], true)])
    (digitBehind : ∃ next rest, tail = next :: rest ∧ next.isDigit = true) :
    readSign.TakesBefore tail sign negative := by
  refine Reader.takesBefore_peek_bind ?_
  simp only [List.mem_cons, Prod.mk.injEq, List.not_mem_nil, or_false] at listed
  rcases listed with ⟨rfl, rfl⟩ | ⟨rfl, rfl⟩ | ⟨rfl, rfl⟩
  · obtain ⟨next, rest, rfl, digit⟩ := digitBehind
    split
    case h_1 plus =>
      cases plus
      exact absurd digit (by decide)
    case h_2 minus =>
      cases minus
      exact absurd digit (by decide)
    case h_3 =>
      exact (Reader.takes_pure _).before
  · exact Reader.takesBefore_skipOne_bind '+' (Reader.takes_pure _).before
  · exact Reader.takesBefore_skipOne_bind '-' (Reader.takes_pure _).before

theorem takesBefore_readExponentDigits
    (significant negative : Bool)
    (run : Segment.Digits digits)
    (stops : ∀ next, tail.head? = some next → next.isDigit = false) :
    (readExponentDigits .skipping significant negative).TakesBefore tail digits digits := by
  intro place
  have taken := takesBefore_readDigits .skipping run stops place
  simp only [readExponentDigits, Reader.run_bind, Reader.here, taken]
  split <;> rfl

theorem takesBefore_readExponent
    {exponent? : Option (Bool × List Char)}
    (significant : Bool)
    (form : ExponentForm text exponent?)
    (ends : Ends tail) :
    (readExponent .skipping significant).TakesBefore tail text exponent? := by
  have stops (next : Char) (atHead : tail.head? = some next) : next.isDigit = false :=
    (ends next atHead).1
  cases form with
  | none =>
      refine Reader.takesBefore_peek_bind ?_
      split
      case h_1 mark =>
        exact absurd (by decide) (ends _ mark).2
      case h_2 mark =>
        exact absurd (by decide) (ends _ mark).2
      case h_3 =>
        exact (Reader.takes_pure _).before
  | @digits mark sign digits negative listed signListed run =>
      obtain ⟨first, rest, rfl⟩ := List.exists_cons_of_ne_nil run.nonempty
      have digit := run.allDigits first List.mem_cons_self
      have behind :
          (readSign >>= fun negative =>
              readExponentDigits .skipping significant negative >>= fun digits =>
                pure (some (negative, digits))).TakesBefore tail (sign ++ first :: rest)
            (some (negative, first :: rest)) :=
        (takesBefore_readSign signListed ⟨first, rest ++ tail, rfl, digit⟩).bind
          (takesBefore_readExponentDigits significant negative run stops).bind_pure
      refine Reader.takesBefore_peek_bind ?_
      simp only [List.mem_cons, List.not_mem_nil, or_false] at listed
      rcases listed with rfl | rfl
      · exact Reader.takesBefore_skipOne_bind 'e' behind
      · exact Reader.takesBefore_skipOne_bind 'E' behind

theorem head_behind_fraction
    {exponent? : Option (Bool × List Char)}
    (form : ExponentForm text exponent?)
    (ends : Ends tail)
    (next : Char)
    (atHead : (text ++ tail).head? = some next) :
    next.isDigit = false ∧ next ≠ '.' := by
  cases form with
  | none =>
      obtain ⟨notDigit, others⟩ := ends next atHead
      refine ⟨notDigit, ?_⟩
      rintro rfl
      exact others (by decide)
  | digits listed =>
      cases atHead
      simp only [List.mem_cons, List.not_mem_nil, or_false] at listed
      rcases listed with rfl | rfl <;> decide

theorem head_behind_whole
    {fraction : List Char}
    (form : FractionForm text fraction)
    (stops : ∀ next, tail.head? = some next → next.isDigit = false)
    (next : Char)
    (atHead : (text ++ tail).head? = some next) :
    next.isDigit = false := by
  cases form with
  | none =>
      exact stops next atHead
  | digits run =>
      cases atHead
      decide

/-- A numeral is read up to a tail that it does not go on into. -/
theorem takesBefore_readAfterSign
    {fractionText fraction exponentText : List Char}
    {exponent? : Option (Bool × List Char)}
    (wholeForm : WholeForm whole)
    (fractionForm : FractionForm fractionText fraction)
    (exponentForm : ExponentForm exponentText exponent?)
    (ends : Ends tail)
    (negative : Bool) :
    (readAfterSign .skipping negative).TakesBefore tail
      (whole ++ (fractionText ++ exponentText)) ⟨negative, whole, fraction, exponent?⟩ := by
  have behindFraction := head_behind_fraction exponentForm ends
  have noDigit (next : Char) (atHead : (exponentText ++ tail).head? = some next) :
      next.isDigit = false :=
    (behindFraction next atHead).1
  have noPoint : (exponentText ++ tail).head? ≠ some '.' :=
    fun point => (behindFraction '.' point).2 rfl
  have behindWhole := head_behind_whole fractionForm noDigit
  rw [← List.append_assoc] at behindWhole
  exact (takesBefore_readWhole .skipping wholeForm behindWhole).bind
    ((takesBefore_readFraction .skipping fractionForm noDigit noPoint).bind
      (takesBefore_readExponent _ exponentForm ends).bind_pure)

/-- A numeral starts with a minus sign or a digit and is read on from there. -/
theorem takesBefore_of_form
    {numeral : Numeral}
    (form : NumeralForm text numeral)
    (ends : Ends tail) :
    (∃ rest,
        text = '-' :: rest ∧
          (readAfterSign .skipping true).TakesBefore tail rest numeral) ∨
      ∃ first rest,
        text = first :: rest ∧
          first.isDigit = true ∧
          (readAfterSign .skipping false).TakesBefore tail (first :: rest) numeral := by
  cases form with
  | @parts _ _ _ _ _ negative _ listed wholeForm fractionForm exponentForm =>
      have taken :=
        takesBefore_readAfterSign wholeForm fractionForm exponentForm ends negative
      simp only [List.mem_cons, Prod.mk.injEq, List.not_mem_nil, or_false] at listed
      rcases listed with ⟨rfl, rfl⟩ | ⟨rfl, rfl⟩
      · obtain ⟨first, rest, rfl, digit⟩ := wholeForm.exists_cons
        exact .inr ⟨first, _, rfl, digit, taken⟩
      · exact .inl ⟨_, rfl, taken⟩

/-- A digit is none of the characters that are no digits. -/
theorem ne_of_isDigit
    {first other : Char}
    (digit : first.isDigit = true)
    (notDigit : other.isDigit = false) :
    first ≠ other := by
  rintro rfl
  simp [digit] at notDigit

end Numeral

namespace Tree

variable {tail text later blanks : List Char} {frames outer : List Frame} {next : Char}

/-- Before a tail, reading goes on over a text and gives a tree. -/
def Onward (tail : List Char) (next : Position ⊕ Tree) (text : List Char) (result : Tree) : Prop :=
  Reader.Onward step strict_step tail next text result

theorem isBlank_of_isDigit
    (digit : next.isDigit = true) :
    Reader.isBlank next = false := by
  rw [Bool.eq_false_iff]
  intro blank
  simp only [Reader.isBlank, Bool.or_eq_true, beq_iff_eq] at blank
  rcases blank with ((rfl | rfl) | rfl) | rfl <;> exact absurd digit (by decide)

theorem takesBefore_readKey
    {key : String}
    (before : Blanks blanks)
    (form : KeyForm text key) :
    readKey.TakesBefore tail (blanks ++ text) key := by
  cases form with
  | @colon quoted between _ keyForm betweenBlanks =>
      cases keyForm with
      | @quoted characters _ charactersForm =>
          have colonTaken := Reader.takes_colon betweenBlanks
          rw [← List.append_assoc]
          refine Reader.TakesBefore.bind ?_ colonTaken.before.bind_pure
          refine Reader.takesBefore_dispatch before rfl rfl ?_
          rw [if_pos rfl]
          exact Reader.takesBefore_skipOne_bind '"' (Quoted.takes_readRest charactersForm).before

theorem takesBefore_openList_close (close : Blanks blanks) :
    (openList outer).TakesBefore tail (blanks ++ [']']) (ended outer (.list [])) := by
  refine Reader.takesBefore_dispatch close rfl rfl ?_
  rw [if_pos rfl]
  exact Reader.takesBefore_skipOne_bind ']' (Reader.takes_pure _).before

/-- A list that does not end at once is gone into. -/
theorem takesBefore_openList
    (before : Blanks blanks)
    (notBlank : Reader.isBlank next = false)
    (notClose : next ≠ ']') :
    (openList outer).TakesBefore (next :: later) blanks (.inl (.value (.list [] :: outer))) := by
  rw [← List.append_nil blanks]
  refine Reader.takesBefore_dispatch before notBlank rfl ?_
  rw [if_neg notClose]
  exact (Reader.takes_pure _).before

theorem takesBefore_openObject_close (close : Blanks blanks) :
    (openObject outer).TakesBefore tail (blanks ++ ['}']) (ended outer (.object [])) := by
  refine Reader.takesBefore_dispatch close rfl rfl ?_
  rw [if_pos rfl]
  exact Reader.takesBefore_skipOne_bind '}' (Reader.takes_pure _).before

/-- An object that does not end at once is gone into behind its first key. -/
theorem takesBefore_openObject
    {key : String}
    (before : Blanks blanks)
    (form : KeyForm text key) :
    (openObject outer).TakesBefore tail (blanks ++ text)
      (.inl (.value (.object [] key :: outer))) := by
  obtain ⟨rest, rfl⟩ : ∃ rest, text = '"' :: rest := by
    cases form with
    | colon keyForm =>
        cases keyForm
        exact ⟨_, rfl⟩
  refine Reader.takesBefore_dispatch before rfl rfl ?_
  rw [if_neg (by decide)]
  exact (takesBefore_readKey blanks_nil form).bind_pure

section Value

variable (before : Blanks blanks)
include before

/-- A literal word is read whole. -/
theorem takesBefore_readValue_word
    {word : List Char}
    {tree : Tree}
    (listed : (word, tree) ∈
      [(['n', 'u', 'l', 'l'], .null), (['t', 'r', 'u', 'e'], .boolean true),
        (['f', 'a', 'l', 's', 'e'], .boolean false)]) :
    (readValue frames).TakesBefore tail (blanks ++ word) (ended frames tree) := by
  simp only [List.mem_cons, Prod.mk.injEq, List.not_mem_nil, or_false] at listed
  rcases listed with ⟨rfl, rfl⟩ | ⟨rfl, rfl⟩ | ⟨rfl, rfl⟩
  · refine Reader.takesBefore_dispatch before rfl rfl ?_
    rw [if_neg (by decide), if_neg (by decide), if_neg (by decide), if_neg (by decide),
      if_neg (by decide), if_pos rfl]
    exact (Reader.takesBefore_expectWord _).bind_pure
  · refine Reader.takesBefore_dispatch before rfl rfl ?_
    rw [if_neg (by decide), if_neg (by decide), if_neg (by decide), if_neg (by decide),
      if_neg (by decide), if_neg (by decide), if_pos rfl]
    exact (Reader.takesBefore_expectWord _).bind_pure
  · refine Reader.takesBefore_dispatch before rfl rfl ?_
    rw [if_neg (by decide), if_neg (by decide), if_neg (by decide), if_neg (by decide),
      if_neg (by decide), if_neg (by decide), if_neg (by decide), if_pos rfl]
    exact (Reader.takesBefore_expectWord _).bind_pure

theorem takesBefore_readValue_string
    {value : String}
    (form : StringForm text value) :
    (readValue frames).TakesBefore tail (blanks ++ text) (ended frames (.string value)) := by
  cases form with
  | quoted charactersForm =>
      refine Reader.takesBefore_dispatch before rfl rfl ?_
      rw [if_neg (by decide), if_neg (by decide), if_pos rfl]
      exact Reader.takesBefore_skipOne_bind '"'
        (Quoted.takes_readRest charactersForm).before.bind_pure

theorem takesBefore_readValue_number
    {numeral : Numeral}
    (form : NumeralForm text numeral)
    (ends : Numeral.Ends tail) :
    (readValue frames).TakesBefore tail (blanks ++ text) (ended frames (.number numeral)) := by
  obtain ⟨rest, rfl, taken⟩ | ⟨first, rest, rfl, digit, taken⟩ :=
    Numeral.takesBefore_of_form form ends
  · refine Reader.takesBefore_dispatch before rfl rfl ?_
    rw [if_neg (by decide), if_neg (by decide), if_neg (by decide), if_pos rfl]
    exact Reader.takesBefore_skipOne_bind '-' taken.bind_pure
  · have different {other : Char} (notDigit : other.isDigit = false) : first ≠ other :=
      Numeral.ne_of_isDigit digit notDigit
    refine Reader.takesBefore_dispatch before (isBlank_of_isDigit digit) rfl ?_
    rw [if_neg (different rfl), if_neg (different rfl), if_neg (different rfl),
      if_neg (different rfl), if_pos digit]
    exact taken.bind_pure

/-- Behind its bracket a list is read on. -/
theorem takesBefore_readValue_bracket
    {place : Position ⊕ Tree}
    (taken : (openList frames).TakesBefore tail text place) :
    (readValue frames).TakesBefore tail (blanks ++ '[' :: text) place := by
  refine Reader.takesBefore_dispatch before rfl rfl ?_
  rw [if_pos rfl]
  exact Reader.takesBefore_skipOne_bind '[' taken

theorem takesBefore_readValue_brace
    {place : Position ⊕ Tree}
    (taken : (openObject frames).TakesBefore tail text place) :
    (readValue frames).TakesBefore tail (blanks ++ '{' :: text) place := by
  refine Reader.takesBefore_dispatch before rfl rfl ?_
  rw [if_neg (by decide), if_pos rfl]
  exact Reader.takesBefore_skipOne_bind '{' taken

end Value

theorem takesBefore_readNextItem_close
    {found : List Tree}
    (close : Blanks blanks) :
    (readNextItem found outer).TakesBefore tail (blanks ++ [']']) (ended outer (.list found)) := by
  refine Reader.takesBefore_dispatch close rfl rfl ?_
  rw [if_neg (by decide), if_pos rfl]
  exact Reader.takesBefore_skipOne_bind ']' (Reader.takes_pure _).before

theorem takesBefore_readNextItem
    {found : List Tree}
    (before : Blanks blanks) :
    (readNextItem found outer).TakesBefore tail (blanks ++ [','])
      (.inl (.value (.list found :: outer))) := by
  refine Reader.takesBefore_dispatch before rfl rfl ?_
  rw [if_pos rfl]
  exact Reader.takesBefore_skipOne_bind ',' (Reader.takes_pure _).before

theorem takesBefore_readNextMember_close
    {found : List (String × Tree)}
    (close : Blanks blanks) :
    (readNextMember found outer).TakesBefore tail (blanks ++ ['}'])
      (ended outer (.object found)) := by
  refine Reader.takesBefore_dispatch close rfl rfl ?_
  rw [if_neg (by decide), if_pos rfl]
  exact Reader.takesBefore_skipOne_bind '}' (Reader.takes_pure _).before

theorem takesBefore_readNextMember
    {found : List (String × Tree)}
    {between : List Char}
    {key : String}
    (before : Blanks blanks)
    (betweenBlanks : Blanks between)
    (form : KeyForm text key) :
    (readNextMember found outer).TakesBefore tail (blanks ++ ',' :: (between ++ text))
      (.inl (.value (.object found key :: outer))) := by
  refine Reader.takesBefore_dispatch before rfl rfl ?_
  rw [if_pos rfl]
  exact Reader.takesBefore_skipOne_bind ',' (takesBefore_readKey betweenBlanks form).bind_pure

/-- A value starts with a character that is no blank and closes nothing. -/
theorem exists_cons_of_treeForm
    {tree : Tree}
    (form : TreeForm text tree) :
    ∃ first rest, text = first :: rest ∧ Reader.isBlank first = false ∧ first ≠ ']' := by
  cases form with
  | number numeralForm =>
      cases numeralForm with
      | parts listed wholeForm =>
          simp only [List.mem_cons, Prod.mk.injEq, List.not_mem_nil, or_false] at listed
          rcases listed with ⟨rfl, -⟩ | ⟨rfl, -⟩
          · obtain ⟨first, rest, rfl, digit⟩ := wholeForm.exists_cons
            refine ⟨first, _, rfl, isBlank_of_isDigit digit, ?_⟩
            rintro rfl
            exact absurd digit (by decide)
          · exact ⟨'-', _, rfl, rfl, by decide⟩
  | string stringForm =>
      cases stringForm
      exact ⟨'"', _, rfl, rfl, by decide⟩
  | null | true | false | emptyList | list | emptyObject | object =>
      exact ⟨_, _, rfl, rfl, by decide⟩

/-- No numeral goes on into blanks and marks. -/
theorem ends_of_separated
    (separated :
      ∀ first, tail.head? = some first → first ∈ [' ', '\n', '\t', '\r'] ++ [',', ']', '}']) :
    Numeral.Ends tail := by
  intro first atHead
  have listed := separated first atHead
  simp only [List.cons_append, List.nil_append, List.mem_cons, List.not_mem_nil,
    or_false] at listed
  rcases listed with rfl | rfl | rfl | rfl | rfl | rfl | rfl <;> decide

/-- No numeral goes on into what stands behind a value in a list or an object. -/
theorem ends_of_mark
    (before : Blanks blanks)
    (mark : next ∈ [',', ']', '}']) :
    Numeral.Ends (blanks ++ next :: later) := by
  apply ends_of_separated
  intro first atHead
  cases blanks with
  | nil =>
      cases atHead
      exact List.mem_append_right _ mark
  | cons blank others =>
      cases atHead
      exact List.mem_append_left _ (before _ List.mem_cons_self)

theorem ends_of_blanks
    (after : Blanks blanks) :
    Numeral.Ends blanks := by
  apply ends_of_separated
  intro first atHead
  exact List.mem_append_left _ (after first (List.mem_of_mem_head? atHead))

theorem ends_behind_item
    {items : List Tree}
    (form : PartForm text (.items items)) :
    Numeral.Ends (text ++ tail) := by
  cases form with
  | closeList blanks =>
      rw [List.append_assoc]
      exact ends_of_mark blanks (by decide)
  | nextItem blanks =>
      rw [List.append_assoc]
      exact ends_of_mark blanks (by decide)

theorem ends_behind_member
    {members : List (String × Tree)}
    (form : PartForm text (.members members)) :
    Numeral.Ends (text ++ tail) := by
  cases form with
  | closeObject blanks =>
      rw [List.append_assoc]
      exact ends_of_mark blanks (by decide)
  | nextMember blanks =>
      rw [List.append_assoc]
      exact ends_of_mark blanks (by decide)

/-- Before a tail, reading goes over a part of a file wherever the part stands. -/
def Passes (tail text : List Char) : Part → Prop
  | .value tree =>
      ∀ {frames blanks later result},
        Blanks blanks →
        Numeral.Ends (later ++ tail) →
        Onward tail (ended frames tree) later result →
        Onward tail (.inl (.value frames)) (blanks ++ (text ++ later)) result
  | .items items =>
      ∀ {tree found outer later result},
        Onward tail (ended outer (.list (found ++ tree :: items))) later result →
        Onward tail (.inl (.afterValue tree (.list found) outer)) (text ++ later) result
  | .members members =>
      ∀ {tree found key outer later result},
        Onward tail (ended outer (.object (found ++ (key, tree) :: members))) later result →
        Onward tail (.inl (.afterValue tree (.object found key) outer)) (text ++ later) result

/-- A value without parts is passed in one step. -/
theorem passes_of_step
    {tree : Tree}
    (taken :
      ∀ {frames blanks later},
        Blanks blanks →
        Numeral.Ends (later ++ tail) →
        (readValue frames).TakesBefore (later ++ tail) (blanks ++ text) (ended frames tree)) :
    Passes tail text (.value tree) := by
  intro frames blanks later result before ends onward
  rw [← List.append_assoc]
  exact Reader.Onward.of_step (taken before ends) onward

section Rest

variable {rest : List Char} {result : Tree}

/-- Reading goes over a value in a list and what stands behind it there. -/
theorem Passes.item
    (found : List Tree)
    {items : List Tree}
    {item : Tree}
    (itemPasses : Passes tail text (.value item))
    (restPasses : Passes tail rest (.items items))
    (restForm : PartForm rest (.items items))
    (before : Blanks blanks)
    (onward : Onward tail (ended outer (.list (found ++ item :: items))) later result) :
    Onward tail (.inl (.value (.list found :: outer))) (blanks ++ (text ++ (rest ++ later)))
      result := by
  have ends : Numeral.Ends (rest ++ later ++ tail) := by
    rw [List.append_assoc]
    exact ends_behind_item restForm
  exact itemPasses before ends (restPasses onward)

theorem Passes.member
    (found : List (String × Tree))
    {members : List (String × Tree)}
    {key : String}
    {value : Tree}
    (valuePasses : Passes tail text (.value value))
    (restPasses : Passes tail rest (.members members))
    (restForm : PartForm rest (.members members))
    (before : Blanks blanks)
    (onward : Onward tail (ended outer (.object (found ++ (key, value) :: members))) later result) :
    Onward tail (.inl (.value (.object found key :: outer))) (blanks ++ (text ++ (rest ++ later)))
      result := by
  have ends : Numeral.Ends (rest ++ later ++ tail) := by
    rw [List.append_assoc]
    exact ends_behind_member restForm
  exact valuePasses before ends (restPasses onward)

end Rest

/-- Whatever form a part of a file has, reading goes over it. -/
theorem passes_of_form
    {part : Part}
    (form : PartForm text part) :
    Passes tail text part := by
  induction form with
  | null =>
      exact passes_of_step fun before _ => takesBefore_readValue_word before (by simp)
  | true =>
      exact passes_of_step fun before _ => takesBefore_readValue_word before (by simp)
  | false =>
      exact passes_of_step fun before _ => takesBefore_readValue_word before (by simp)
  | number numeralForm =>
      exact passes_of_step fun before ends => takesBefore_readValue_number before numeralForm ends
  | string stringForm =>
      exact passes_of_step fun before _ => takesBefore_readValue_string before stringForm
  | emptyList close =>
      exact passes_of_step fun before _ =>
        takesBefore_readValue_bracket before (takesBefore_openList_close close)
  | list before itemForm restForm item rest =>
      intro frames blanks later result outerBefore ends onward
      obtain ⟨first, others, rfl, notBlank, notClose⟩ := exists_cons_of_treeForm itemForm
      have inside := Passes.item [] item rest restForm blanks_nil onward
      have whole : Onward tail (.inl (.value frames)) _ result :=
        Reader.Onward.of_step
          (takesBefore_readValue_bracket outerBefore
            (takesBefore_openList before notBlank notClose))
          inside
      simpa using whole
  | emptyObject close =>
      exact passes_of_step fun before _ =>
        takesBefore_readValue_brace before (takesBefore_openObject_close close)
  | object before keyForm after valueForm restForm value rest =>
      intro frames blanks later result outerBefore ends onward
      have inside := Passes.member [] value rest restForm after onward
      have whole : Onward tail (.inl (.value frames)) _ result :=
        Reader.Onward.of_step
          (takesBefore_readValue_brace outerBefore (takesBefore_openObject before keyForm))
          inside
      simpa using whole
  | closeList close =>
      intro tree found outer later result onward
      exact Reader.Onward.of_step (takesBefore_readNextItem_close close) onward
  | nextItem before after itemForm restForm item rest =>
      intro tree found outer later result onward
      rw [List.append_cons] at onward
      have inside := Passes.item (found ++ [tree]) item rest restForm after onward
      have whole : Onward tail (.inl (.afterValue tree (.list found) outer)) _ result :=
        Reader.Onward.of_step (takesBefore_readNextItem before) inside
      simpa using whole
  | closeObject close =>
      intro tree found key outer later result onward
      exact Reader.Onward.of_step (takesBefore_readNextMember_close close) onward
  | nextMember before between keyForm after valueForm restForm value rest =>
      intro tree found key outer later result onward
      rw [List.append_cons] at onward
      have inside := Passes.member (found ++ [(key, tree)]) value rest restForm after onward
      have whole : Onward tail (.inl (.afterValue tree (.object found key) outer)) _ result :=
        Reader.Onward.of_step (takesBefore_readNextMember before between keyForm) inside
      simpa using whole

/-- Whatever form a value has, it is read, blanks before it included. -/
theorem takesBefore_read
    {tree : Tree}
    (form : TreeForm text tree)
    (before : Blanks blanks)
    (ends : Numeral.Ends tail) :
    read.TakesBefore tail (blanks ++ text) tree := by
  have passes : Passes tail text (.value tree) := passes_of_form form
  have done : Onward tail (ended [] tree) [] tree := ⟨rfl, rfl⟩
  have whole : Onward tail (.inl (.value [])) (blanks ++ (text ++ [])) tree :=
    passes before ends done
  rw [List.append_nil] at whole
  exact whole

/-- Every file that has the form of a value is read as this value. -/
theorem readAll_of_fileForm
    {text : String}
    {tree : Tree}
    (form : FileForm TreeForm text.toList tree) :
    read.readAll text = .ok tree := by
  generalize shape : text.toList = characters at form
  cases form with
  | @value before inner after _ blanksBefore treeForm blanksAfter =>
      have taken := takesBefore_read treeForm blanksBefore (ends_of_blanks blanksAfter)
      exact Reader.readAll_of_takesBefore taken blanksAfter (by rw [shape, List.append_assoc])

end Tree

end PinkyLex.Json
