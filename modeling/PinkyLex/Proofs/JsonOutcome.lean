import PinkyLex.Proofs.JsonReading

namespace PinkyLex.Json

/-!
# Reading up to a failure

A reader meets an outcome on a text if it takes the value that the outcome has, or fails
with the cause that the outcome has.  What reading an object leads to is what its members
lead to one after the other, up to the first that fails.
-/

namespace Reader

variable {α β σ τ : Type}

/-- Before a tail, a reader takes the value of an outcome from a text or fails with its cause. -/
def Meets
    (tail : List Char)
    (reader : Reader α)
    (text : List Char) :
    Except FailureCause α → Prop
  | .ok value =>
      reader.TakesBefore tail text value
  | .error cause =>
      ∀ place, ∃ reached, reader.run ⟨place, text ++ tail⟩ = .error ⟨cause, reached⟩

section Texts

variable {tail text later blanks : List Char} {next : Char}
variable {reader : Reader α} {value : α} {outcome : Except FailureCause α}

/-- What is met behind a value that is taken is met on the whole. -/
theorem TakesBefore.bind_meets
    {behind : α → Reader β}
    {outcome : Except FailureCause β}
    (first : reader.TakesBefore (later ++ tail) text value)
    (second : (behind value).Meets tail later outcome) :
    (reader >>= behind).Meets tail (text ++ later) outcome := by
  cases outcome with
  | ok result =>
      exact TakesBefore.bind first second
  | error cause =>
      intro place
      obtain ⟨reached, failed⟩ := second (place.afterAll text)
      refine ⟨reached, ?_⟩
      rw [run_bind, List.append_assoc, first place]
      exact failed

theorem Meets.map
    (met : reader.Meets tail text outcome)
    (change : α → β) :
    (change <$> reader).Meets tail text (outcome.map change) := by
  cases outcome with
  | ok value =>
      exact (TakesBefore.bind_pure met : TakesBefore tail _ text (change value))
  | error cause =>
      intro place
      obtain ⟨reached, failed⟩ := met place
      refine ⟨reached, ?_⟩
      change (reader >>= fun value => pure (change value)).run _ = _
      rw [run_bind, failed]

theorem meets_skipOne_bind
    {behind : Unit → Reader α}
    (character : Char)
    (met : (behind ()).Meets tail later outcome) :
    (skip 1 >>= behind).Meets tail (character :: later) outcome :=
  (takes_skip [character]).before.bind_meets met

/-- Blanks in front of what the next character calls for are passed over. -/
theorem meets_dispatch
    {atEnd : FailureCause}
    {choose : Char → Reader α}
    (before : Blanks blanks)
    (notBlank : isBlank next = false)
    (chosen : (choose next).Meets tail (next :: text) outcome) :
    (dispatch atEnd choose).Meets tail (blanks ++ next :: text) outcome := by
  have called : (onNext (failAhead atEnd) choose).Meets tail (next :: text) outcome := by
    cases outcome <;> exact chosen
  have passed : skipBlanks.TakesBefore (next :: text ++ tail) blanks () :=
    run_skipBlanks before fun other same => by
      cases same
      exact notBlank
  exact passed.bind_meets called

/-- A whole text leads to the outcome that is met on it if nothing but blanks stands behind. -/
theorem readAll_of_meets
    {text : String}
    {front : List Char}
    (met : reader.Meets blanks front outcome)
    (behind : Blanks blanks)
    (split : text.toList = front ++ blanks) :
    (reader.readAll text).mapError Failure.cause = outcome := by
  cases outcome with
  | ok value =>
      rw [readAll_of_takesBefore met behind split]
      rfl
  | error cause =>
      obtain ⟨reached, failed⟩ := met {}
      simp only [readAll, Input.ofText, split, run_bind, failed]
      rfl

end Texts

section Loops

variable {step : σ → Reader (σ ⊕ α)} {strict : ∀ state, (step state).Strict}
variable {state next : σ} {tail text later : List Char}

/-- A loop goes on where its step gives another state. -/
theorem run_loop_of_inl
    {input after : Input}
    (stepped : (step state).run input = .ok (.inl next, after)) :
    (loop step strict state).run input = (loop step strict next).run after := by
  change runLoop step strict state input = runLoop step strict next after
  rw [runLoop]
  split
  case h_1 failed =>
    cases stepped.symm.trans failed
  case h_2 ended =>
    cases stepped.symm.trans ended
  case h_3 goesOn =>
    cases stepped.symm.trans goesOn
    rfl

/-- A loop fails where its step fails. -/
theorem run_loop_of_error
    {input : Input}
    {failure : Failure}
    (stepped : (step state).run input = .error failure) :
    (loop step strict state).run input = .error failure := by
  change runLoop step strict state input = .error failure
  rw [runLoop]
  split
  case h_1 failed =>
    cases stepped.symm.trans failed
    rfl
  case h_2 ended =>
    cases stepped.symm.trans ended
  case h_3 goesOn =>
    cases stepped.symm.trans goesOn

/-- A loop meets what its step meets, and what it meets from the state reached on. -/
theorem meets_loop
    {first : Except FailureCause τ}
    {reach : τ → σ}
    {rest : τ → Except FailureCause α}
    (stepMeets : (step state).Meets (later ++ tail) text (first.map fun next => .inl (reach next)))
    (others : ∀ next, (loop step strict (reach next)).Meets tail later (rest next)) :
    (loop step strict state).Meets tail (text ++ later) (first >>= rest) := by
  cases first with
  | error cause =>
      intro place
      obtain ⟨reached, failed⟩ := stepMeets place
      rw [List.append_assoc]
      exact ⟨reached, run_loop_of_error failed⟩
  | ok next =>
      have onward := others next
      have goesOn (place : Place) :
          (loop step strict state).run ⟨place, text ++ later ++ tail⟩ =
            (loop step strict (reach next)).run ⟨place.afterAll text, later ++ tail⟩ := by
        rw [List.append_assoc]
        exact run_loop_of_inl (stepMeets place)
      change Meets tail (loop step strict state) (text ++ later) (rest next)
      cases outcome : rest next with
      | ok value =>
          rw [outcome] at onward
          intro place
          rw [goesOn, onward, Place.afterAll_append]
      | error cause =>
          rw [outcome] at onward
          intro place
          obtain ⟨reached, failed⟩ := onward (place.afterAll text)
          exact ⟨reached, (goesOn place).trans failed⟩

end Loops

section Members

/-- A tail that stands behind a member of an object: blanks, then a comma or a closing brace. -/
def BehindMember (tail : List Char) : Prop :=
  ∃ blanks mark later,
    Blanks blanks ∧ mark ∈ [',', '}'] ∧ tail = blanks ++ mark :: later

variable {Member : Type} {MemberForm : String → List Char → Member → Prop}
variable {member : σ → String → Reader σ} {extend : σ → Member → Except FailureCause σ}
variable {state : σ} {tail text : List Char} {given : List Member}

theorem behindMember_of_membersForm
    (form : MembersForm MemberForm text given) :
    BehindMember (text ++ tail) := by
  cases form with
  | close blanks =>
      exact ⟨_, '}', _, blanks, by decide, List.append_assoc _ _ _⟩
  | next blanks =>
      exact ⟨_, ',', _, blanks, by decide, List.append_assoc _ _ _⟩

/-- What a member leads to behind its key is what the step that reads the key leads to. -/
theorem meets_memberStep
    {isFirst : Bool}
    {keyText : List Char}
    {key : String}
    {outcome : Except FailureCause σ}
    (keyTaken : (nextKey isFirst).Takes keyText (some key))
    (memberMeets : (member state key).Meets tail text outcome) :
    (memberStep member (isFirst, state)).Meets tail (keyText ++ text)
      (outcome.map fun next => .inl (false, next)) :=
  keyTaken.before.bind_meets
    (memberMeets.map fun next => (Sum.inl (false, next) : (Bool × σ) ⊕ σ))

variable
    (memberMeets :
      ∀ ⦃state key text given tail⦄,
        MemberForm key text given →
        BehindMember tail →
        (member state key).Meets tail text (extend state given))

include memberMeets

/-- A member is read behind its key, and then those behind it unless it fails. -/
theorem meets_loop_cons
    {isFirst : Bool}
    {keyText rest : List Char}
    {key : String}
    {one : Member}
    {others : List Member}
    (keyTaken : (nextKey isFirst).Takes keyText (some key))
    (oneForm : MemberForm key text one)
    (othersForm : MembersForm MemberForm rest others)
    (othersMeet :
      ∀ next,
        (loop (memberStep member) (strict_memberStep member) (false, next)).Meets tail rest
          (others.foldlM extend next)) :
    (loop (memberStep member) (strict_memberStep member) (isFirst, state)).Meets tail
      (keyText ++ (text ++ rest)) ((one :: others).foldlM extend state) := by
  have oneMeets : (member state key).Meets (rest ++ tail) text (extend state one) :=
    memberMeets oneForm (behindMember_of_membersForm othersForm)
  rw [List.foldlM_cons, ← List.append_assoc]
  exact meets_loop (meets_memberStep keyTaken oneMeets) othersMeet

/-- The members behind a member are read one by one, up to the first that fails. -/
theorem meets_loop_memberStep
    (form : MembersForm MemberForm text given) :
    (loop (memberStep member) (strict_memberStep member) (false, state)).Meets tail text
      (given.foldlM extend state) := by
  induction form generalizing state with
  | close blanks =>
      exact (takes_loop_of_inr (takes_memberStep_close blanks)).before
  | @next before after keyText text rest key one others blanks moreBlanks keyForm oneForm
      othersForm inductionHypothesis =>
      have regrouped :
          before ++ ',' :: (after ++ (keyText ++ (text ++ rest))) =
            (before ++ ',' :: (after ++ keyText)) ++ (text ++ rest) := by
        simp
      rw [regrouped]
      exact meets_loop_cons memberMeets (takes_nextKey_later blanks moreBlanks keyForm) oneForm
        othersForm fun _ => inductionHypothesis

/-- The members of an object are read one by one, up to the first that fails. -/
theorem meets_members
    (form : ObjectForm MemberForm ('{' :: text) given) :
    (members member state).Meets tail text (given.foldlM extend state) := by
  cases form with
  | empty blanks =>
      exact (takes_loop_of_inr (takes_memberStep_close blanks)).before
  | members blanks keyForm oneForm othersForm =>
      rw [← List.append_assoc]
      exact meets_loop_cons memberMeets (takes_nextKey_first blanks keyForm) oneForm othersForm
        fun _ => meets_loop_memberStep memberMeets othersForm

omit memberMeets

/-- Members that never fail are all read, in the order of the text. -/
theorem takes_members
    {extend : σ → Member → σ}
    (memberTaken :
      ∀ ⦃state key text given⦄,
        MemberForm key text given →
        (member state key).Takes text (extend state given))
    (form : ObjectForm MemberForm ('{' :: text) given) :
    (members member state).Takes text (given.foldl extend state) := by
  intro place tail
  have met :
      (members member state).Meets tail text
        (given.foldlM (fun state given => pure (extend state given)) state) :=
    meets_members (fun _ _ _ _ _ oneForm _ => (memberTaken oneForm).before) form
  rw [List.foldlM_pure] at met
  exact met place

end Members

end Reader

end PinkyLex.Json
