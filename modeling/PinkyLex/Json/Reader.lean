import PinkyLex.Json.Failure

namespace PinkyLex.Json

/-!
# Readers

A reader takes a value from the front of an input or fails.  It never leaves
more to read than there was, which is part of the type.  A `Strict` reader that
succeeds has consumed something; repeating a strict step therefore ends, and
`Reader.loop` needs no other bound.
-/

/-- What reading from an input gives: a value and the input after it, or a failure. -/
abbrev Outcome (α : Type) :=
  Except Failure (α × Input)

/-- A way of taking a value from the front of an input. -/
structure Reader (α : Type) where
  run : Input → Outcome α
  shrinks :
    ∀ {input after : Input} {value : α},
      run input = .ok (value, after) →
        after.rest.length ≤ input.rest.length

namespace Reader

/-- Read nothing and give a value. -/
protected def pure (value : α) : Reader α where
  run input :=
    .ok (value, input)
  shrinks := by
    intro input after found success
    cases success
    exact Nat.le_refl _

/-- Read one thing and then another that depends on it. -/
protected def bind (reader : Reader α) (next : α → Reader β) : Reader β where
  run input :=
    match reader.run input with
    | .error failure => .error failure
    | .ok (value, after) => (next value).run after
  shrinks := by
    intro input after found success
    cases first : reader.run input with
    | error failure =>
        simp [first] at success
    | ok read =>
        simp only [first] at success
        exact Nat.le_trans ((next read.1).shrinks success) (reader.shrinks first)

instance : Monad Reader where
  pure := Reader.pure
  bind := Reader.bind

@[simp] theorem run_pure (value : α) (input : Input) :
    (pure value : Reader α).run input = .ok (value, input) :=
  rfl

@[simp] theorem run_bind (reader : Reader α) (next : α → Reader β) (input : Input) :
    (reader >>= next).run input =
      match reader.run input with
      | .error failure => .error failure
      | .ok (value, after) => (next value).run after :=
  rfl

/-- A reader that consumes something whenever it succeeds. -/
def Strict (reader : Reader α) : Prop :=
  ∀ ⦃input after : Input⦄ ⦃value : α⦄,
    reader.run input = .ok (value, after) →
      after.rest.length < input.rest.length

/-- A reader that consumes something whenever it succeeds on an input that is not at its end. -/
def StrictInside (reader : Reader α) : Prop :=
  ∀ ⦃input after : Input⦄ ⦃value : α⦄,
    input.rest ≠ [] →
      reader.run input = .ok (value, after) →
        after.rest.length < input.rest.length

theorem Strict.inside
    {reader : Reader α}
    (strict : reader.Strict) :
    reader.StrictInside :=
  fun _ _ _ _ success => strict success

theorem Strict.bind
    {reader : Reader α}
    (strict : reader.Strict)
    (next : α → Reader β) :
    (reader >>= next).Strict := by
  intro input after found success
  simp only [run_bind] at success
  cases first : reader.run input with
  | error failure =>
      simp [first] at success
  | ok read =>
      simp only [first] at success
      exact Nat.lt_of_le_of_lt ((next read.1).shrinks success) (strict first)

theorem StrictInside.bind
    {reader : Reader α}
    (strict : reader.StrictInside)
    (next : α → Reader β) :
    (reader >>= next).StrictInside := by
  intro input after found inside success
  simp only [run_bind] at success
  cases first : reader.run input with
  | error failure =>
      simp [first] at success
  | ok read =>
      simp only [first] at success
      exact Nat.lt_of_le_of_lt ((next read.1).shrinks success) (strict inside first)

/-- Fail at a place that depends on the input. -/
def failAt (cause : FailureCause) (place : Input → Place) : Reader α where
  run input :=
    .error { cause := cause, place := place input }
  shrinks := by
    intro input after found success
    cases success

/-- Fail at the next character. -/
def failHere (cause : FailureCause) : Reader α :=
  failAt cause Input.place

/-- Fail one byte further on. -/
def failAhead (cause : FailureCause) : Reader α :=
  failAt cause Input.ahead

/-- A reader that always fails is strict. -/
theorem strict_failAt (cause : FailureCause) (place : Input → Place) :
    (failAt cause place : Reader α).Strict := by
  intro input after found success
  cases success

/-- Look at the next character, if there is one. -/
def peek : Reader (Option Char) where
  run input :=
    .ok (input.rest.head?, input)
  shrinks := by
    intro input after found success
    cases success
    exact Nat.le_refl _

/-- The place of the next character. -/
def here : Reader Place where
  run input :=
    .ok (input.place, input)
  shrinks := by
    intro input after found success
    cases success
    exact Nat.le_refl _

/-- Go past some characters. -/
def skip (count : Nat) : Reader Unit where
  run input :=
    .ok ((), input.drop count)
  shrinks := by
    intro input after found success
    cases success
    exact input.length_drop_le count

theorem strictInside_skip
    {count : Nat}
    (positive : 0 < count) :
    (skip count).StrictInside := by
  intro input after found inside success
  cases success
  exact Input.length_drop_lt inside positive

/-- Going past a character first makes a reader strict inside an input. -/
theorem strictInside_skip_bind (next : Unit → Reader α) :
    (skip 1 >>= next).StrictInside :=
  (strictInside_skip (by decide)).bind next

/-- Go past the longest run of characters that satisfy a test, and give the run. -/
def takeWhile (test : Char → Bool) : Reader (List Char) where
  run input :=
    let taken := input.rest.takeWhile test
    .ok (taken, input.drop taken.length)
  shrinks := by
    intro input after found success
    cases success
    exact input.length_drop_le _

/-- Whether a character separates the parts of a data file and means nothing else. -/
def isBlank (character : Char) : Bool :=
  character == ' ' || character == '\n' || character == '\t' || character == '\r'

/-- Go past blanks. -/
def skipBlanks : Reader Unit := do
  discard (takeWhile isBlank)

/-- Read what the next character calls for, or fail at the end of the input. -/
def onNext (atEnd : Reader α) (choose : Char → Reader α) : Reader α where
  run input :=
    match input.rest with
    | [] => atEnd.run input
    | next :: _ => (choose next).run input
  shrinks := by
    intro input after found success
    split at success
    · exact atEnd.shrinks success
    · exact (choose _).shrinks success

theorem strict_onNext
    {atEnd : Reader α}
    {choose : Char → Reader α}
    (endStrict : atEnd.Strict)
    (chosenStrict : ∀ next, (choose next).StrictInside) :
    (onNext atEnd choose).Strict := by
  intro input after found success
  unfold onNext at success
  simp only at success
  split at success
  · exact endStrict success
  · rename_i next later shape
    exact chosenStrict next (by simp [shape]) success

/-- Go past blanks, then read what the next character calls for, or fail at the end. -/
def dispatch (atEnd : FailureCause) (choose : Char → Reader α) : Reader α := do
  skipBlanks
  onNext (failAhead atEnd) choose

theorem strict_dispatch
    {atEnd : FailureCause}
    {choose : Char → Reader α}
    (chosenStrict : ∀ next, (choose next).StrictInside) :
    (dispatch atEnd choose).Strict := by
  intro input after found success
  simp only [dispatch, run_bind] at success
  cases blanks : skipBlanks.run input with
  | error failure =>
      simp [blanks] at success
  | ok read =>
      simp only [blanks] at success
      exact Nat.lt_of_lt_of_le
        (strict_onNext (strict_failAt _ _) chosenStrict success)
        (skipBlanks.shrinks blanks)

/-- Run a strict step on a state again and again until it gives a result. -/
def runLoop
    (step : σ → Reader (σ ⊕ α))
    (strict : ∀ state, (step state).Strict)
    (state : σ)
    (input : Input) :
    Outcome α :=
  match _ : (step state).run input with
  | .error failure => .error failure
  | .ok (.inr value, after) => .ok (value, after)
  | .ok (.inl next, after) => runLoop step strict next after
termination_by input.rest.length
decreasing_by
  exact strict state (by assumption)

/-- A run of a loop never leaves more to read. -/
theorem runLoop_shrinks
    {step : σ → Reader (σ ⊕ α)}
    {strict : ∀ state, (step state).Strict}
    {state : σ}
    {input after : Input}
    {value : α}
    (success : runLoop step strict state input = .ok (value, after)) :
    after.rest.length ≤ input.rest.length := by
  fun_induction runLoop step strict state input with
  | case1 =>
      cases success
  | case2 state input found reached taken =>
      cases success
      exact Nat.le_of_lt (strict state taken)
  | case3 state input next reached taken inductionHypothesis =>
      exact Nat.le_trans (inductionHypothesis success) (Nat.le_of_lt (strict state taken))

/-- Repeat a strict step on a state until it gives a result. -/
def loop
    (step : σ → Reader (σ ⊕ α))
    (strict : ∀ state, (step state).Strict)
    (state : σ) :
    Reader α where
  run :=
    runLoop step strict state
  shrinks :=
    runLoop_shrinks

/-- Read a whole text: a value with nothing but blanks after it. -/
def readAll (reader : Reader α) (text : String) : Except Failure α :=
  let whole : Reader α := do
    let value ← reader
    skipBlanks
    match ← peek with
    | none => pure value
    | some _ => failAhead .trailingCharacters
  (whole.run (Input.ofText text)).map Prod.fst

end Reader

end PinkyLex.Json
