import PinkyLex.Json.Value

namespace PinkyLex.Json

/-!
# Skipping values of a data file

A value that nobody looks at is skipped to its end; on the way it must be well
formed.  The lists and objects that are open around the place reached form a
stack, so values may be nested to any depth.
-/

/-- A list or object that is open around a value. -/
inductive Frame where
  | list
  | object
  deriving Repr, DecidableEq

namespace Frame

/-- The character that closes a frame. -/
def close : Frame → Char
  | list => ']'
  | object => '}'

/-- Why reading fails if the text ends between the values of a frame. -/
def endCause : Frame → FailureCause
  | list => .endInList
  | object => .endInObject

/-- Why reading fails if no comma follows a value of a frame. -/
def commaCause : Frame → FailureCause
  | list => .expectedCommaInList
  | object => .expectedCommaInObject

end Frame

namespace Skip

/-- Go past what stands before a value in a frame: nothing in a list, a key in an object. -/
def toValue (frame : Frame) : Reader Unit :=
  match frame with
  | .list =>
      pure ()
  | .object => do
      Reader.dispatch .endInObject fun next =>
        if next = '"' then do
          Reader.skip 1
          Quoted.passRest
        else
          Reader.failAhead .keyNotString
      Reader.colon

/-- Where skipping stands: before a value, or after one inside a frame. -/
inductive Position where
  | value (frames : List Frame)
  | afterValue (frame : Frame) (outer : List Frame)
  deriving Repr, DecidableEq

/-- Where skipping stands after a value inside the given frames; outside all frames it is done. -/
def ended : List Frame → Position ⊕ Unit
  | [] =>
      .inr ()
  | frame :: outer =>
      .inl (.afterValue frame outer)

/-- After an opening bracket, go to the first value of the new frame or past its end. -/
def openFrame (frame : Frame) (outer : List Frame) : Reader (Position ⊕ Unit) :=
  Reader.dispatch frame.endCause fun next =>
    if next = frame.close then do
      Reader.skip 1
      pure (ended outer)
    else do
      toValue frame
      pure (.inl (.value (frame :: outer)))

/-- Go past a value without parts, or into a list or object. -/
def passValue (frames : List Frame) : Reader (Position ⊕ Unit) :=
  Reader.dispatch .endInValue fun next =>
    if next = '[' then do
      Reader.skip 1
      openFrame .list frames
    else if next = '{' then do
      Reader.skip 1
      openFrame .object frames
    else if next = '"' then do
      Reader.skip 1
      Quoted.passRest
      pure (ended frames)
    else if next = '-' then do
      Reader.skip 1
      let _ ← Numeral.readAfterSign .skipping true
      pure (ended frames)
    else if next.isDigit then do
      let _ ← Numeral.readAfterSign .skipping false
      pure (ended frames)
    else if next = 'n' then do
      Reader.expectWord ['n', 'u', 'l', 'l']
      pure (ended frames)
    else if next = 't' then do
      Reader.expectWord ['t', 'r', 'u', 'e']
      pure (ended frames)
    else if next = 'f' then do
      Reader.expectWord ['f', 'a', 'l', 's', 'e']
      pure (ended frames)
    else
      Reader.failAhead .expectedValue

/-- After a value in a frame, go to the next value or past the end of the frame. -/
def passSeparator (frame : Frame) (outer : List Frame) : Reader (Position ⊕ Unit) :=
  Reader.dispatch frame.endCause fun next =>
    if next = ',' then do
      Reader.skip 1
      toValue frame
      pure (.inl (.value (frame :: outer)))
    else if next = frame.close then do
      Reader.skip 1
      pure (ended outer)
    else
      Reader.failAhead frame.commaCause

/-- Go on from a position to the next one, or to the end of the value. -/
def step : Position → Reader (Position ⊕ Unit)
  | .value frames =>
      passValue frames
  | .afterValue frame outer =>
      passSeparator frame outer

theorem strict_passValue (frames : List Frame) : (passValue frames).Strict := by
  refine Reader.strict_dispatch fun next => ?_
  repeat' split
  · exact Reader.strictInside_skip_bind _
  · exact Reader.strictInside_skip_bind _
  · exact Reader.strictInside_skip_bind _
  · exact Reader.strictInside_skip_bind _
  · exact (Numeral.strict_readAfterSign _ _).inside.bind _
  · exact (Reader.strict_expectWord_cons _ _).inside.bind _
  · exact (Reader.strict_expectWord_cons _ _).inside.bind _
  · exact (Reader.strict_expectWord_cons _ _).inside.bind _
  · exact (Reader.strict_failAt _ _).inside

theorem strict_passSeparator (frame : Frame) (outer : List Frame) :
    (passSeparator frame outer).Strict := by
  refine Reader.strict_dispatch fun next => ?_
  repeat' split
  · exact Reader.strictInside_skip_bind _
  · exact Reader.strictInside_skip_bind _
  · exact (Reader.strict_failAt _ _).inside

theorem strict_step (position : Position) : (step position).Strict := by
  cases position with
  | value frames =>
      exact strict_passValue frames
  | afterValue frame outer =>
      exact strict_passSeparator frame outer

end Skip

/-- Skip one value, whatever it is. -/
def skipValue : Reader Unit :=
  Reader.loop Skip.step Skip.strict_step (.value [])

end PinkyLex.Json
