import PinkyLex.Json.Value

namespace PinkyLex.Json

/-!
# Objects of a data file

An object is read member by member, in the order of the text.  What a member
does to the state of the reading is up to the caller, who reads the colon and
the value after each key.
-/

namespace Reader

/-- Read a key after a comma. -/
def keyAfterComma : Reader String :=
  dispatch .endInValue fun next =>
    if next = '"' then do
      skip 1
      Quoted.readRest
    else if next = '}' then
      failAhead .trailingComma
    else
      failAhead .keyNotString

/-- Read the key of the next member, or go past the end of the object. -/
def nextKey (isFirst : Bool) : Reader (Option String) :=
  dispatch .endInObject fun next =>
    if next = '}' then do
      skip 1
      pure none
    else if isFirst then
      if next = '"' then do
        skip 1
        some <$> Quoted.readRest
      else
        failAhead .keyNotString
    else if next = ',' then do
      skip 1
      some <$> keyAfterComma
    else
      failAhead .expectedCommaInObject

theorem strict_nextKey (isFirst : Bool) : (nextKey isFirst).Strict := by
  refine strict_dispatch fun next => ?_
  repeat' split
  · exact strictInside_skip_bind _
  · exact strictInside_skip_bind _
  · exact (strict_failAt _ _).inside
  · exact strictInside_skip_bind _
  · exact (strict_failAt _ _).inside

/-- Read one more member of an object; the flag says whether it would be the first. -/
def memberStep (member : σ → String → Reader σ) (progress : Bool × σ) :
    Reader ((Bool × σ) ⊕ σ) := do
  match ← nextKey progress.1 with
  | none =>
      pure (.inr progress.2)
  | some key =>
      let state ← member progress.2 key
      pure (.inl (false, state))

theorem strict_memberStep (member : σ → String → Reader σ) (progress : Bool × σ) :
    (memberStep member progress).Strict :=
  (strict_nextKey progress.1).bind _

/-- Read the members of an object after its opening brace. -/
def members (member : σ → String → Reader σ) (state : σ) : Reader σ :=
  loop (memberStep member) (strict_memberStep member) (true, state)

end Reader

end PinkyLex.Json
