import PinkyLex.Json.Reader

namespace PinkyLex.Json

/-!
# Numerals of a data file

A numeral is an integer without needless zeros, then perhaps a fraction, then
perhaps an exponent.  A numeral that is only skipped must have that form; one
that is read for its value must also be in range, and says of a text that ends
inside it that a value is missing.
-/

/-- Why a numeral is read. -/
inductive Purpose where
  | value
  | skipping
  deriving Repr, DecidableEq

/-- The parts of a numeral; an exponent has a flag for a minus sign. -/
structure Numeral where
  negative : Bool
  whole : List Char
  fraction : List Char
  exponent? : Option (Bool × List Char)
  deriving Repr, DecidableEq

namespace Numeral

/-- The number that some decimal digits stand for. -/
def ofDigits (digits : List Char) : Nat :=
  digits.foldl (fun number digit => number * 10 + (digit.toNat - 48)) 0

/-- The greatest integer that is kept with all its digits. -/
def greatestInteger : Nat :=
  Nat.pow 2 64 - 1

/-- The greatest exponent that is looked at digit by digit. -/
def greatestExponent : Nat :=
  Nat.pow 2 31 - 1

/-- How many of some digits are needed to exceed a limit, if they do. -/
def digitsBeyond? (limit : Nat) (digits : List Char) : Option Nat :=
  (List.range (digits.length + 1)).find? fun count => limit < ofDigits (digits.take count)

/-- The leading digits that stand for a number within a limit. -/
def digitsWithin (limit : Nat) (digits : List Char) : List Char :=
  match digitsBeyond? limit digits with
  | none => digits
  | some count => digits.take (count - 1)

/-- Fail where a text ends inside a numeral. -/
def failAtEnd (purpose : Purpose) : Reader α :=
  match purpose with
  | .value => Reader.failHere .endInValue
  | .skipping => Reader.failHere .invalidNumber

/-- Read decimal digits, of which there must be one. -/
def readDigits (purpose : Purpose) : Reader (List Char) :=
  Reader.onNext (failAtEnd purpose) fun next =>
    if next.isDigit then do
      Reader.skip 1
      let others ← Reader.takeWhile Char.isDigit
      pure (next :: others)
    else
      Reader.failAhead .invalidNumber

theorem strict_failAtEnd (purpose : Purpose) :
    (failAtEnd purpose : Reader α).Strict := by
  cases purpose <;> exact Reader.strict_failAt _ _

theorem strict_readDigits (purpose : Purpose) :
    (readDigits purpose).Strict := by
  refine Reader.strict_onNext (strict_failAtEnd purpose) fun next => ?_
  split
  · exact Reader.strictInside_skip_bind _
  · exact (Reader.strict_failAt _ _).inside

/-- Read the integer at the start of a numeral: a zero, or digits that do not start with one. -/
def readWhole (purpose : Purpose) : Reader (List Char) :=
  Reader.onNext (failAtEnd purpose) fun next =>
    if next = '0' then do
      Reader.skip 1
      match ← Reader.peek with
      | some following =>
          if following.isDigit then
            Reader.failAhead .invalidNumber
          else
            pure ['0']
      | none =>
          pure ['0']
    else
      readDigits purpose

theorem strict_readWhole (purpose : Purpose) :
    (readWhole purpose).Strict := by
  refine Reader.strict_onNext (strict_failAtEnd purpose) fun next => ?_
  split
  · exact Reader.strictInside_skip_bind _
  · exact (strict_readDigits purpose).inside

/-- Read a fraction, if there is one. -/
def readFraction (purpose : Purpose) : Reader (List Char) := do
  match ← Reader.peek with
  | some '.' =>
      Reader.skip 1
      readDigits purpose
  | _ =>
      pure []

/-- Read the sign of an exponent, and say whether it is a minus sign. -/
def readSign : Reader Bool := do
  match ← Reader.peek with
  | some '+' =>
      Reader.skip 1
      pure false
  | some '-' =>
      Reader.skip 1
      pure true
  | _ =>
      pure false

/--
Read the digits of an exponent.  When the value counts, a number that is not
zero fails at the digit that takes a positive exponent out of all bounds.
-/
def readExponentDigits (purpose : Purpose) (significant negative : Bool) : Reader (List Char) := do
  let place ← Reader.here
  let digits ← readDigits purpose
  match digitsBeyond? greatestExponent digits with
  | some count =>
      if purpose = .value && significant && !negative then
        Reader.failAt .numberOutOfRange fun _ => place.afterAll (digits.take count)
      else
        pure digits
  | none =>
      pure digits

/-- Read an exponent, if there is one. -/
def readExponent (purpose : Purpose) (significant : Bool) : Reader (Option (Bool × List Char)) := do
  match ← Reader.peek with
  | some 'e' | some 'E' =>
      Reader.skip 1
      let negative ← readSign
      let digits ← readExponentDigits purpose significant negative
      pure (some (negative, digits))
  | _ =>
      pure none

/-- Read a numeral; its sign may have been read before. -/
def readAfterSign (purpose : Purpose) (negative : Bool) : Reader Numeral := do
  let whole ← readWhole purpose
  let fraction ← readFraction purpose
  let exponent? ← readExponent purpose ((whole ++ fraction).any (· != '0'))
  pure { negative := negative, whole := whole, fraction := fraction, exponent? := exponent? }

theorem strict_readAfterSign (purpose : Purpose) (negative : Bool) :
    (readAfterSign purpose negative).Strict :=
  (strict_readWhole purpose).bind _

/-- The exponent of a numeral. -/
def exponent (numeral : Numeral) : Int :=
  match numeral.exponent? with
  | none => 0
  | some (true, digits) => -(ofDigits digits : Int)
  | some (false, digits) => ofDigits digits

/-- The numeral as an integer and a power of ten; digits beyond the range of integers are dropped. -/
def toDecimal (numeral : Numeral) : Decimal :=
  let digits := numeral.whole ++ numeral.fraction
  let kept := digitsWithin greatestInteger digits
  { negative := numeral.negative
    coefficient := ofDigits kept
    exponent :=
      numeral.exponent + (numeral.whole.length : Int) - kept.length }

/-- The integer that a numeral stands for, if it is one that is kept with all its digits. -/
def toInteger? (numeral : Numeral) : Option Int :=
  let size := ofDigits numeral.whole
  if numeral.fraction ≠ [] ∨ numeral.exponent?.isSome then
    none
  else if numeral.negative then
    if 0 < size ∧ size ≤ Nat.pow 2 63 then some (-(size : Int)) else none
  else
    if size ≤ greatestInteger then some size else none

/-- What a numeral is found to be. -/
def found (numeral : Numeral) : Found :=
  match numeral.toInteger? with
  | some value => .integer value
  | none => .real numeral.toDecimal

/-- Read a numeral for its value, which must be in range; its sign may have been read before. -/
def readValue (negative : Bool) : Reader Found := do
  let numeral ← readAfterSign .value negative
  match numeral.found with
  | .real value =>
      if value.outOfRange then
        Reader.failHere .numberOutOfRange
      else
        pure (.real value)
  | other =>
      pure other

end Numeral

end PinkyLex.Json
