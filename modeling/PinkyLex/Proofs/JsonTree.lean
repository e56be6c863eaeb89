import PinkyLex.Json.Value
import PinkyLex.Proofs.JsonForm
import PinkyLex.Proofs.SegmentForm

namespace PinkyLex.Json

/-!
# Data files of any shape

A data file holds a value: a null, a boolean, a number, a string, a list or an
object, nested to any depth.  What values look like is said by a grammar, of a
value and of what stands behind one inside a list or an object.  A reader keeps the
lists and objects that are open around the place reached as a stack of frames.
-/

/-- A value of a data file; a number is kept as it is written. -/
inductive Tree where
  | null
  | boolean (value : Bool)
  | number (numeral : Numeral)
  | string (value : String)
  | list (items : List Tree)
  | object (members : List (String × Tree))

section Grammar

/-- What the integer at the start of a numeral may look like. -/
inductive WholeForm : List Char → Prop where
  | zero :
      WholeForm ['0']
  | digits {first : Char} {rest : List Char} :
      first ≠ '0' →
      Segment.Digits (first :: rest) →
      WholeForm (first :: rest)

/-- What a fraction may look like, and its digits. -/
inductive FractionForm : List Char → List Char → Prop where
  | none :
      FractionForm [] []
  | digits {digits : List Char} :
      Segment.Digits digits →
      FractionForm ('.' :: digits) digits

/-- What an exponent may look like, and its sign and digits. -/
inductive ExponentForm : List Char → Option (Bool × List Char) → Prop where
  | none :
      ExponentForm [] none
  | digits {mark : Char} {sign digits : List Char} {negative : Bool} :
      mark ∈ ['e', 'E'] →
      (sign, negative) ∈ [([], false), (['+'], false), (['-'], true)] →
      Segment.Digits digits →
      ExponentForm (mark :: (sign ++ digits)) (some (negative, digits))

/-- What a numeral may look like. -/
inductive NumeralForm : List Char → Numeral → Prop where
  | parts
      {sign whole fractionText fraction exponentText : List Char}
      {negative : Bool}
      {exponent? : Option (Bool × List Char)} :
      (sign, negative) ∈ [([], false), (['-'], true)] →
      WholeForm whole →
      FractionForm fractionText fraction →
      ExponentForm exponentText exponent? →
      NumeralForm (sign ++ (whole ++ (fractionText ++ exponentText)))
        ⟨negative, whole, fraction, exponent?⟩

/-- What the key of a member may look like, the colon included. -/
inductive KeyForm : List Char → String → Prop where
  | colon {text blanks : List Char} {key : String} :
      StringForm text key →
      Blanks blanks →
      KeyForm (text ++ (blanks ++ [':'])) key

/-- The parts of a file: values, and what stands behind a value in a list or an object. -/
inductive Part where
  | value (tree : Tree)
  | items (items : List Tree)
  | members (members : List (String × Tree))

/-- What the parts of a file may look like. -/
inductive PartForm : List Char → Part → Prop where
  | null :
      PartForm ['n', 'u', 'l', 'l'] (.value .null)
  | true :
      PartForm ['t', 'r', 'u', 'e'] (.value (.boolean true))
  | false :
      PartForm ['f', 'a', 'l', 's', 'e'] (.value (.boolean false))
  | number {text : List Char} {numeral : Numeral} :
      NumeralForm text numeral →
      PartForm text (.value (.number numeral))
  | string {text : List Char} {value : String} :
      StringForm text value →
      PartForm text (.value (.string value))
  | emptyList {blanks : List Char} :
      Blanks blanks →
      PartForm ('[' :: (blanks ++ [']'])) (.value (.list []))
  | list {before text rest : List Char} {item : Tree} {items : List Tree} :
      Blanks before →
      PartForm text (.value item) →
      PartForm rest (.items items) →
      PartForm ('[' :: (before ++ (text ++ rest))) (.value (.list (item :: items)))
  | emptyObject {blanks : List Char} :
      Blanks blanks →
      PartForm ('{' :: (blanks ++ ['}'])) (.value (.object []))
  | object
      {before keyText after text rest : List Char}
      {key : String}
      {value : Tree}
      {members : List (String × Tree)} :
      Blanks before →
      KeyForm keyText key →
      Blanks after →
      PartForm text (.value value) →
      PartForm rest (.members members) →
      PartForm ('{' :: (before ++ (keyText ++ (after ++ (text ++ rest)))))
        (.value (.object ((key, value) :: members)))
  | closeList {blanks : List Char} :
      Blanks blanks →
      PartForm (blanks ++ [']']) (.items [])
  | nextItem {before after text rest : List Char} {item : Tree} {items : List Tree} :
      Blanks before →
      Blanks after →
      PartForm text (.value item) →
      PartForm rest (.items items) →
      PartForm (before ++ ',' :: (after ++ (text ++ rest))) (.items (item :: items))
  | closeObject {blanks : List Char} :
      Blanks blanks →
      PartForm (blanks ++ ['}']) (.members [])
  | nextMember
      {before between keyText after text rest : List Char}
      {key : String}
      {value : Tree}
      {members : List (String × Tree)} :
      Blanks before →
      Blanks between →
      KeyForm keyText key →
      Blanks after →
      PartForm text (.value value) →
      PartForm rest (.members members) →
      PartForm (before ++ ',' :: (between ++ (keyText ++ (after ++ (text ++ rest)))))
        (.members ((key, value) :: members))

/-- What a value may look like. -/
def TreeForm (text : List Char) (tree : Tree) : Prop :=
  PartForm text (.value tree)

end Grammar

namespace Tree

/-- A list or object that is open around a value, with what stands before the value in it. -/
inductive Frame where
  | list (found : List Tree)
  | object (found : List (String × Tree)) (key : String)

/-- Where reading stands: before a value, or after one inside a frame. -/
inductive Position where
  | value (frames : List Frame)
  | afterValue (tree : Tree) (frame : Frame) (outer : List Frame)

/-- Where reading stands after a value inside the given frames; outside all frames it is done. -/
def ended (frames : List Frame) (tree : Tree) : Position ⊕ Tree :=
  match frames with
  | [] =>
      .inr tree
  | frame :: outer =>
      .inl (.afterValue tree frame outer)

/-- Read a key and its colon. -/
def readKey : Reader String := do
  let key ← Reader.dispatch .endInObject fun next =>
    if next = '"' then do
      Reader.skip 1
      Quoted.readRest
    else
      Reader.failAhead .keyNotString
  Reader.colon
  pure key

/-- Read on after an opening bracket. -/
def openList (outer : List Frame) : Reader (Position ⊕ Tree) :=
  Reader.dispatch .endInList fun next =>
    if next = ']' then do
      Reader.skip 1
      pure (ended outer (.list []))
    else
      pure (.inl (.value (.list [] :: outer)))

/-- Read on after an opening brace. -/
def openObject (outer : List Frame) : Reader (Position ⊕ Tree) :=
  Reader.dispatch .endInObject fun next =>
    if next = '}' then do
      Reader.skip 1
      pure (ended outer (.object []))
    else do
      let key ← readKey
      pure (.inl (.value (.object [] key :: outer)))

/-- Read a value without parts, or go into a list or object. -/
def readValue (frames : List Frame) : Reader (Position ⊕ Tree) :=
  Reader.dispatch .endInValue fun next =>
    if next = '[' then do
      Reader.skip 1
      openList frames
    else if next = '{' then do
      Reader.skip 1
      openObject frames
    else if next = '"' then do
      Reader.skip 1
      let value ← Quoted.readRest
      pure (ended frames (.string value))
    else if next = '-' then do
      Reader.skip 1
      let numeral ← Numeral.readAfterSign .skipping true
      pure (ended frames (.number numeral))
    else if next.isDigit then do
      let numeral ← Numeral.readAfterSign .skipping false
      pure (ended frames (.number numeral))
    else if next = 'n' then do
      Reader.expectWord ['n', 'u', 'l', 'l']
      pure (ended frames .null)
    else if next = 't' then do
      Reader.expectWord ['t', 'r', 'u', 'e']
      pure (ended frames (.boolean true))
    else if next = 'f' then do
      Reader.expectWord ['f', 'a', 'l', 's', 'e']
      pure (ended frames (.boolean false))
    else
      Reader.failAhead .expectedValue

/-- After a value in a list, go to the next value or past the end of the list. -/
def readNextItem (found : List Tree) (outer : List Frame) : Reader (Position ⊕ Tree) :=
  Reader.dispatch .endInList fun next =>
    if next = ',' then do
      Reader.skip 1
      pure (.inl (.value (.list found :: outer)))
    else if next = ']' then do
      Reader.skip 1
      pure (ended outer (.list found))
    else
      Reader.failAhead .expectedCommaInList

/-- After a value in an object, go to the next value or past the end of the object. -/
def readNextMember (found : List (String × Tree)) (outer : List Frame) :
    Reader (Position ⊕ Tree) :=
  Reader.dispatch .endInObject fun next =>
    if next = ',' then do
      Reader.skip 1
      let key ← readKey
      pure (.inl (.value (.object found key :: outer)))
    else if next = '}' then do
      Reader.skip 1
      pure (ended outer (.object found))
    else
      Reader.failAhead .expectedCommaInObject

/-- Go on from a position to the next one, or to the end of the value. -/
def step : Position → Reader (Position ⊕ Tree)
  | .value frames =>
      readValue frames
  | .afterValue tree (.list found) outer =>
      readNextItem (found ++ [tree]) outer
  | .afterValue tree (.object found key) outer =>
      readNextMember (found ++ [(key, tree)]) outer

theorem strict_readValue (frames : List Frame) : (readValue frames).Strict := by
  refine Reader.strict_dispatch fun next => ?_
  repeat' split
  · exact Reader.strictInside_skip_bind _
  · exact Reader.strictInside_skip_bind _
  · exact Reader.strictInside_skip_bind _
  · exact Reader.strictInside_skip_bind _
  · exact (Numeral.strict_readAfterSign _ _).inside.bind _
  · exact (Reader.strict_expectWord_cons _ _).inside.bind _
  · exact (Reader.strict_expectWord_cons _ _).inside.bind _
  · exact (Reader.strict_expectWord_cons _ _).inside.bind _
  · exact (Reader.strict_failAt _ _).inside

theorem strict_step (position : Position) : (step position).Strict := by
  rcases position with frames | ⟨tree, found | ⟨found, key⟩, outer⟩
  · exact strict_readValue frames
  · refine Reader.strict_dispatch fun next => ?_
    repeat' split
    · exact Reader.strictInside_skip_bind _
    · exact Reader.strictInside_skip_bind _
    · exact (Reader.strict_failAt _ _).inside
  · refine Reader.strict_dispatch fun next => ?_
    repeat' split
    · exact Reader.strictInside_skip_bind _
    · exact Reader.strictInside_skip_bind _
    · exact (Reader.strict_failAt _ _).inside

/-- Read one value, whatever it is. -/
def read : Reader Tree :=
  Reader.loop step strict_step (.value [])

end Tree

end PinkyLex.Json
