import Mathlib.Data.List.TakeWhile
import PinkyLex.Dialogue
import PinkyLex.Proofs.EncodedText
import PinkyLex.Proofs.Lines

namespace PinkyLex

/-!
# Lines of a dialogue

A dialogue cuts the bytes of its input into lines.  If the input is a text, these
are the encoded lines of the text.  What is scanned of a line has no line end in
it, because a line has none but at its end.
-/

namespace Dialogue

section Bytes

variable {body rest : List UInt8}

theorem splitLines_of_not_mem
    (someBody : body ≠ [])
    (sameLine : lineFeed ∉ body) :
    splitLines body = [body] := by
  induction body with
  | nil =>
      exact absurd rfl someBody
  | cons byte body inductionHypothesis =>
      rw [List.mem_cons, not_or] at sameLine
      rw [splitLines, if_neg (Ne.symm sameLine.1)]
      cases body with
      | nil =>
          rfl
      | cons next body =>
          rw [inductionHypothesis (List.cons_ne_nil next body) sameLine.2]
          rfl

theorem splitLines_append
    (sameLine : lineFeed ∉ body)
    (rest : List UInt8) :
    splitLines (body ++ lineFeed :: rest) = (body ++ [lineFeed]) :: splitLines rest := by
  induction body with
  | nil =>
      rw [List.nil_append, splitLines, if_pos rfl]
      rfl
  | cons byte body inductionHypothesis =>
      rw [List.mem_cons, not_or] at sameLine
      rw [List.cons_append, splitLines, if_neg (Ne.symm sameLine.1),
        inductionHypothesis sameLine.2]
      rfl

/-- A dialogue takes the lines of its input one by one. -/
theorem lines_iff_splitLines
    {input : List UInt8}
    {lines : List (List UInt8)} :
    Lines lineFeed input lines ↔ splitLines input = lines := by
  have only {lines : List (List UInt8)} (cut : Lines lineFeed input lines) :
      splitLines input = lines := by
    induction cut with
    | nil =>
        rfl
    | last someBody sameLine =>
        exact splitLines_of_not_mem someBody sameLine
    | line sameLine _ inductionHypothesis =>
        rw [splitLines_append sameLine, inductionHypothesis]
  constructor
  · exact only
  · rintro rfl
    obtain ⟨lines, cut⟩ := Lines.exists_lines lineFeed input
    rw [only cut]
    exact cut

end Bytes

/-- The byte of a line feed is in the form of a text just where a line feed is in the text. -/
theorem lineFeed_mem_encode_iff
    {characters : List Char} :
    lineFeed ∈ Text.encode (String.ofList characters) ↔ '\n' ∈ characters := by
  have character (next : Char) : lineFeed ∈ String.utf8EncodeChar next ↔ next = '\n' := by
    rw [Text.mem_utf8EncodeChar_iff (by decide), ← Char.toNat_inj]
    rfl
  simp only [Text.encode_ofList, List.mem_flatMap, character, exists_eq_right]

/-- The lines of an encoded text are the encoded lines of the text. -/
theorem lines_encode
    {text : List Char}
    {lines : List (List Char)}
    (cut : Lines '\n' text lines) :
    Lines lineFeed (Text.encode (String.ofList text))
      (lines.map fun line => Text.encode (String.ofList line)) := by
  have notIn {body : List Char} (sameLine : '\n' ∉ body) :
      lineFeed ∉ Text.encode (String.ofList body) :=
    fun member => sameLine (lineFeed_mem_encode_iff.mp member)
  induction cut with
  | nil =>
      exact Text.encode_nil.symm ▸ .nil
  | @last body someBody sameLine =>
      refine .last ?_ (notIn sameLine)
      intro empty
      have noText := Text.encode_injective (empty.trans Text.encode_nil.symm)
      exact someBody (String.ofList_injective noText)
  | @line body rest lines sameLine _ inductionHypothesis =>
      have split (rest : List Char) :
          Text.encode (String.ofList (body ++ '\n' :: rest)) =
            Text.encode (String.ofList body) ++ lineFeed :: Text.encode (String.ofList rest) := by
        simp only [Text.encode_ofList, List.flatMap_append, List.flatMap_cons]
        rfl
      rw [List.map_cons, split, split, Text.encode_nil]
      exact .line (notIn sameLine) inductionHypothesis

theorem isLineEnd_iff
    {character : Char} :
    isLineEnd character = true ↔ character ∈ ['\n', '\r'] := by
  simp [isLineEnd]

/-- A line is a text that ends in no line end, and its line end, of whatever length. -/
def Strips (line text : List Char) : Prop :=
  ∃ ending,
    line = text ++ ending ∧
      (∀ character ∈ ending, character ∈ ['\n', '\r']) ∧
      ∀ last, text.getLast? = some last → last ∉ ['\n', '\r']

theorem strips_withoutLineEnd (line : List Char) :
    Strips line (withoutLineEnd line) := by
  refine ⟨(line.reverse.takeWhile isLineEnd).reverse, ?_, ?_, ?_⟩
  · rw [withoutLineEnd, ← List.reverse_append, List.takeWhile_append_dropWhile,
      List.reverse_reverse]
  · intro character member
    rw [List.mem_reverse] at member
    exact isLineEnd_iff.mp (List.mem_takeWhile_imp member)
  · intro last atEnd
    rw [withoutLineEnd, List.getLast?_reverse] at atEnd
    have stops := List.head?_dropWhile_not isLineEnd line.reverse
    rw [atEnd] at stops
    rw [← isLineEnd_iff]
    simpa using stops

/-- A line end behind a text does not change what the text is without its own line end. -/
theorem withoutLineEnd_append
    {ending : List Char}
    (lineEnds : ∀ character ∈ ending, character ∈ ['\n', '\r'])
    (text : List Char) :
    withoutLineEnd (text ++ ending) = withoutLineEnd text := by
  have allEnds : ∀ character ∈ ending.reverse, isLineEnd character = true := by
    intro character member
    exact isLineEnd_iff.mpr (lineEnds character (List.mem_reverse.mp member))
  rw [withoutLineEnd, List.reverse_append, List.dropWhile_append_of_pos allEnds, withoutLineEnd]

/-- No line feed is left in a line without its line end. -/
theorem lineEnd_not_mem
    {line : List Char}
    (single : Lines '\n' line [line]) :
    '\n' ∉ withoutLineEnd line := by
  have inside (body : List Char) : withoutLineEnd body <+: body := by
    obtain ⟨ending, split, -⟩ := strips_withoutLineEnd body
    exact ⟨ending, split.symm⟩
  generalize only : [line] = lines at single
  cases single with
  | nil =>
      cases only
  | last _ sameLine =>
      exact fun member => sameLine ((inside line).mem member)
  | @line body rest _ sameLine _ =>
      obtain rfl : rest = [] := by
        simpa using (List.cons.inj only).1
      rw [withoutLineEnd_append (by simp)]
      exact fun member => sameLine ((inside body).mem member)

/-- What is scanned of a line of the input has no line feed in it. -/
theorem lineEnd_not_mem_of_encode
    {input : List UInt8}
    {lines : List (List UInt8)}
    {line : String}
    (cut : Lines lineFeed input lines)
    (member : Text.encode line ∈ lines) :
    '\n' ∉ withoutLineEnd line.toList := by
  apply lineEnd_not_mem
  obtain ⟨parts, ofText⟩ := Lines.exists_lines '\n' line.toList
  have encoded := lines_encode ofText
  rw [String.ofList_toList] at encoded
  have single : parts.map (fun part => Text.encode (String.ofList part)) = [Text.encode line] :=
    (lines_iff_splitLines.mp encoded).symm.trans
      (lines_iff_splitLines.mp (cut.single_of_mem member))
  obtain ⟨part, rfl, -⟩ := List.map_eq_singleton_iff.mp single
  have flat := ofText.flatten_eq
  simp only [List.flatten_cons, List.flatten_nil, List.append_nil] at flat
  rwa [flat] at ofText

end Dialogue

end PinkyLex
