import PinkyLex.Proofs.ScanTiling

namespace PinkyLex

/-!
# Places of faults

A scan that fails has cut off all the longest segments before the place where it
is stuck.  The fault is located there, and the character that stands there decides
its cause and how much of the source its label marks.
-/

/--
A fault stands where a character and the rest of the source follow what has been
cut off.  The character decides the cause and what the label marks.
-/
structure Fault.StandsAt
    (settings : Settings)
    (before : List Char)
    (first : Char)
    (rest : List Char)
    (fault : Fault) :
    Prop where
  offset :
    fault.offset = Text.byteLength before
  line :
    fault.line = 1 + before.count '\n'
  source :
    fault.source = {}
  malformed :
    first = '=' →
      fault.cause = .malformedOperator "=" ∧
        fault.cause.labelLength = 1
  unterminated :
    settings.dialect = .pinky →
    first ∈ ['"', '\''] →
      ∃ inside after,
        rest = inside ++ after ∧
          fault.cause = .unterminatedString (Text.byteLength (first :: inside)) ∧
          first ∉ inside ∧
          (settings.multilineStrings = true → after = []) ∧
          (settings.multilineStrings = false →
            '\n' ∉ inside ∧ (after = [] ∨ after.head? = some '\n'))
  unrecognized :
    first ≠ '=' →
    ¬ (settings.dialect = .pinky ∧ first ∈ ['"', '\'']) →
      fault.cause = .unrecognizedCharacter first ∧
        fault.cause.labelLength = first.utf8Size

namespace Segment

variable {settings : Settings} {quote : Char} {rest : List Char}

/-- The quote of a string that is stuck does not end what lies inside it. -/
theorem Stuck.not_closed
    (literals : settings.dialect = .pinky)
    (quoted : quote ∈ ['"', '\''])
    (stuck : Stuck settings (quote :: rest)) :
    (rest.dropWhile (insideString settings quote)).head? ≠ some quote := by
  intro closed
  have reached : stringReach? settings quote rest =
      some ((rest.takeWhile (insideString settings quote)).length + 1) := by
    rw [stringReach?, if_pos closed]
  have form := (form_of_stringReach? literals (isQuote_iff.mpr quoted) reached).2
  refine stuck _ _ form ?_
  rw [List.prefix_cons_inj]
  exact List.take_prefix _ _

/-- A string that is stuck runs to the end of the text or, on one line, of the line. -/
theorem Stuck.after_inside
    (literals : settings.dialect = .pinky)
    (quoted : quote ∈ ['"', '\''])
    (stuck : Stuck settings (quote :: rest)) :
    rest.dropWhile (insideString settings quote) = [] ∨
      settings.multilineStrings = false ∧
        (rest.dropWhile (insideString settings quote)).head? = some '\n' := by
  have notClosed := stuck.not_closed literals quoted
  have stopped := List.head?_dropWhile_not (insideString settings quote) rest
  cases after : rest.dropWhile (insideString settings quote) with
  | nil =>
      exact .inl rfl
  | cons next later =>
      right
      simp only [after, List.head?_cons, ne_eq, Option.some.injEq] at notClosed stopped ⊢
      simpa [insideString, insideLine, notClosed] using stopped

end Segment

namespace FaultCause

variable {settings : Settings} {first : Char} {rest : List Char}

theorem of_quote
    (literals : settings.dialect = .pinky)
    (quoted : first ∈ ['"', '\'']) :
    of settings first rest =
      .unterminatedString
        (Text.byteLength (first :: rest.takeWhile (Segment.insideString settings first))) := by
  have notEqual : first ≠ '=' := by
    rintro rfl
    exact absurd quoted (by decide)
  simp [of, notEqual, literals, Dialect.hasLiterals, Segment.isQuote_iff.mpr quoted]

theorem of_other
    (notEqual : first ≠ '=')
    (notString : ¬ (settings.dialect = .pinky ∧ first ∈ ['"', '\''])) :
    of settings first rest = .unrecognizedCharacter first := by
  have otherwise : (settings.dialect.hasLiterals && Segment.isQuote first) = false := by
    cases dialect : settings.dialect with
    | hash =>
        rfl
    | pinky =>
        simpa [Dialect.hasLiterals, Segment.isQuote, dialect] using notString
  simp [of, notEqual, otherwise]

/-- More text changes a cause only through what lies inside an open string. -/
theorem of_append
    {more : List Char}
    (same :
      settings.dialect = .pinky →
      first ∈ ['"', '\''] →
        (rest ++ more).takeWhile (Segment.insideString settings first) =
          rest.takeWhile (Segment.insideString settings first)) :
    of settings first (rest ++ more) = of settings first rest := by
  by_cases equal : first = '='
  · subst equal
    rfl
  · by_cases string : settings.dialect = .pinky ∧ first ∈ ['"', '\'']
    · rw [of_quote string.1 string.2, of_quote string.1 string.2, same string.1 string.2]
    · rw [of_other equal string, of_other equal string]

/-- No label goes past the end of the text that it starts with. -/
theorem exists_label
    (settings : Settings)
    (first : Char)
    (rest : List Char) :
    ∃ label after,
      first :: rest = label ++ after ∧
        (of settings first rest).labelLength = Text.byteLength label := by
  by_cases equal : first = '='
  · subst equal
    exact ⟨['='], rest, rfl, rfl⟩
  · by_cases string : settings.dialect = .pinky ∧ first ∈ ['"', '\'']
    · refine ⟨_, rest.dropWhile (Segment.insideString settings first), ?_,
        congrArg labelLength (of_quote string.1 string.2)⟩
      rw [List.cons_append, List.takeWhile_append_dropWhile]
    · refine ⟨[first], rest, rfl, ?_⟩
      rw [of_other equal string]
      rfl

end FaultCause

/-- The fault of a stuck place stands there. -/
theorem Segment.Stuck.standsAt
    {settings : Settings}
    {first : Char}
    {rest : List Char}
    (stuck : Stuck settings (first :: rest))
    (segments : List Segment) :
    Fault.StandsAt settings (segments.map text).flatten first rest {
      cause := FaultCause.of settings first rest
      line := 1 + totalLineEnds segments
      offset := Scan.byteLength segments } where
  offset :=
    Scan.byteLength_eq segments
  line :=
    congrArg (1 + ·) (totalLineEnds_eq segments)
  source :=
    rfl
  malformed := by
    rintro rfl
    exact ⟨rfl, rfl⟩
  unterminated literals quoted := by
    refine ⟨_, _, List.takeWhile_append_dropWhile.symm, FaultCause.of_quote literals quoted,
      ?_, ?_, ?_⟩
    · intro member
      simpa [insideString] using List.mem_takeWhile_imp member
    · intro multiline
      rcases stuck.after_inside literals quoted with atEnd | ⟨singleLine, -⟩
      · exact atEnd
      · simp [multiline] at singleLine
    · intro singleLine
      constructor
      · intro member
        simpa [insideString, insideLine, singleLine] using List.mem_takeWhile_imp member
      · exact (stuck.after_inside literals quoted).imp_right And.right
  unrecognized notEqual notString := by
    rw [FaultCause.of_other notEqual notString]
    exact ⟨rfl, rfl⟩

/--
A scan that fails has cut off longest segments up to a place where none starts.
Its fault stands at this place, and its label starts and ends between characters
of the source.
-/
theorem scan_error_standsAt
    {settings : Settings}
    {vocabulary : Vocabulary}
    {source : String}
    {fault : Fault}
    (failed : scan settings vocabulary source = .error fault) :
    ∃ segments first rest,
      Tiled settings source.toList segments (first :: rest) ∧
        Segment.Stuck settings (first :: rest) ∧
        fault.StandsAt settings (segments.map Segment.text).flatten first rest ∧
        fault.offset + fault.cause.labelLength ≤ source.utf8ByteSize ∧
        String.Pos.Raw.IsValid source ⟨fault.offset⟩ ∧
        String.Pos.Raw.IsValid source ⟨fault.offset + fault.cause.labelLength⟩ := by
  obtain ⟨segments, first, rest, cut, rfl⟩ := scan_eq_error_iff.mp failed
  obtain ⟨tiled, stuck⟩ := Tiled.iff_cut.mpr cut
  obtain ⟨label, after, split, length⟩ := FaultCause.exists_label settings first rest
  have beforeLabel := tiled.flatten_append.symm
  have beforeRest : source.toList = ((segments.map Segment.text).flatten ++ label) ++ after := by
    rw [beforeLabel, split, List.append_assoc]
  have labelStart := Text.isValid_byteLength beforeLabel
  have labelEnd := Text.isValid_byteLength beforeRest
  rw [Text.byteLength_append, ← length, ← Scan.byteLength_eq] at labelEnd
  rw [← Scan.byteLength_eq] at labelStart
  refine ⟨segments, first, rest, tiled, stuck, ?_, labelEnd.le_utf8ByteSize, labelStart, labelEnd⟩
  exact stuck.standsAt segments

/-- The label of a string left open on its line starts and ends between characters. -/
theorem scan_error_standsAt_open_string :
    scan { multilineStrings := false } .pinky "'é'\n'b\n'" =
        .error ⟨.unterminatedString 2, 2, 5, {}⟩ ∧
      ∃ segments first rest,
        Tiled { multilineStrings := false } "'é'\n'b\n'".toList segments (first :: rest) ∧
          Segment.Stuck { multilineStrings := false } (first :: rest) ∧
          Fault.StandsAt { multilineStrings := false } (segments.map Segment.text).flatten
            first rest ⟨.unterminatedString 2, 2, 5, {}⟩ ∧
          5 + 2 ≤ "'é'\n'b\n'".utf8ByteSize ∧
          String.Pos.Raw.IsValid "'é'\n'b\n'" ⟨5⟩ ∧
          String.Pos.Raw.IsValid "'é'\n'b\n'" ⟨5 + 2⟩ := by
  have failed : scan { multilineStrings := false } .pinky "'é'\n'b\n'" =
      .error ⟨.unterminatedString 2, 2, 5, {}⟩ := by
    decide +kernel
  exact ⟨failed, scan_error_standsAt failed⟩

end PinkyLex
