import PinkyLex.Proofs.ScanExtension

namespace PinkyLex

/-!
# Strings of several lines

Whether strings may go on past the end of their line matters only from the first
one that is left open on its line.  Up to there both scans cut the same segments.
From there the one that goes on either finds the string open still, or closes it
further down.
-/

namespace Segment

variable {dialect : Dialect} {segment : Segment} {first : Char} {rest body after : List Char}

/-- Only what a quote starts depends on whether strings may have several lines. -/
theorem reach?_multiline
    (notString : ¬ (dialect = .pinky ∧ first ∈ ['"', '\''])) :
    reach? ⟨dialect, true⟩ first rest = reach? ⟨dialect, false⟩ first rest := by
  cases dialect with
  | hash =>
      rfl
  | pinky =>
      have notQuote : isQuote first = false := by
        rw [Bool.eq_false_iff]
        exact fun quoted => notString ⟨rfl, isQuote_iff.mp quoted⟩
      simp only [reach?, literalReach?, notQuote, Bool.false_eq_true, ↓reduceIte]

theorem reach?_multiline_of_some
    {taken : SegmentKind × Nat}
    (reached : reach? ⟨dialect, false⟩ first rest = some taken) :
    reach? ⟨dialect, true⟩ first rest = some taken := by
  by_cases string : dialect = .pinky ∧ first ∈ ['"', '\'']
  · obtain ⟨literals, quoted⟩ := string
    have isQuote := isQuote_iff.mpr quoted
    rw [reach?_of_isQuote literals isQuote] at reached ⊢
    obtain ⟨count, closed, rfl⟩ := Option.map_eq_some_iff.mp reached
    obtain ⟨body, tail, rfl, notInside, -, rfl⟩ := stringReach?_eq_some_iff.mp closed
    rw [stringReach?_eq_some_iff.mpr ⟨body, tail, rfl, notInside, fun _ => by contradiction, rfl⟩]
    rfl
  · rw [reach?_multiline string, reached]

/-- What is taken where strings stay on their line is taken where they need not. -/
theorem Longest.multiline
    (longest : Longest ⟨dialect, false⟩ segment (segment.text ++ rest)) :
    Longest ⟨dialect, true⟩ segment (segment.text ++ rest) := by
  obtain ⟨kind, text⟩ := segment
  obtain ⟨first, body, rfl⟩ := List.exists_cons_of_ne_nil longest.form.ne_nil
  rw [List.cons_append, longest_iff_reach?] at longest ⊢
  exact reach?_multiline_of_some longest

/-- A quote opens a string, and the line ends before the same quote comes again. -/
structure OpenOnLine (dialect : Dialect) (first : Char) (rest body after : List Char) : Prop where
  literals : dialect = .pinky
  quoted : first ∈ ['"', '\'']
  split : rest = body ++ '\n' :: after
  notInside : first ∉ body
  sameLine : '\n' ∉ body

namespace OpenOnLine

variable (string : OpenOnLine dialect first rest body after)
include string

theorem inside (multiline : Bool) :
    ∀ character ∈ body, insideString ⟨dialect, multiline⟩ first character = true :=
  insideString_of_not_mem string.notInside fun _ => string.sameLine

theorem cause :
    FaultCause.of ⟨dialect, false⟩ first rest =
      .unterminatedString (Text.byteLength (first :: body)) := by
  have run : rest.takeWhile (insideString ⟨dialect, false⟩ first) = body := by
    rw [string.split, List.takeWhile_append_of_pos (string.inside false)]
    simp [insideString, insideLine]
  rw [FaultCause.of_quote string.literals string.quoted, run]

theorem byteLength_lt :
    Text.byteLength (first :: body) < Text.byteLength (first :: rest) := by
  have lineEnd := Char.utf8Size_pos '\n'
  simp only [string.split, Text.byteLength_cons, Text.byteLength_append]
  omega

/-- Where strings may go on, the label of an open one goes on past the end of the line. -/
theorem exists_longer_cause :
    ∃ length,
      FaultCause.of ⟨dialect, true⟩ first rest = .unterminatedString length ∧
        Text.byteLength (first :: body) < length := by
  have lineEnd : insideString ⟨dialect, true⟩ first '\n' = true := by
    have notQuote : '\n' ≠ first := by
      rintro rfl
      exact absurd string.quoted (by decide)
    simp [insideString, notQuote]
  refine ⟨_, FaultCause.of_quote string.literals string.quoted, ?_⟩
  rw [string.split, List.takeWhile_append_of_pos (string.inside true),
    List.takeWhile_cons_of_pos lineEnd]
  have lineEndSize := Char.utf8Size_pos '\n'
  simp only [Text.byteLength_cons, Text.byteLength_append]
  omega

/-- The quote that closes an open string stands behind the end of the line. -/
theorem lineEnd_mem_of_split
    {inside later : List Char}
    (closed : rest = inside ++ first :: later) :
    '\n' ∈ inside := by
  have notLineEnd : '\n' ≠ first := by
    rintro rfl
    exact absurd string.quoted (by decide)
  rcases List.append_eq_append_iff.mp (string.split.symm.trans closed) with
    ⟨between, rfl, onward⟩ | ⟨between, bodyShape, onward⟩
  · rcases List.cons_eq_append_iff.mp onward with ⟨-, same⟩ | ⟨more, rfl, -⟩
    · exact absurd (List.cons.inj same).1.symm notLineEnd
    · simp
  · rcases List.cons_eq_append_iff.mp onward with ⟨-, same⟩ | ⟨more, rfl, -⟩
    · exact absurd (List.cons.inj same).1 notLineEnd
    · exact absurd (by simp [bodyShape]) string.notInside

/-- What is taken from an open string, where it may go on, is a string with a line end in it. -/
theorem lineEnd_mem
    (longest : Longest ⟨dialect, true⟩ segment (first :: rest)) :
    segment.kind = .string ∧ '\n' ∈ segment.text := by
  obtain ⟨taken, tail, shape, split, reached⟩ := longest.exists_reach?
  rw [reach?_of_isQuote string.literals (isQuote_iff.mpr string.quoted)] at reached
  obtain ⟨count, closed, same⟩ := Option.map_eq_some_iff.mp reached
  obtain ⟨kind, length⟩ := Prod.mk.inj same
  obtain ⟨inside, later, restSplit, -, -, rfl⟩ := stringReach?_eq_some_iff.mp closed
  have sameText : taken ++ tail = inside ++ [first] ++ later := by
    rw [← split, restSplit, List.append_assoc, List.singleton_append]
  have takenShape : taken = inside ++ [first] := by
    apply List.append_inj_left sameText
    simpa using length.symm
  have inside := string.lineEnd_mem_of_split restSplit
  exact ⟨kind.symm, by simp [shape, takenShape, inside]⟩

end OpenOnLine

/--
What is stuck where strings stay on their line is a string that the line leaves
open, or it is stuck for the same cause where strings may go on.
-/
theorem Stuck.multiline_cases
    (stuck : Stuck ⟨dialect, false⟩ (first :: rest)) :
    (∃ body after, OpenOnLine dialect first rest body after) ∨
      Stuck ⟨dialect, true⟩ (first :: rest) ∧
        FaultCause.of ⟨dialect, true⟩ first rest = FaultCause.of ⟨dialect, false⟩ first rest ∧
        ∀ length,
          FaultCause.of ⟨dialect, false⟩ first rest = .unterminatedString length →
          length = Text.byteLength (first :: rest) := by
  by_cases string : dialect = .pinky ∧ first ∈ ['"', '\'']
  · obtain ⟨literals, quoted⟩ := string
    have inside (character : Char)
        (member : character ∈ rest.takeWhile (insideString ⟨dialect, false⟩ first)) :
        character ≠ first ∧ character ≠ '\n' := by
      simpa [insideString, insideLine] using List.mem_takeWhile_imp member
    have split :
        rest.takeWhile (insideString ⟨dialect, false⟩ first) ++
          rest.dropWhile (insideString ⟨dialect, false⟩ first) = rest :=
      List.takeWhile_append_dropWhile
    rcases stuck.after_inside literals quoted with atEnd | ⟨-, lineEnd⟩
    · right
      rw [atEnd, List.append_nil] at split
      rw [split] at inside
      have unclosed (multiline : Bool) : Unclosed ⟨dialect, multiline⟩ (first :: rest) := by
        refine ⟨literals, first, rest, rfl, quoted, ?_⟩
        apply insideString_of_not_mem
        · exact fun member => (inside _ member).1 rfl
        · exact fun _ member => (inside _ member).2 rfl
      rw [FaultCause.of_unclosed (unclosed true), FaultCause.of_unclosed (unclosed false)]
      exact ⟨(unclosed true).stuck, rfl, fun _ same => (FaultCause.unterminatedString.inj same).symm⟩
    · left
      obtain ⟨after, found⟩ := List.head?_eq_some_iff.mp lineEnd
      rw [found] at split
      exact ⟨_, after, literals, quoted, split.symm, fun member => (inside _ member).1 rfl,
        fun member => (inside _ member).2 rfl⟩
  · right
    refine ⟨stuck_iff.mpr ((reach?_multiline string).trans (stuck_iff.mp stuck)), ?_⟩
    by_cases equal : first = '='
    · subst equal
      refine ⟨rfl, ?_⟩
      intro length same
      cases same
    · rw [FaultCause.of_other equal string, FaultCause.of_other equal string]
      refine ⟨rfl, ?_⟩
      intro length same
      cases same

end Segment

theorem Tiled.multiline
    {dialect : Dialect}
    {segments : List Segment}
    {text remainder : List Char}
    (tiled : Tiled ⟨dialect, false⟩ text segments remainder) :
    Tiled ⟨dialect, true⟩ text segments remainder := by
  induction tiled with
  | nil remainder =>
      exact .nil remainder
  | cons longest later inductionHypothesis =>
      exact .cons longest.multiline inductionHypothesis

/-- A fault about a string whose label stops before the end of the source. -/
def Fault.StopsShort (source : String) (fault : Fault) : Prop :=
  (∃ length, fault.cause = .unterminatedString length) ∧
    fault.offset + fault.cause.labelLength < source.utf8ByteSize

/--
What comes of a source when a string that its line leaves open may go on, given
the tokens before it and its fault.  It is open to its end, or it is closed on a
later line and becomes a token, with or without a fault behind it.
-/
inductive GoesOn (source : String) (found : List Token) (fault : Fault) :
    Except Fault (List Token) → Prop where
  | stillOpen {length : Nat} :
      fault.cause.labelLength < length →
      GoesOn source found fault (.error { fault with cause := .unterminatedString length })
  | failsLater {later : Fault} :
      fault.offset < later.offset →
      GoesOn source found fault (.error later)
  | closed {front lexeme back : String} {later : List Token} :
      source = front ++ lexeme ++ back →
      front.utf8ByteSize = fault.offset →
      '\n' ∈ lexeme.toList →
      GoesOn source found fault (.ok (found ++ ⟨.string, lexeme, fault.line⟩ :: later))

section Switch

variable {dialect : Dialect} {vocabulary : Vocabulary} {source : String} {fault : Fault}

theorem GoesOn.ne_error
    {found : List Token}
    {result : Except Fault (List Token)}
    (goesOn : GoesOn source found fault result) :
    .error fault ≠ result := by
  rintro same
  cases goesOn with
  | stillOpen longer =>
      rw [Except.error.injEq] at same
      rw [same] at longer
      exact Nat.lt_irrefl _ longer
  | failsLater further =>
      cases same
      exact Nat.lt_irrefl _ further
  | closed =>
      cases same

variable {segments : List Segment} {first : Char} {rest body after : List Char}

/-- The fault of a string that its line leaves open has a label that ends before the line end. -/
theorem exists_label_of_openOnLine
    (string : Segment.OpenOnLine dialect first rest body after)
    (tiled : Tiled ⟨dialect, false⟩ source.toList segments (first :: rest)) :
    ∃ before label later,
      source.toList = before ++ label ++ '\n' :: later ∧
        Text.byteLength before = Scan.byteLength segments ∧
        Text.byteLength label = (FaultCause.of ⟨dialect, false⟩ first rest).labelLength := by
  refine ⟨(segments.map Segment.text).flatten, first :: body, after, ?_, ?_, ?_⟩
  · rw [← tiled.flatten_append, string.split, List.append_assoc, List.cons_append]
  · exact (Scan.byteLength_eq segments).symm
  · rw [string.cause]
    rfl

/-- What comes of a source with a string that its line leaves open, if the string may go on. -/
theorem goesOn_of_openOnLine
    (string : Segment.OpenOnLine dialect first rest body after)
    (tiled : Tiled ⟨dialect, false⟩ source.toList segments (first :: rest)) :
    GoesOn source (Segment.tokensFrom vocabulary 1 segments)
      { cause := FaultCause.of ⟨dialect, false⟩ first rest
        line := 1 + Segment.totalLineEnds segments
        offset := Scan.byteLength segments }
      (scan ⟨dialect, true⟩ vocabulary source) := by
  rw [scan_eq, tiled.multiline.cut_eq]
  by_cases stuck : Segment.Stuck ⟨dialect, true⟩ (first :: rest)
  · obtain ⟨length, cause, longer⟩ := string.exists_longer_cause
    rw [Tiling.cut_of_stuck stuck, Tiling.prepend, List.append_nil, Scan.result_ofTiling_cons,
      cause]
    apply GoesOn.stillOpen
    rw [string.cause]
    exact longer
  · obtain ⟨segment, tail, text, longest⟩ := Segment.exists_longest stuck
    have taken := string.lineEnd_mem (text.symm ▸ longest)
    obtain ⟨kind, lexeme⟩ := segment
    obtain ⟨rfl, lineEnd⟩ := taken
    have further : 0 < Text.byteLength lexeme := by
      obtain ⟨head, inside, rfl⟩ := List.exists_cons_of_ne_nil longest.form.ne_nil
      exact Nat.lt_of_lt_of_le (Char.utf8Size_pos head) (Nat.le_add_right _ _)
    have together :
        ((Tiling.cut ⟨dialect, true⟩ tail).cons ⟨.string, lexeme⟩).prepend segments =
          (Tiling.cut ⟨dialect, true⟩ tail).prepend (segments ++ [⟨.string, lexeme⟩]) := by
      simp [Tiling.prepend, Tiling.cons]
    rw [text, Tiling.cut_append_of_longest longest, together, Scan.result_ofTiling_prepend]
    cases (Scan.ofTiling ⟨dialect, true⟩ vocabulary (Tiling.cut ⟨dialect, true⟩ tail)).result with
    | error later =>
        apply GoesOn.failsLater
        simp only [Fault.behind, Scan.byteLength_append, Scan.byteLength_cons, Scan.byteLength_nil]
        omega
    | ok tokens =>
        have found :
            Segment.tokensFrom vocabulary 1 (segments ++ [⟨.string, lexeme⟩]) =
              Segment.tokensFrom vocabulary 1 segments ++
                [⟨.string, String.ofList lexeme, 1 + Segment.totalLineEnds segments⟩] := by
          rw [Segment.tokensFrom_append]
          rfl
        have split :
            source =
              String.ofList (segments.map Segment.text).flatten ++ String.ofList lexeme ++
                String.ofList tail := by
          rw [← String.ofList_append, ← String.ofList_append, List.append_assoc, ← text,
            tiled.flatten_append, String.ofList_toList]
        have place :
            (String.ofList (segments.map Segment.text).flatten).utf8ByteSize =
              Scan.byteLength segments := by
          rw [Text.utf8ByteSize_ofList, Scan.byteLength_eq]
        simp only [found, List.append_assoc, List.singleton_append]
        exact .closed split place (by rwa [String.toList_ofList])

/-- A label that stops before the end of the source is that of a string its line leaves open. -/
theorem exists_openOnLine
    (failed : scan ⟨dialect, false⟩ vocabulary source = .error fault)
    (short : fault.StopsShort source) :
    ∃ segments first rest body after,
      Tiling.cut ⟨dialect, false⟩ source.toList = ⟨segments, first :: rest⟩ ∧
        Segment.OpenOnLine dialect first rest body after ∧
        fault = {
          cause := FaultCause.of ⟨dialect, false⟩ first rest
          line := 1 + Segment.totalLineEnds segments
          offset := Scan.byteLength segments } := by
  obtain ⟨segments, first, rest, cut, rfl⟩ := scan_eq_error_iff.mp failed
  obtain ⟨tiled, stuck⟩ := Tiled.iff_cut.mpr cut
  rcases stuck.multiline_cases with ⟨body, after, string⟩ | ⟨-, -, toEnd⟩
  · exact ⟨segments, first, rest, body, after, cut, string, rfl⟩
  · obtain ⟨⟨length, cause⟩, shorter⟩ := short
    have label :
        (FaultCause.of ⟨dialect, false⟩ first rest).labelLength =
          Text.byteLength (first :: rest) :=
      (congrArg FaultCause.labelLength cause).trans (toEnd length cause)
    simp only [label, Scan.utf8ByteSize_eq tiled.flatten_append] at shorter
    exact absurd shorter (Nat.lt_irrefl _)

/-- Where no string is left open on its line, nothing depends on the switch. -/
theorem Scan.ofSource_multiline_of_closed
    (closed :
      ∀ segments first rest body after,
        Tiling.cut ⟨dialect, false⟩ source.toList = ⟨segments, first :: rest⟩ →
        ¬ Segment.OpenOnLine dialect first rest body after) :
    ofSource ⟨dialect, true⟩ vocabulary source = ofSource ⟨dialect, false⟩ vocabulary source := by
  obtain ⟨tiled, stuck⟩ := Tiling.tiled_cut ⟨dialect, false⟩ source.toList
  rw [ofSource, ofSource]
  cases cut : Tiling.cut ⟨dialect, false⟩ source.toList with
  | mk segments remainder =>
      rw [cut] at tiled stuck
      rw [tiled.multiline.cut_eq]
      cases remainder with
      | nil =>
          simp [Tiling.prepend, ofTiling]
      | cons first rest =>
          rcases stuck.multiline_cases with ⟨body, after, string⟩ | ⟨stuckToo, cause, -⟩
          · exact absurd string (closed segments first rest body after cut)
          · simp [Tiling.cut_of_stuck stuckToo, Tiling.prepend, ofTiling, cause]

/-- Without a string that its line leaves open, nothing depends on the switch. -/
theorem scan_multiline_of_not_stopsShort
    (notShort :
      ∀ fault,
        scan ⟨dialect, false⟩ vocabulary source = .error fault →
        ¬ fault.StopsShort source) :
    scan ⟨dialect, false⟩ vocabulary source = scan ⟨dialect, true⟩ vocabulary source := by
  refine (congrArg Scan.result (Scan.ofSource_multiline_of_closed ?_)).symm
  intro segments first rest body after cut string
  refine notShort _ (scan_eq_error_iff.mpr ⟨segments, first, rest, cut, rfl⟩)
    ⟨⟨_, string.cause⟩, ?_⟩
  simp only [string.cause, FaultCause.labelLength,
    Scan.utf8ByteSize_eq (Tiled.iff_cut.mpr cut).1.flatten_append]
  exact Nat.add_lt_add_left string.byteLength_lt _

end Switch

/--
Whether strings may go on past the end of their line changes what comes of a
source just if, where they may not, the fault is about a string and its label
stops before the end of the source.  The label then stops before a line end, and
all tokens before the fault stay: the string is open still, or closed further down.
-/
theorem scan_multiline_switch
    (dialect : Dialect)
    (vocabulary : Vocabulary)
    (source : String) :
    (scan ⟨dialect, false⟩ vocabulary source = scan ⟨dialect, true⟩ vocabulary source ↔
      ∀ fault,
        scan ⟨dialect, false⟩ vocabulary source = .error fault →
        ¬ fault.StopsShort source) ∧
    ∀ fault,
      scan ⟨dialect, false⟩ vocabulary source = .error fault →
      fault.StopsShort source →
      (∃ before label later,
        source.toList = before ++ label ++ '\n' :: later ∧
          Text.byteLength before = fault.offset ∧
          Text.byteLength label = fault.cause.labelLength) ∧
      GoesOn source (Scan.ofSource ⟨dialect, false⟩ vocabulary source).tokens fault
        (scan ⟨dialect, true⟩ vocabulary source) := by
  have switched {fault : Fault}
      (failed : scan ⟨dialect, false⟩ vocabulary source = .error fault)
      (short : fault.StopsShort source) :
      GoesOn source (Scan.ofSource ⟨dialect, false⟩ vocabulary source).tokens fault
        (scan ⟨dialect, true⟩ vocabulary source) := by
    obtain ⟨segments, first, rest, body, after, cut, string, rfl⟩ :=
      exists_openOnLine failed short
    rw [Scan.tokens_ofSource, cut]
    exact goesOn_of_openOnLine string (Tiled.iff_cut.mpr cut).1
  refine ⟨⟨?_, scan_multiline_of_not_stopsShort⟩, ?_⟩
  · intro same fault failed short
    exact (switched failed short).ne_error (failed.symm.trans same)
  · intro fault failed short
    refine ⟨?_, switched failed short⟩
    obtain ⟨segments, first, rest, body, after, cut, string, rfl⟩ :=
      exists_openOnLine failed short
    exact exists_label_of_openOnLine string (Tiled.iff_cut.mpr cut).1

/-- A string that its line leaves open is closed on the next line, behind the token before it. -/
theorem scan_multiline_switch_closed_below :
    scan ⟨.pinky, false⟩ .pinky "a 'b\nc'd" = .error ⟨.unterminatedString 2, 1, 2, {}⟩ ∧
      Fault.StopsShort "a 'b\nc'd" ⟨.unterminatedString 2, 1, 2, {}⟩ ∧
      GoesOn "a 'b\nc'd" [⟨.identifier, "a", 1⟩] ⟨.unterminatedString 2, 1, 2, {}⟩
        (.ok [⟨.identifier, "a", 1⟩, ⟨.string, "'b\nc'", 1⟩, ⟨.identifier, "d", 2⟩]) := by
  have failed : scan ⟨.pinky, false⟩ .pinky "a 'b\nc'd" =
      .error ⟨.unterminatedString 2, 1, 2, {}⟩ := by
    decide +kernel
  have found : (Scan.ofSource ⟨.pinky, false⟩ .pinky "a 'b\nc'd").tokens =
      [⟨.identifier, "a", 1⟩] := by
    decide +kernel
  have closed : scan ⟨.pinky, true⟩ .pinky "a 'b\nc'd" =
      .ok [⟨.identifier, "a", 1⟩, ⟨.string, "'b\nc'", 1⟩, ⟨.identifier, "d", 2⟩] := by
    decide +kernel
  have short : Fault.StopsShort "a 'b\nc'd" ⟨.unterminatedString 2, 1, 2, {}⟩ :=
    ⟨⟨2, rfl⟩, by decide⟩
  have goesOn := ((scan_multiline_switch .pinky .pinky _).2 _ failed short).2
  rw [found, closed] at goesOn
  exact ⟨failed, short, goesOn⟩

end PinkyLex
