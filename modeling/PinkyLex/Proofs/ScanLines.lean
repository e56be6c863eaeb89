import PinkyLex.Proofs.FaultPlace
import PinkyLex.Proofs.TilingAppend

namespace PinkyLex

/-!
# Scans of lines

A line end splits a scan: what stands before it is scanned as if it stood alone,
and what stands after it likewise, only further down.  The one thing that goes
across a line end is a string that may do so.
-/

namespace Segment

/-- Only a line end itself and a string of several lines have a line end in them. -/
theorem Form.of_lineEnd_mem
    {settings : Settings}
    {kind : SegmentKind}
    {text : List Char}
    (form : Form settings kind text)
    (lineEnd : '\n' ∈ text) :
    text = ['\n'] ∨ kind = .string ∧ settings.multilineStrings = true := by
  cases form with
  | lineEnd =>
      exact .inl rfl
  | blank blank =>
      rw [List.mem_singleton] at lineEnd
      exact absurd (lineEnd ▸ blank) (by decide)
  | comment sameLine =>
      have inMarker := (List.mem_append.mp lineEnd).resolve_right sameLine
      cases dialect : settings.dialect <;> rw [dialect] at inMarker <;>
        exact absurd inMarker (by decide)
  | operator symbol =>
      cases symbol <;> exact absurd lineEnd (by decide)
  | integer _ digits =>
      exact absurd (digits.allDigits _ lineEnd) (by decide)
  | float _ whole fraction =>
      rcases List.mem_append.mp lineEnd with inWhole | afterWhole
      · exact absurd (whole.allDigits _ inWhole) (by decide)
      · rcases List.mem_cons.mp afterWhole with point | inFraction
        · exact absurd point (by decide)
        · exact absurd (fraction.allDigits _ inFraction) (by decide)
  | @string quote body _ quoted _ sameLine =>
      right
      refine ⟨rfl, ?_⟩
      by_contra singleLine
      have notInside := sameLine (by simpa using singleLine)
      simp only [List.mem_cons, List.mem_append, List.not_mem_nil, or_false, notInside,
        false_or, or_self] at lineEnd
      exact absurd (lineEnd ▸ quoted) (by decide)
  | word _ starts continues =>
      rcases List.mem_cons.mp lineEnd with rfl | inRest
      · exact absurd starts (by decide)
      · exact absurd (continues _ inRest) (by decide)

end Segment

namespace Segment

/-- Where strings stay on their line, a line end stops what lies inside one. -/
theorem takeWhile_insideString_append
    {settings : Settings}
    {quote : Char}
    {rest later : List Char}
    (singleLine : settings.multilineStrings = false) :
    (rest ++ '\n' :: later).takeWhile (insideString settings quote) =
      rest.takeWhile (insideString settings quote) := by
  have stops : ¬ insideString settings quote '\n' = true := by
    simp [insideString, insideLine, singleLine]
  rw [List.takeWhile_append, List.takeWhile_cons_of_neg stops, List.append_nil]
  split
  case isTrue allInside =>
    exact ((List.takeWhile_prefix _).eq_of_length allInside).symm
  case isFalse =>
    rfl

/-- The segment of a line end. -/
def newLine : Segment :=
  ⟨.lineEnd, ['\n']⟩

end Segment

/-- No segment goes across a line end but a string that may do so. -/
theorem Seam.of_lineEnd
    {settings : Settings}
    {pending later : List Char}
    (seam : Seam settings pending ('\n' :: later)) :
    pending = [] ∨
      Segment.Stuck settings (pending ++ '\n' :: later) ∨
      settings.multilineStrings = true ∧ Segment.Unclosed settings pending := by
  cases seam with
  | finished empty =>
      exact .inl empty
  | stuck _ stuck =>
      exact .inr (.inl stuck)
  | @crossed kind beyond after somePending someBeyond split longest =>
      right
      right
      have form : Segment.Form settings kind (pending ++ beyond) := longest.form
      obtain ⟨next, far, rfl⟩ := List.exists_cons_of_ne_nil someBeyond
      obtain ⟨rfl, -⟩ := List.cons.inj split
      rcases form.of_lineEnd_mem (by simp) with single | ⟨rfl, multiline⟩
      · simp [List.append_eq_singleton_iff, somePending] at single
      · exact ⟨multiline, form.unclosed somePending someBeyond⟩

namespace Tiling

variable {settings : Settings} {text : List Char} {segments : List Segment}

/-- A line end is cut off and what follows is cut in turn. -/
theorem cut_cons_lineEnd
    (settings : Settings)
    (later : List Char) :
    cut settings ('\n' :: later) = (cut settings later).cons Segment.newLine := by
  have reached : Segment.reach? settings '\n' later = some (.lineEnd, 0) :=
    rfl
  simpa [Segment.newLine] using cut_cons_of_some reached

/-- After a text that is cut up whole, the line end is cut off and what follows is cut in turn. -/
theorem cut_append_lineEnd
    (whole : cut settings text = ⟨segments, []⟩)
    (later : List Char) :
    cut settings (text ++ '\n' :: later) =
      (cut settings later).prepend (segments ++ [Segment.newLine]) := by
  obtain ⟨agreed, pending, -, alone, both, seam⟩ := exists_seam settings text ('\n' :: later)
  have atEnd : pending = [] := by
    rcases seam.of_lineEnd with empty | stuck | ⟨-, unclosed⟩
    · exact empty
    · rw [alone, cut_of_stuck stuck.of_append] at whole
      exact congrArg remainder whole
    · rw [alone, cut_of_stuck unclosed.stuck] at whole
      exact congrArg remainder whole
  subst atEnd
  obtain ⟨_, empty, rfl⟩ := prepend_eq_iff.mp (alone.symm.trans whole)
  cases (cut_nil settings).symm.trans empty
  rw [both, List.nil_append, cut_cons_lineEnd]
  simp [prepend, cons]

/-- A text that gets stuck gets stuck at the same place before a line end. -/
theorem cut_append_lineEnd_of_stuck
    {first : Char}
    {rest : List Char}
    (stops : cut settings text = ⟨segments, first :: rest⟩)
    (later : List Char) :
    cut settings (text ++ '\n' :: later) = ⟨segments, first :: rest ++ '\n' :: later⟩ ∨
      settings.multilineStrings = true ∧ Segment.Unclosed settings (first :: rest) := by
  obtain ⟨agreed, pending, -, alone, both, seam⟩ := exists_seam settings text ('\n' :: later)
  rcases seam.of_lineEnd with rfl | stuck | ⟨multiline, unclosed⟩
  · simp [alone, prepend] at stops
  · rw [alone, cut_of_stuck stuck.of_append] at stops
    simp only [prepend, List.append_nil, Tiling.mk.injEq] at stops
    obtain ⟨rfl, rfl⟩ := stops
    rw [both, cut_of_stuck stuck]
    simp [prepend]
  · rw [alone, cut_of_stuck unclosed.stuck] at stops
    right
    have same : pending = first :: rest := congrArg remainder stops
    exact ⟨multiline, same ▸ unclosed⟩

end Tiling

/-- A line end counts one line and one byte, and becomes no token. -/
theorem scan_append_newLine_of_ok
    {settings : Settings}
    {vocabulary : Vocabulary}
    {first : String}
    {tokens : List Token}
    (succeeds : scan settings vocabulary first = .ok tokens)
    (second : String) :
    scan settings vocabulary (first ++ "\n" ++ second) =
      match scan settings vocabulary second with
      | .ok later =>
          .ok (tokens ++ later.map (Token.below (1 + first.toList.count '\n')))
      | .error fault =>
          .error (fault.behind (1 + first.toList.count '\n') (first.utf8ByteSize + 1)) := by
  obtain ⟨segments, whole, rfl⟩ := scan_eq_ok_iff.mp succeeds
  have flat := (Tiled.iff_cut.mpr whole).1.flatten_append
  have lines : Segment.totalLineEnds (segments ++ [Segment.newLine]) =
      1 + first.toList.count '\n' := by
    rw [Segment.totalLineEnds_append, Segment.totalLineEnds_eq, ← flat, List.append_nil,
      Nat.add_comm]
    rfl
  have bytes : Scan.byteLength (segments ++ [Segment.newLine]) = first.utf8ByteSize + 1 := by
    rw [Scan.byteLength_append, Scan.utf8ByteSize_eq flat]
    rfl
  have found : Segment.tokensFrom vocabulary 1 (segments ++ [Segment.newLine]) =
      Segment.tokensFrom vocabulary 1 segments := by
    rw [Segment.tokensFrom_append]
    exact List.append_nil _
  have text : (first ++ "\n" ++ second).toList = first.toList ++ '\n' :: second.toList := by
    simp
  rw [scan_eq, text, Tiling.cut_append_lineEnd whole second.toList, Scan.result_ofTiling_prepend,
    lines, bytes, found]
  rfl

/-- A fault before a line end stays as it is. -/
theorem scan_append_newLine_of_error
    {settings : Settings}
    {vocabulary : Vocabulary}
    {first : String}
    {fault : Fault}
    (fails : scan settings vocabulary first = .error fault)
    (closed :
      settings.multilineStrings = false ∨
        ∀ length, fault.cause ≠ .unterminatedString length)
    (second : String) :
    scan settings vocabulary (first ++ "\n" ++ second) = .error fault := by
  obtain ⟨segments, head, rest, stops, rfl⟩ := scan_eq_error_iff.mp fails
  have text : (first ++ "\n" ++ second).toList = first.toList ++ '\n' :: second.toList := by
    simp
  have stringOnLine (literals : settings.dialect = .pinky) (quoted : head ∈ ['"', '\'']) :
      settings.multilineStrings = false :=
    closed.resolve_right fun other => other _ (FaultCause.of_quote literals quoted)
  rcases Tiling.cut_append_lineEnd_of_stuck stops second.toList with
    both | ⟨multiline, literals, quote, inside, shape, quoted, -⟩
  · rw [scan_eq_error_iff]
    refine ⟨segments, head, rest ++ '\n' :: second.toList, by rw [text, both]; rfl, ?_⟩
    rw [FaultCause.of_append]
    intro literals quoted
    exact Segment.takeWhile_insideString_append (stringOnLine literals quoted)
  · obtain ⟨rfl, -⟩ := List.cons.inj shape
    simp [stringOnLine literals quoted] at multiline

/--
A line end splits a scan.  The first fault before it is the fault of the whole;
otherwise what comes of the text after it follows, as many lines and bytes further
on as stand before.
-/
theorem scan_append_newLine
    {settings : Settings}
    {vocabulary : Vocabulary}
    {first : String}
    (closed :
      settings.multilineStrings = false ∨
        ∀ fault,
          scan settings vocabulary first = .error fault →
          ∀ length, fault.cause ≠ .unterminatedString length)
    (second : String) :
    scan settings vocabulary (first ++ "\n" ++ second) =
      match scan settings vocabulary first, scan settings vocabulary second with
      | .error fault, _ =>
          .error fault
      | .ok _, .error fault =>
          .error (fault.behind (1 + first.toList.count '\n') (first.utf8ByteSize + 1))
      | .ok tokens, .ok later =>
          .ok (tokens ++ later.map (Token.below (1 + first.toList.count '\n'))) := by
  cases before : scan settings vocabulary first with
  | error fault =>
      exact scan_append_newLine_of_error before (closed.imp_right fun other => other fault before)
        second
  | ok tokens =>
      rw [scan_append_newLine_of_ok before]
      cases scan settings vocabulary second <;> rfl

/-- A string of two lines does not keep the next line end from splitting the scan. -/
theorem scan_append_newLine_after_string :
    scan {} .pinky ("'a\n'" ++ "\n" ++ "'b") = .error ⟨.unterminatedString 2, 3, 5, {}⟩ := by
  have before : scan {} .pinky "'a\n'" = .ok [⟨.string, "'a\n'", 1⟩] := by
    decide +kernel
  have after : scan {} .pinky "'b" = .error ⟨.unterminatedString 2, 1, 0, {}⟩ := by
    decide +kernel
  rw [scan_append_newLine (.inr ?closed), before, after]
  case closed =>
    intro fault fails
    cases before.symm.trans fails
  rfl

end PinkyLex
