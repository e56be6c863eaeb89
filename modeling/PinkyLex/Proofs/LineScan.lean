import Mathlib.Data.List.Basic
import PinkyLex.Proofs.MultilineStrings
import PinkyLex.Proofs.Trivia

namespace PinkyLex

/-!
# Scans of one line

All that a scan finds in a text without line ends is on the first line, and it does
not matter whether strings may have several lines.  Blanks at the end of a text
change nothing: they are cut off on their own, or a comment goes on over them.
-/

theorem Dialect.not_blank_of_mem_commentMarker
    (dialect : Dialect) :
    ∀ character ∈ dialect.commentMarker, character ∉ [' ', '\t', '\r'] := by
  cases dialect <;> simp [commentMarker]

namespace Segment

variable {vocabulary : Vocabulary} {line : Nat} {segments : List Segment} {token : Token}

/-- Without a line end all tokens are on the line on which the first segment starts. -/
theorem line_eq_of_mem_tokensFrom
    (sameLine : totalLineEnds segments = 0)
    (member : token ∈ tokensFrom vocabulary line segments) :
    token.line = line := by
  induction segments with
  | nil =>
      cases member
  | cons segment segments inductionHypothesis =>
      rw [totalLineEnds_cons, Nat.add_eq_zero_iff] at sameLine
      obtain ⟨noLineEnd, later⟩ := sameLine
      rcases tokensFrom_cons_cases vocabulary line segment segments with
        ⟨-, same⟩ | ⟨-, kind, same⟩ <;> rw [same, noLineEnd, Nat.add_zero] at member
      · exact inductionHypothesis later member
      · rcases List.mem_cons.mp member with rfl | inLater
        · rfl
        · exact inductionHypothesis later inLater

/-- No token ends in a space or a line end. -/
theorem Form.last_not_space
    {settings : Settings}
    {kind : SegmentKind}
    {text : List Char}
    {last : Char}
    (form : Form settings kind text)
    (loud : ¬ Silent ⟨kind, text⟩)
    (atEnd : text.getLast? = some last) :
    last ∉ [' ', '\t', '\r', '\n'] := by
  have notSpace (inWord : Text.continuesWord last = true) : last ∉ [' ', '\t', '\r', '\n'] := by
    intro space
    simp [continuesWord_of_space space] at inWord
  cases form with
  | lineEnd =>
      exact absurd (.inl rfl) loud
  | blank =>
      exact absurd (.inr (.inl rfl)) loud
  | comment =>
      exact absurd (.inr (.inr rfl)) loud
  | operator symbol =>
      cases symbol <;> (cases atEnd; decide)
  | integer _ digits =>
      exact notSpace
        (Text.continuesWord_of_isDigit (digits.allDigits last (List.mem_of_getLast? atEnd)))
  | float _ _ fraction =>
      rw [List.append_cons, List.getLast?_append_of_ne_nil _ fraction.nonempty] at atEnd
      exact notSpace
        (Text.continuesWord_of_isDigit (fraction.allDigits last (List.mem_of_getLast? atEnd)))
  | string _ quoted =>
      rw [← List.cons_append, List.getLast?_concat, Option.some.injEq] at atEnd
      subst atEnd
      simp only [List.mem_cons, List.not_mem_nil, or_false] at quoted
      rcases quoted with rfl | rfl <;> decide
  | word _ starts continues =>
      rcases List.mem_cons.mp (List.mem_of_getLast? atEnd) with rfl | inRest
      · exact notSpace (Text.continuesWord_of_startsWord starts)
      · exact notSpace (continues last inRest)

end Segment

section OneLine

variable {settings : Settings} {vocabulary : Vocabulary} {text : List Char}

theorem Tiled.totalLineEnds_eq_zero
    {remainder : List Char}
    {segments : List Segment}
    (tiled : Tiled settings text segments remainder)
    (sameLine : '\n' ∉ text) :
    Segment.totalLineEnds segments = 0 := by
  rw [Segment.totalLineEnds_eq, List.count_eq_zero]
  intro member
  exact sameLine (tiled.flatten_append ▸ List.mem_append_left remainder member)

/-- All tokens of a text without line ends are on the first line. -/
theorem line_eq_one_of_scan
    {tokens : List Token}
    (sameLine : '\n' ∉ text)
    (succeeds : scan settings vocabulary (String.ofList text) = .ok tokens) :
    ∀ token ∈ tokens, token.line = 1 := by
  obtain ⟨segments, cut, rfl⟩ := scan_eq_ok_iff.mp succeeds
  rw [String.toList_ofList] at cut
  have noLineEnd := (Tiled.iff_cut.mpr cut).1.totalLineEnds_eq_zero sameLine
  exact fun token => Segment.line_eq_of_mem_tokensFrom noLineEnd

/-- A fault of a text without line ends is on the first line. -/
theorem Fault.line_eq_one
    {fault : Fault}
    (sameLine : '\n' ∉ text)
    (fails : scan settings vocabulary (String.ofList text) = .error fault) :
    fault.line = 1 := by
  obtain ⟨segments, first, rest, cut, rfl⟩ := scan_eq_error_iff.mp fails
  rw [String.toList_ofList] at cut
  have noLineEnd := (Tiled.iff_cut.mpr cut).1.totalLineEnds_eq_zero sameLine
  simp only [noLineEnd, Nat.add_zero]

/-- Strings of several lines do not matter to a text without line ends. -/
theorem Scan.ofSource_multiline
    (sameLine : '\n' ∉ text)
    (settings : Settings)
    (vocabulary : Vocabulary)
    (multiline : Bool) :
    ofSource { settings with multilineStrings := multiline } vocabulary (String.ofList text) =
      ofSource settings vocabulary (String.ofList text) := by
  obtain ⟨dialect, before⟩ := settings
  have switched : ofSource ⟨dialect, true⟩ vocabulary (String.ofList text) =
      ofSource ⟨dialect, false⟩ vocabulary (String.ofList text) := by
    apply ofSource_multiline_of_closed
    intro segments first rest body after cut string
    rw [String.toList_ofList] at cut
    apply sameLine
    rw [← (Tiled.iff_cut.mpr cut).1.flatten_append, string.split]
    simp
  cases multiline <;> cases before <;> first | rfl | exact switched | exact switched.symm

section Blanks

variable {blanks : List Char} (allBlank : ∀ character ∈ blanks, character ∈ [' ', '\t', '\r'])
include allBlank

/-- Only a comment goes on over blanks. -/
theorem Segment.Form.eq_comment_of_append_blanks
    {kind : SegmentKind}
    (form : Form settings kind (text ++ blanks))
    (someText : text ≠ [])
    (someBlanks : blanks ≠ []) :
    kind = .comment := by
  by_contra notComment
  obtain ⟨front, last, rfl⟩ := (List.eq_nil_or_concat blanks).resolve_left someBlanks
  rw [List.concat_eq_append, ← List.append_assoc] at form
  have space : last ∈ [' ', '\t', '\r', '\n'] :=
    List.mem_append_left ['\n'] (allBlank last (by simp))
  by_cases silent : Silent ⟨kind, text ++ front ++ [last]⟩
  · rcases form.silent_cases silent with ⟨character, -, single⟩ | comment
    · simp [List.append_eq_singleton_iff, someText] at single
    · exact notComment comment
  · exact form.last_not_space silent List.getLast?_concat space

/-- A comment is one without the blanks at its end, too. -/
theorem Segment.Form.comment_of_append_blanks
    (form : Form settings .comment (text ++ blanks)) :
    Form settings .comment text := by
  generalize split : text ++ blanks = whole at form
  cases form with
  | @comment body sameLine =>
      rcases List.append_eq_append_iff.mp split with
        ⟨later, marker, rfl⟩ | ⟨near, rfl, rfl⟩
      · -- The marker has no blank in it, so the text goes at least as far as the marker.
        cases later with
        | nil =>
            rw [List.append_nil] at marker
            have form : Form settings .comment (settings.dialect.commentMarker ++ []) :=
              .comment List.not_mem_nil
            rwa [List.append_nil, marker] at form
        | cons first later =>
            have blank := allBlank first (by simp)
            have inMarker : first ∈ settings.dialect.commentMarker := by
              simp [marker]
            exact absurd blank (settings.dialect.not_blank_of_mem_commentMarker first inMarker)
      · exact .comment fun member => sameLine (List.mem_append_left blanks member)

/-- What is cut off about the seam between a text and blanks becomes no token. -/
theorem Seam.silent_of_blanks
    {pending : List Char}
    {far : List Segment}
    (seam : Seam settings pending blanks)
    (cutFar : Tiling.cut settings (pending ++ blanks) = ⟨far, []⟩) :
    (∀ segment ∈ far, segment.Silent) ∧
      ∃ near,
        Tiling.cut settings pending = ⟨near, []⟩ ∧ ∀ segment ∈ near, segment.Silent := by
  cases seam with
  | finished atEnd =>
      subst atEnd
      have spaces : ∀ character ∈ blanks, character ∈ [' ', '\t', '\r', '\n'] :=
        fun character member => List.mem_append_left ['\n'] (allBlank character member)
      obtain ⟨later, silent, cut⟩ := (Trivia.of_spaces settings.dialect spaces).exists_cut
      obtain ⟨rfl, -⟩ := Tiling.mk.inj (cut.symm.trans cutFar)
      exact ⟨silent, [], Tiling.cut_nil settings, by simp⟩
  | stuck somePending stuck =>
      have left := congrArg Tiling.remainder ((Tiling.cut_of_stuck stuck).symm.trans cutFar)
      simp [somePending] at left
  | @crossed kind beyond after somePending someBeyond split longest =>
      subst split
      obtain ⟨inBeyond, inAfter⟩ := List.forall_mem_append.mp allBlank
      obtain rfl :=
        Segment.Form.eq_comment_of_append_blanks inBeyond longest.form somePending someBeyond
      have near := Segment.Form.comment_of_append_blanks inBeyond longest.form
      obtain rfl : after = [] := by
        rcases longest.lineEnd_of_comment with atEnd | ⟨rest, rfl⟩
        · exact atEnd
        · exact absurd (inAfter '\n' List.mem_cons_self) (by decide)
      rw [List.append_nil, Tiling.cut_of_form longest.form] at cutFar
      obtain ⟨rfl, -⟩ := Tiling.mk.inj cutFar
      exact ⟨by simp [Segment.Silent], _, Tiling.cut_of_form near, by simp [Segment.Silent]⟩

/-- Blanks at the end of a text that can be scanned change nothing. -/
theorem scan_of_append_blanks
    {tokens : List Token}
    (succeeds : scan settings vocabulary (String.ofList (text ++ blanks)) = .ok tokens) :
    scan settings vocabulary (String.ofList text) = .ok tokens := by
  obtain ⟨segments, whole, rfl⟩ := scan_eq_ok_iff.mp succeeds
  obtain ⟨agreed, pending, -, alone, both, seam⟩ := Tiling.exists_seam settings text blanks
  rw [String.toList_ofList, both] at whole
  obtain ⟨far, cutFar, rfl⟩ := Tiling.prepend_eq_iff.mp whole
  obtain ⟨silentFar, near, cutNear, silentNear⟩ := seam.silent_of_blanks allBlank cutFar
  rw [scan_eq, String.toList_ofList, alone, cutNear, Tiling.prepend, Scan.result_ofTiling_nil,
    Segment.tokensFrom_append, Segment.tokensFrom_append,
    Segment.tokensFrom_of_silent vocabulary silentNear,
    Segment.tokensFrom_of_silent vocabulary silentFar]

end Blanks

end OneLine

end PinkyLex
