import PinkyLex.Proofs.FaultPlace
import PinkyLex.Proofs.TilingAppend

namespace PinkyLex

/-!
# Scans of longer sources

More text behind a source reaches back no further than its last two tokens.  All
tokens before these stay, no fault comes up inside a source that had none, and a
fault stays as it is unless its label goes on to the end of the source.
-/

/-- The label of a string that is nowhere closed goes to the end of the text. -/
theorem FaultCause.of_unclosed
    {settings : Settings}
    {first : Char}
    {rest : List Char}
    (unclosed : Segment.Unclosed settings (first :: rest)) :
    of settings first rest = .unterminatedString (Text.byteLength (first :: rest)) := by
  obtain ⟨literals, quote, inside, shape, quoted, allInside⟩ := unclosed
  obtain ⟨rfl, rfl⟩ := List.cons.inj shape
  rw [of_quote literals quoted, List.takeWhile_eq_self_iff.mpr allInside]

namespace Seam

variable {settings : Settings} {pending more : List Char}

/-- What is pending at the seam and can be cut up whole is two segments at most. -/
theorem length_segments_le
    (seam : Seam settings pending more)
    {segments : List Segment}
    (whole : Tiling.cut settings pending = ⟨segments, []⟩) :
    segments.length ≤ 2 := by
  cases seam with
  | finished empty =>
      subst empty
      cases whole.symm.trans (Tiling.cut_nil settings)
      simp
  | stuck _ stuck =>
      cases whole.symm.trans (Tiling.cut_of_stuck stuck.of_append)
      simp
  | @crossed kind beyond after somePending someBeyond _ longest =>
      have form : Segment.Form settings kind (pending ++ beyond) := longest.form
      rcases Tiling.cut_front form somePending someBeyond with
        ⟨few, cut, bound⟩ | rfl | unclosed
      · cases whole.symm.trans cut
        exact bound
      · cases whole.symm.trans (Tiling.cut_of_stuck (Segment.stuck_equal settings))
      · cases whole.symm.trans (Tiling.cut_of_stuck unclosed.stuck)
        simp

/-- What is pending at the seam and can be cut up whole is cut off with more behind it. -/
theorem byteLength_le
    (seam : Seam settings pending more)
    {segments longer : List Segment}
    {remainder : List Char}
    (whole : Tiling.cut settings pending = ⟨segments, []⟩)
    (both : Tiling.cut settings (pending ++ more) = ⟨longer, remainder⟩) :
    Text.byteLength pending ≤ Scan.byteLength longer := by
  cases seam with
  | finished empty =>
      simp [empty]
  | stuck somePending stuck =>
      cases whole.symm.trans (Tiling.cut_of_stuck stuck.of_append)
      exact absurd rfl somePending
  | @crossed kind beyond after _ _ split longest =>
      rw [split, ← List.append_assoc, Tiling.cut_append_of_longest longest] at both
      cases both
      rw [Scan.byteLength_cons, Text.byteLength_append]
      omega

/-- A fault of what is pending at the seam stays, or else it is about all of it. -/
theorem stuck_or_label
    (seam : Seam settings pending more)
    {segments : List Segment}
    {first : Char}
    {rest : List Char}
    (stops : Tiling.cut settings pending = ⟨segments, first :: rest⟩) :
    Segment.Stuck settings (pending ++ more) ∨
      segments = [] ∧
        pending = first :: rest ∧
        (FaultCause.of settings first rest).labelLength = Text.byteLength pending ∧
        ∀ character, FaultCause.of settings first rest ≠ .unrecognizedCharacter character := by
  cases seam with
  | finished empty =>
      subst empty
      cases stops.symm.trans (Tiling.cut_nil settings)
  | stuck _ stuck =>
      exact .inl stuck
  | @crossed kind beyond after somePending someBeyond _ longest =>
      right
      have form : Segment.Form settings kind (pending ++ beyond) := longest.form
      rcases Tiling.cut_front form somePending someBeyond with
        ⟨few, cut, -⟩ | rfl | unclosed
      · cases stops.symm.trans cut
      · cases stops.symm.trans (Tiling.cut_of_stuck (Segment.stuck_equal settings))
        exact ⟨rfl, rfl, rfl, fun _ => nofun⟩
      · cases stops.symm.trans (Tiling.cut_of_stuck unclosed.stuck)
        rw [FaultCause.of_unclosed unclosed]
        exact ⟨rfl, rfl, rfl, fun _ => nofun⟩

end Seam

/--
A fault that more text cannot change: it is about one character that starts nothing,
or its label stops before the end of the source.
-/
def Fault.Settled (source : String) (fault : Fault) : Prop :=
  (∃ character, fault.cause = .unrecognizedCharacter character) ∨
    fault.offset + fault.cause.labelLength < source.utf8ByteSize

/-- More text behind a label that stops before the end of the source leaves its cause as it is. -/
theorem FaultCause.of_append_of_labelLength_lt
    {settings : Settings}
    {first : Char}
    {rest : List Char}
    (stops :
      (∃ character, of settings first rest = .unrecognizedCharacter character) ∨
        (of settings first rest).labelLength < Text.byteLength (first :: rest))
    (more : List Char) :
    of settings first (rest ++ more) = of settings first rest := by
  apply of_append
  intro literals quoted
  rw [of_quote literals quoted] at stops
  have notAll :
      (rest.takeWhile (Segment.insideString settings first)).length ≠ rest.length := by
    intro all
    rw [(List.takeWhile_prefix _).eq_of_length all] at stops
    rcases stops with ⟨_, impossible⟩ | shorter
    · cases impossible
    · exact Nat.lt_irrefl _ shorter
  rw [List.takeWhile_append, if_neg notAll]

section Extension

variable {settings : Settings} {vocabulary : Vocabulary} {source more : String}

/-- All tokens but the last two of a source stay when more text follows it. -/
theorem take_tokens_append
    {tokens longer : List Token}
    (alone : scan settings vocabulary source = .ok tokens)
    (both : scan settings vocabulary (source ++ more) = .ok longer) :
    tokens.take (tokens.length - 2) <+: longer := by
  obtain ⟨segments, cutAlone, rfl⟩ := scan_eq_ok_iff.mp alone
  obtain ⟨others, cutBoth, rfl⟩ := scan_eq_ok_iff.mp both
  rw [String.toList_append] at cutBoth
  obtain ⟨agreed, pending, -, near, far, seam⟩ :=
    Tiling.exists_seam settings source.toList more.toList
  obtain ⟨last, whole, rfl⟩ := Tiling.prepend_eq_iff.mp (near.symm.trans cutAlone)
  obtain ⟨later, -, rfl⟩ := Tiling.prepend_eq_iff.mp (far.symm.trans cutBoth)
  have few := seam.length_segments_le whole
  simp only [Segment.tokensFrom_append, List.length_append]
  have fewTokens :=
    Segment.length_tokensFrom_le vocabulary (1 + Segment.totalLineEnds agreed) last
  rw [List.take_append_of_le_length (by omega)]
  exact (List.take_prefix _ _).trans (List.prefix_append _ _)

/-- More text behind a source brings up no fault inside it. -/
theorem utf8ByteSize_le_offset_append
    {tokens : List Token}
    {fault : Fault}
    (alone : scan settings vocabulary source = .ok tokens)
    (both : scan settings vocabulary (source ++ more) = .error fault) :
    source.utf8ByteSize ≤ fault.offset := by
  obtain ⟨segments, cutAlone, -⟩ := scan_eq_ok_iff.mp alone
  obtain ⟨others, first, rest, cutBoth, rfl⟩ := scan_eq_error_iff.mp both
  rw [String.toList_append] at cutBoth
  obtain ⟨agreed, pending, split, near, far, seam⟩ :=
    Tiling.exists_seam settings source.toList more.toList
  obtain ⟨last, whole, rfl⟩ := Tiling.prepend_eq_iff.mp (near.symm.trans cutAlone)
  obtain ⟨later, stops, rfl⟩ := Tiling.prepend_eq_iff.mp (far.symm.trans cutBoth)
  calc
    source.utf8ByteSize = Scan.byteLength agreed + Text.byteLength pending :=
      Scan.utf8ByteSize_eq split
    _ ≤ Scan.byteLength agreed + Scan.byteLength later :=
      Nat.add_le_add_left (seam.byteLength_le whole stops) _
    _ = Scan.byteLength (agreed ++ later) :=
      (Scan.byteLength_append agreed later).symm

/-- A settled fault of a source is the fault of every longer source. -/
theorem scan_append_of_settled
    {fault : Fault}
    (alone : scan settings vocabulary source = .error fault)
    (settled : fault.Settled source) :
    scan settings vocabulary (source ++ more) = .error fault := by
  obtain ⟨segments, first, rest, cutAlone, rfl⟩ := scan_eq_error_iff.mp alone
  obtain ⟨agreed, pending, split, near, far, seam⟩ :=
    Tiling.exists_seam settings source.toList more.toList
  obtain ⟨later, stops, rfl⟩ := Tiling.prepend_eq_iff.mp (near.symm.trans cutAlone)
  have size := Scan.utf8ByteSize_eq split
  rcases seam.stuck_or_label stops with stuck | ⟨rfl, rfl, toEnd, notCharacter⟩
  · cases stops.symm.trans (Tiling.cut_of_stuck stuck.of_append)
    rw [List.append_nil] at settled ⊢
    rw [scan_eq_error_iff]
    refine ⟨agreed, first, rest ++ more.toList, ?_, ?_⟩
    · rw [String.toList_append, far, Tiling.cut_of_stuck stuck]
      simp [Tiling.prepend]
    · rw [FaultCause.of_append_of_labelLength_lt]
      apply settled.imp_right
      intro shorter
      simp only at shorter
      omega
  · rcases settled with ⟨character, isCharacter⟩ | shorter
    · exact absurd isCharacter (notCharacter character)
    · simp only [List.append_nil, toEnd, size] at shorter
      exact absurd shorter (Nat.lt_irrefl _)

end Extension

/--
More text behind a source leaves all but its last two tokens, brings up no fault
inside it, and does not change a settled fault.
-/
theorem scan_append_stable
    (settings : Settings)
    (vocabulary : Vocabulary)
    (source more : String) :
    (∀ tokens longer,
      scan settings vocabulary source = .ok tokens →
      scan settings vocabulary (source ++ more) = .ok longer →
      tokens.take (tokens.length - 2) <+: longer) ∧
    (∀ tokens fault,
      scan settings vocabulary source = .ok tokens →
      scan settings vocabulary (source ++ more) = .error fault →
      source.utf8ByteSize ≤ fault.offset) ∧
    (∀ fault,
      scan settings vocabulary source = .error fault →
      fault.Settled source →
      scan settings vocabulary (source ++ more) = .error fault) :=
  ⟨fun _ _ => take_tokens_append,
    fun _ _ => utf8ByteSize_le_offset_append,
    fun _ => scan_append_of_settled⟩

/-- Two tokens become one float, a fault comes up behind, and an open string stays open. -/
theorem scan_append_stable_at_seams :
    [⟨.operator .leftParen, "(", 1⟩] <+:
        ([⟨.operator .leftParen, "(", 1⟩, ⟨.float, "1.5", 1⟩] : List Token) ∧
      scan {} .pinky ("-" ++ "'") = .error ⟨.unterminatedString 1, 1, 1, {}⟩ ∧
      "-".utf8ByteSize ≤ 1 ∧
      scan { multilineStrings := false } .pinky ("'a\n" ++ "'") =
        .error ⟨.unterminatedString 2, 1, 0, {}⟩ := by
  have point : scan {} .pinky "(1." =
      .ok [⟨.operator .leftParen, "(", 1⟩, ⟨.integer, "1", 1⟩, ⟨.operator .dot, ".", 1⟩] := by
    decide +kernel
  have float : scan {} .pinky ("(1." ++ "5") =
      .ok [⟨.operator .leftParen, "(", 1⟩, ⟨.float, "1.5", 1⟩] := by
    decide +kernel
  have minus : scan {} .pinky "-" = .ok [⟨.operator .minus, "-", 1⟩] := by
    decide +kernel
  have quote : scan {} .pinky ("-" ++ "'") = .error ⟨.unterminatedString 1, 1, 1, {}⟩ := by
    decide +kernel
  have openString : scan { multilineStrings := false } .pinky "'a\n" =
      .error ⟨.unterminatedString 2, 1, 0, {}⟩ := by
    decide +kernel
  have settled : Fault.Settled "'a\n" ⟨.unterminatedString 2, 1, 0, {}⟩ :=
    .inr (by decide)
  refine ⟨?_, quote, ?_, ?_⟩
  · exact (scan_append_stable {} .pinky "(1." "5").1 _ _ point float
  · exact (scan_append_stable {} .pinky "-" "'").2.1 _ _ minus quote
  · exact (scan_append_stable { multilineStrings := false } .pinky "'a\n" "'").2.2 _
      openString settled

end PinkyLex
