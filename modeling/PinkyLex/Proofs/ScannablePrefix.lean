import PinkyLex.Proofs.ScanTiling
import PinkyLex.Proofs.TilingAppend

namespace PinkyLex

/-!
# Scannable prefixes

What stands before the fault of a source can be scanned, and gives the tokens
found before the fault.  No longer prefix of the source can be scanned: each one
has its fault at the same place.
-/

/-- A tiling stays when the remainder loses its end. -/
theorem Tiled.of_append
    {settings : Settings}
    {near far : List Char}
    {segments : List Segment}
    {text remainder : List Char}
    (tiled : Tiled settings text segments remainder)
    (split : remainder = near ++ far) :
    Tiled settings ((segments.map Segment.text).flatten ++ near) segments near := by
  induction tiled with
  | nil remainder =>
      exact .nil near
  | @cons segment rest remainder segments longest later inductionHypothesis =>
      have restSplit : rest = (segments.map Segment.text).flatten ++ near ++ far := by
        rw [← later.flatten_append, split, List.append_assoc]
      rw [restSplit, ← List.append_assoc] at longest
      rw [List.map_cons, List.flatten_cons, List.append_assoc]
      exact .cons (longest.of_append (by simp)) (inductionHypothesis split)

/-- A prefix of a tiled text ends in the tiles or goes on into the remainder. -/
theorem Tiled.prefix_cases
    {settings : Settings}
    {segments : List Segment}
    {text remainder front back : List Char}
    (tiled : Tiled settings text segments remainder)
    (split : text = front ++ back) :
    Text.byteLength front ≤ Scan.byteLength segments ∨
      ∃ near,
        front = (segments.map Segment.text).flatten ++ near ∧
          near ≠ [] ∧
          remainder = near ++ back := by
  rw [Scan.byteLength_eq]
  rw [← tiled.flatten_append] at split
  rcases List.append_eq_append_iff.mp split with
    ⟨near, rfl, inRemainder⟩ | ⟨later, tiles, -⟩
  · by_cases empty : near = []
    · left
      simp [empty]
    · exact .inr ⟨near, rfl, empty, inRemainder⟩
  · left
    rw [tiles, Text.byteLength_append]
    exact Nat.le_add_right _ _

section Prefixes

variable {settings : Settings} {vocabulary : Vocabulary} {source : String} {fault : Fault}

/-- What stands before a fault can be scanned, and its tokens are those found before the fault. -/
theorem exists_scan_front
    (failed : scan settings vocabulary source = .error fault) :
    ∃ front back,
      front ++ back = source ∧
        front.utf8ByteSize = fault.offset ∧
        scan settings vocabulary front =
          .ok (Scan.ofSource settings vocabulary source).tokens := by
  obtain ⟨segments, first, rest, cut, rfl⟩ := scan_eq_error_iff.mp failed
  obtain ⟨tiled, -⟩ := Tiled.iff_cut.mpr cut
  refine ⟨String.ofList (segments.map Segment.text).flatten, String.ofList (first :: rest),
    ?_, ?_, ?_⟩
  · rw [← String.ofList_append, tiled.flatten_append, String.ofList_toList]
  · rw [Text.utf8ByteSize_ofList, Scan.byteLength_eq]
  · have front : Tiled settings (segments.map Segment.text).flatten segments [] := by
      simpa using tiled.of_append (List.nil_append (first :: rest)).symm
    rw [scan_eq_ok_iff, String.toList_ofList, Scan.tokens_ofSource, cut]
    exact ⟨segments, Tiled.iff_cut.mp ⟨front, Segment.stuck_nil settings⟩, rfl⟩

/-- A prefix that goes on past the place of a fault has a fault at this place. -/
theorem exists_fault_of_offset_lt
    (failed : scan settings vocabulary source = .error fault)
    {front back : String}
    (split : front ++ back = source)
    (past : fault.offset < front.utf8ByteSize) :
    ∃ earlier,
      scan settings vocabulary front = .error earlier ∧
        earlier.offset = fault.offset ∧
        earlier.line = fault.line := by
  obtain ⟨segments, first, rest, cut, rfl⟩ := scan_eq_error_iff.mp failed
  obtain ⟨tiled, stuck⟩ := Tiled.iff_cut.mpr cut
  have text : source.toList = front.toList ++ back.toList := by
    rw [← split, String.toList_append]
  rcases tiled.prefix_cases text with before | ⟨near, frontText, notEmpty, inRemainder⟩
  · rw [Text.byteLength_toList] at before
    exact absurd past (Nat.not_lt.mpr before)
  · have stuckNear : Segment.Stuck settings near := by
      rw [inRemainder] at stuck
      exact stuck.of_append
    have frontCut : Tiling.cut settings front.toList = ⟨segments, near⟩ := by
      rw [frontText]
      exact Tiled.iff_cut.mp ⟨tiled.of_append inRemainder, stuckNear⟩
    obtain ⟨head, tail, rfl⟩ := List.exists_cons_of_ne_nil notEmpty
    exact ⟨_, scan_eq_error_iff.mpr ⟨segments, head, tail, frontCut, rfl⟩, rfl, rfl⟩

end Prefixes

/--
The offset of a fault is the length of the longest prefix of the source that can
be scanned.  This prefix gives the tokens found before the fault; every longer
one has a fault at the same place.
-/
theorem scan_error_longest_scannable
    {settings : Settings}
    {vocabulary : Vocabulary}
    {source : String}
    {fault : Fault}
    (failed : scan settings vocabulary source = .error fault) :
    (∃ front back,
      front ++ back = source ∧
        front.utf8ByteSize = fault.offset ∧
        scan settings vocabulary front =
          .ok (Scan.ofSource settings vocabulary source).tokens) ∧
    ∀ front back,
      front ++ back = source →
      fault.offset < front.utf8ByteSize →
      ∃ earlier,
        scan settings vocabulary front = .error earlier ∧
          earlier.offset = fault.offset ∧
          earlier.line = fault.line :=
  ⟨exists_scan_front failed, fun _ _ => exists_fault_of_offset_lt failed⟩

/-- A source cut inside a string that is left open on its line has the same place of its fault. -/
theorem scan_error_longest_scannable_open_string :
    scan { multilineStrings := false } .pinky "é 'b\n'" =
        .error ⟨.unterminatedString 2, 1, 3, {}⟩ ∧
      (∃ front back,
        front ++ back = "é 'b\n'" ∧
          front.utf8ByteSize = 3 ∧
          scan { multilineStrings := false } .pinky front =
            .ok (Scan.ofSource { multilineStrings := false } .pinky "é 'b\n'").tokens) ∧
      ∃ earlier,
        scan { multilineStrings := false } .pinky "é '" = .error earlier ∧
          earlier.offset = 3 ∧
          earlier.line = 1 := by
  have failed : scan { multilineStrings := false } .pinky "é 'b\n'" =
      .error ⟨.unterminatedString 2, 1, 3, {}⟩ := by
    decide +kernel
  obtain ⟨scannable, longer⟩ := scan_error_longest_scannable failed
  exact ⟨failed, scannable, longer "é '" "b\n'" (by decide) (by decide)⟩

end PinkyLex
