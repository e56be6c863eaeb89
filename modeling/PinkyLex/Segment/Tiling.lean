import PinkyLex.Segment.Basic

namespace PinkyLex

/-!
# Tilings

A tiling cuts a text into segments from the left, the longest one at every
place, until the text ends or no segment starts.  Its segments and its remainder
put together are the text.
-/

/-- The segments cut off a text, and what was left where no segment starts. -/
structure Tiling where
  segments : List Segment
  remainder : List Char
  deriving Repr, DecidableEq

namespace Tiling

/-- Put a segment in front of a tiling. -/
def cons (segment : Segment) (tiling : Tiling) : Tiling :=
  { tiling with segments := segment :: tiling.segments }

/-- Cut a text, given the segments already cut off, the latest one first. -/
def cutOnto (settings : Settings) (found : List Segment) : List Char → Tiling
  | [] =>
      ⟨found.reverse, []⟩
  | first :: rest =>
      match Segment.reach? settings first rest with
      | none =>
          ⟨found.reverse, first :: rest⟩
      | some (kind, count) =>
          cutOnto settings (⟨kind, first :: rest.take count⟩ :: found) (rest.drop count)
termination_by text => text.length
decreasing_by
  simp only [List.length_drop, List.length_cons]
  omega

/-- Cut a text into segments, the longest one at every place. -/
def cut (settings : Settings) (text : List Char) : Tiling :=
  cutOnto settings [] text

/-- Segments found earlier stand in front of what is cut later. -/
theorem cutOnto_eq
    (settings : Settings)
    (found : List Segment)
    (text : List Char) :
    cutOnto settings found text =
      ⟨found.reverse ++ (cut settings text).segments, (cut settings text).remainder⟩ := by
  unfold cut
  induction size : text.length using Nat.strongRecOn generalizing found text with
  | ind length inductionHypothesis =>
      cases text with
      | nil =>
          simp [cutOnto]
      | cons first rest =>
          unfold cutOnto
          cases reached : Segment.reach? settings first rest with
          | none =>
              simp
          | some reach =>
              have shorter : (rest.drop reach.2).length < length := by
                simp only [List.length_drop, ← size, List.length_cons]
                omega
              simp only
              rw [inductionHypothesis _ shorter _ _ rfl,
                inductionHypothesis _ shorter [_] _ rfl]
              simp

@[simp] theorem cut_nil (settings : Settings) :
    cut settings [] = ⟨[], []⟩ := by
  simp [cut, cutOnto]

/-- A text that no segment starts is left as it is. -/
theorem cut_cons_of_none
    {settings : Settings}
    {first : Char}
    {rest : List Char}
    (stuck : Segment.reach? settings first rest = none) :
    cut settings (first :: rest) = ⟨[], first :: rest⟩ := by
  simp [cut, cutOnto, stuck]

/-- A segment is cut off and the text after it is cut in turn. -/
theorem cut_cons_of_some
    {settings : Settings}
    {first : Char}
    {rest : List Char}
    {kind : SegmentKind}
    {count : Nat}
    (reached : Segment.reach? settings first rest = some (kind, count)) :
    cut settings (first :: rest) =
      (cut settings (rest.drop count)).cons ⟨kind, first :: rest.take count⟩ := by
  rw [cut, cutOnto, reached]
  simp [cutOnto_eq, cons]

/-- Segments and remainder put together are the text. -/
theorem flatten_cut
    (settings : Settings)
    (text : List Char) :
    ((cut settings text).segments.map Segment.text).flatten ++ (cut settings text).remainder =
      text := by
  induction size : text.length using Nat.strongRecOn generalizing text with
  | ind length inductionHypothesis =>
      cases text with
      | nil =>
          simp
      | cons first rest =>
          cases reached : Segment.reach? settings first rest with
          | none =>
              simp [cut_cons_of_none reached]
          | some reach =>
              have shorter : (rest.drop reach.2).length < length := by
                simp only [List.length_drop, ← size, List.length_cons]
                omega
              rw [cut_cons_of_some reached]
              simp only [cons, List.map_cons, List.flatten_cons, List.cons_append,
                List.append_assoc]
              rw [inductionHypothesis _ shorter _ rfl, List.take_append_drop]

end Tiling

end PinkyLex
