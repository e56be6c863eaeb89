import PinkyLex.Proofs.SegmentForm
import PinkyLex.Segment.Tiling

namespace PinkyLex

/-!
# Tilings by longest segments

A text is tiled if it is put together from segments each of which is the longest
one at its place, and a remainder.  The place before the remainder is stuck if no
segment starts there.  There is only one tiling that ends at a stuck place, and
`Tiling.cut` finds it.
-/

namespace Segment

/-- A segment stands at the start of a text, and no longer one does. -/
structure Longest (settings : Settings) (segment : Segment) (text : List Char) : Prop where
  form : Form settings segment.kind segment.text
  starts : segment.text <+: text
  greatest :
    ∀ {kind other},
      Form settings kind other →
      other <+: text →
      other.length ≤ segment.text.length

/-- No segment stands at the start of a text. -/
def Stuck (settings : Settings) (text : List Char) : Prop :=
  ∀ kind other,
    Form settings kind other →
    ¬ other <+: text

theorem Form.ne_nil
    {settings : Settings}
    {kind : SegmentKind}
    {text : List Char}
    (form : Form settings kind text) :
    text ≠ [] := by
  cases form with
  | comment =>
      cases dialect : settings.dialect <;> simp [Dialect.commentMarker]
  | operator symbol =>
      cases symbol <;> decide
  | integer _ digits =>
      exact digits.nonempty
  | lineEnd | blank | float | string | word =>
      simp

/-- The first character of a segment, and what of a text follows it. -/
theorem Form.exists_cons
    {settings : Settings}
    {kind : SegmentKind}
    {text : List Char}
    {first : Char}
    {rest : List Char}
    (form : Form settings kind text)
    (starts : text <+: first :: rest) :
    ∃ body tail, text = first :: body ∧ rest = body ++ tail := by
  obtain ⟨tail, whole⟩ := starts
  obtain ⟨head, body, rfl⟩ := List.exists_cons_of_ne_nil form.ne_nil
  obtain ⟨rfl, rfl⟩ := List.cons.inj whole
  exact ⟨body, tail, rfl, rfl⟩

theorem stuck_nil (settings : Settings) :
    Stuck settings [] := by
  intro kind other form starts
  exact form.ne_nil (List.prefix_nil.mp starts)

variable {settings : Settings} {segment : Segment} {first : Char} {rest : List Char}

/-- What is taken from a text is the longest segment at its start. -/
theorem longest_of_reach?
    {kind : SegmentKind}
    {count : Nat}
    (reached : reach? settings first rest = some (kind, count)) :
    Longest settings ⟨kind, first :: rest.take count⟩ (first :: rest) where
  form :=
    (form_of_reach? reached).2
  starts :=
    List.prefix_cons_inj first |>.mpr (List.take_prefix count rest)
  greatest := by
    intro kind other form starts
    obtain ⟨body, tail, rfl, rfl⟩ := form.exists_cons starts
    obtain ⟨found, length, taken, bound, -⟩ := takesAtLeast_of_form form tail
    cases reached.symm.trans taken
    simp only [List.length_cons, List.length_take, List.length_append]
    omega

/-- The longest segment at the start of a text is the one that is taken. -/
theorem Longest.exists_reach?
    (longest : Longest settings segment (first :: rest)) :
    ∃ body tail,
      segment.text = first :: body ∧
        rest = body ++ tail ∧
        reach? settings first rest = some (segment.kind, body.length) := by
  obtain ⟨body, tail, shape, rfl⟩ := longest.form.exists_cons longest.starts
  have form := longest.form
  rw [shape] at form
  obtain ⟨found, count, taken, bound, sameKind⟩ := takesAtLeast_of_form form tail
  have other := longest_of_reach? taken
  have notLonger := longest.greatest other.form other.starts
  have inText := (form_of_reach? taken).1
  have sameLength : count = body.length := by
    simp only [shape, List.length_cons, List.length_take, List.length_append] at notLonger inText
    omega
  rw [sameKind sameLength, sameLength] at taken
  exact ⟨body, tail, shape, rfl, taken⟩

/-- A segment is the longest one at its place just where it is the one that is taken. -/
theorem longest_iff_reach?
    {kind : SegmentKind}
    {body tail : List Char} :
    Longest settings ⟨kind, first :: body⟩ (first :: (body ++ tail)) ↔
      reach? settings first (body ++ tail) = some (kind, body.length) := by
  constructor
  · intro longest
    obtain ⟨taken, after, shape, -, reached⟩ := longest.exists_reach?
    obtain ⟨-, rfl⟩ := List.cons.inj shape
    exact reached
  · intro reached
    simpa using longest_of_reach? reached

/-- Nothing is taken from a text just where no segment starts. -/
theorem stuck_iff :
    Stuck settings (first :: rest) ↔ reach? settings first rest = none := by
  constructor
  · intro stuck
    cases reached : reach? settings first rest with
    | none =>
        rfl
    | some taken =>
        have longest := longest_of_reach? reached
        exact absurd longest.starts (stuck _ _ longest.form)
  · intro nothing kind other form starts
    obtain ⟨body, tail, rfl, rfl⟩ := form.exists_cons starts
    obtain ⟨found, count, taken, -⟩ := takesAtLeast_of_form form tail
    simp [nothing] at taken

/-- A text that is not stuck starts with its longest segment. -/
theorem exists_longest
    {text : List Char}
    (notStuck : ¬ Stuck settings text) :
    ∃ segment rest,
      text = segment.text ++ rest ∧ Longest settings segment (segment.text ++ rest) := by
  cases text with
  | nil =>
      exact absurd (stuck_nil settings) notStuck
  | cons first rest =>
      cases reached : reach? settings first rest with
      | none =>
          exact absurd (stuck_iff.mpr reached) notStuck
      | some taken =>
          have longest := longest_of_reach? reached
          refine ⟨⟨taken.1, first :: rest.take taken.2⟩, rest.drop taken.2, ?_, ?_⟩
          · simp
          · simpa using longest

/-- Every text is stuck or starts with its longest segment, after which less text is left. -/
@[elab_as_elim]
theorem longest_induction
    (settings : Settings)
    {motive : List Char → Prop}
    (stuck : ∀ text, Stuck settings text → motive text)
    (append :
      ∀ segment rest,
        Longest settings segment (segment.text ++ rest) →
        motive rest →
        motive (segment.text ++ rest))
    (text : List Char) :
    motive text := by
  induction size : text.length using Nat.strongRecOn generalizing text with
  | ind length inductionHypothesis =>
      by_cases isStuck : Stuck settings text
      · exact stuck text isStuck
      · obtain ⟨segment, rest, rfl, longest⟩ := exists_longest isStuck
        have positive := List.length_pos_iff.mpr longest.form.ne_nil
        have shorter : rest.length < length := by
          rw [← size, List.length_append]
          omega
        exact append segment rest longest (inductionHypothesis _ shorter rest rfl)

end Segment

/--
A text is put together from segments, each the longest one at its place, and a
remainder.
-/
inductive Tiled (settings : Settings) : List Char → List Segment → List Char → Prop where
  | nil (remainder : List Char) :
      Tiled settings remainder [] remainder
  | cons
      {segment : Segment}
      {rest remainder : List Char}
      {segments : List Segment} :
      Segment.Longest settings segment (segment.text ++ rest) →
      Tiled settings rest segments remainder →
      Tiled settings (segment.text ++ rest) (segment :: segments) remainder

namespace Tiling

/-- Put some segments in front of a tiling. -/
def prepend (segments : List Segment) (tiling : Tiling) : Tiling :=
  { tiling with segments := segments ++ tiling.segments }

theorem prepend_eq_iff
    {front segments : List Segment}
    {remainder : List Char}
    {tiling : Tiling} :
    tiling.prepend front = ⟨segments, remainder⟩ ↔
      ∃ later, tiling = ⟨later, remainder⟩ ∧ segments = front ++ later := by
  obtain ⟨later, after⟩ := tiling
  simp only [prepend, Tiling.mk.injEq]
  constructor
  · rintro ⟨rfl, rfl⟩
    exact ⟨later, ⟨rfl, rfl⟩, rfl⟩
  · rintro ⟨_, ⟨rfl, rfl⟩, rfl⟩
    exact ⟨rfl, rfl⟩

theorem cut_of_stuck
    {settings : Settings}
    {text : List Char}
    (stuck : Segment.Stuck settings text) :
    cut settings text = ⟨[], text⟩ := by
  cases text with
  | nil =>
      exact cut_nil settings
  | cons first rest =>
      exact cut_cons_of_none (Segment.stuck_iff.mp stuck)

/-- The longest segment is cut off and the text after it is cut in turn. -/
theorem cut_append_of_longest
    {settings : Settings}
    {segment : Segment}
    {rest : List Char}
    (longest : Segment.Longest settings segment (segment.text ++ rest)) :
    cut settings (segment.text ++ rest) = (cut settings rest).cons segment := by
  obtain ⟨kind, text⟩ := segment
  obtain ⟨first, body, rfl⟩ := List.exists_cons_of_ne_nil longest.form.ne_nil
  obtain ⟨body, tail, shape, split, reached⟩ := longest.exists_reach?
  obtain ⟨-, rfl⟩ := List.cons.inj shape
  obtain rfl := List.append_cancel_left split
  simpa using cut_cons_of_some reached

/-- What is cut is a tiling that ends where it is stuck. -/
theorem tiled_cut
    (settings : Settings)
    (text : List Char) :
    Tiled settings text (cut settings text).segments (cut settings text).remainder ∧
      Segment.Stuck settings (cut settings text).remainder := by
  induction text using Segment.longest_induction settings with
  | stuck text stuck =>
      rw [cut_of_stuck stuck]
      exact ⟨.nil text, stuck⟩
  | append segment rest longest inductionHypothesis =>
      rw [cut_append_of_longest longest]
      exact ⟨.cons longest inductionHypothesis.1, inductionHypothesis.2⟩

end Tiling

namespace Tiled

variable {settings : Settings} {text remainder : List Char} {segments : List Segment}

/-- Cutting goes through the segments of a tiling and on from its remainder. -/
theorem cut_eq
    (tiled : Tiled settings text segments remainder) :
    Tiling.cut settings text = (Tiling.cut settings remainder).prepend segments := by
  induction tiled with
  | nil remainder =>
      rfl
  | cons longest later inductionHypothesis =>
      rw [Tiling.cut_append_of_longest longest, inductionHypothesis]
      rfl

/-- There is one tiling that ends where it is stuck. -/
theorem iff_cut :
    Tiled settings text segments remainder ∧ Segment.Stuck settings remainder ↔
      Tiling.cut settings text = ⟨segments, remainder⟩ := by
  constructor
  · rintro ⟨tiled, stuck⟩
    rw [tiled.cut_eq, Tiling.cut_of_stuck stuck]
    simp [Tiling.prepend]
  · intro cut
    simpa [cut] using Tiling.tiled_cut settings text

/-- Segments and remainder put together are the text. -/
theorem flatten_append
    (tiled : Tiled settings text segments remainder) :
    (segments.map Segment.text).flatten ++ remainder = text := by
  induction tiled with
  | nil remainder =>
      rfl
  | cons longest later inductionHypothesis =>
      simp [← inductionHypothesis]

/-- A tiling goes on with one of its remainder. -/
theorem append
    {rest : List Char}
    {later : List Segment}
    (tiled : Tiled settings text segments remainder)
    (onward : Tiled settings remainder later rest) :
    Tiled settings text (segments ++ later) rest := by
  induction tiled with
  | nil remainder =>
      exact onward
  | cons longest _ inductionHypothesis =>
      exact .cons longest (inductionHypothesis onward)

end Tiled

end PinkyLex
