import PinkyLex.Proofs.SegmentEnd

namespace PinkyLex

/-!
# Tilings of a text with more behind it

The tilings of a text and of the same text with more behind it agree up to a seam.
There the text is at its end, or it is stuck in both, or a segment goes across its
end.  What such a segment has on the near side is little: at most two segments, or
nothing that can be cut off at all.
-/

namespace Segment

variable {settings : Settings} {segment : Segment} {text more : List Char}

theorem Longest.of_append
    (longest : Longest settings segment (text ++ more))
    (fits : segment.text.length ≤ text.length) :
    Longest settings segment text where
  form :=
    longest.form
  starts :=
    List.prefix_of_prefix_length_le longest.starts (List.prefix_append text more) fits
  greatest form starts :=
    longest.greatest form (starts.trans (List.prefix_append text more))

theorem Stuck.of_append
    (stuck : Stuck settings (text ++ more)) :
    Stuck settings text := by
  intro kind other form starts
  exact stuck kind other form (starts.trans (List.prefix_append text more))

/-- A whole segment is the longest one at its own start. -/
theorem Form.longest
    {kind : SegmentKind}
    (form : Form settings kind text) :
    Longest settings ⟨kind, text⟩ text where
  form :=
    form
  starts :=
    List.prefix_rfl
  greatest _ starts :=
    starts.length_le

/-- A text that is a string as far as it goes, but without the quote that ends it. -/
def Unclosed (settings : Settings) (text : List Char) : Prop :=
  settings.dialect = .pinky ∧
    ∃ quote inside,
      text = quote :: inside ∧
        quote ∈ ['"', '\''] ∧
        ∀ character ∈ inside, insideString settings quote character = true

theorem Unclosed.stuck
    (unclosed : Unclosed settings text) :
    Stuck settings text := by
  obtain ⟨literals, quote, inside, rfl, quoted, allInside⟩ := unclosed
  have noEnd : inside.dropWhile (insideString settings quote) = [] :=
    List.dropWhile_eq_nil_iff.mpr allInside
  rw [stuck_iff, reach?_of_isQuote literals (isQuote_iff.mpr quoted), stringReach?, noEnd]
  rfl

theorem stuck_equal (settings : Settings) :
    Stuck settings ['='] := by
  obtain ⟨dialect, multiline⟩ := settings
  rw [stuck_iff]
  cases dialect <;> rfl

/-- What a string starts with, short of its end, is unclosed. -/
theorem Form.unclosed
    {front back : List Char}
    (form : Form settings .string (front ++ back))
    (someFront : front ≠ [])
    (someBack : back ≠ []) :
    Unclosed settings front := by
  generalize whole : front ++ back = text at form
  cases form with
  | @string quote body literals quoted notInside sameLine =>
      obtain ⟨first, inside, rfl⟩ := List.exists_cons_of_ne_nil someFront
      rw [List.cons_append, List.cons.injEq] at whole
      obtain ⟨rfl, whole⟩ := whole
      obtain ⟨later, last, rfl⟩ := (List.eq_nil_or_concat back).resolve_left someBack
      rw [List.concat_eq_append, ← List.append_assoc] at whole
      obtain ⟨rfl, -⟩ := List.append_inj' whole rfl
      rw [List.mem_append, not_or] at notInside
      refine ⟨literals, first, inside, rfl, quoted, insideString_of_not_mem notInside.1 ?_⟩
      intro singleLine member
      exact sameLine singleLine (List.mem_append_left later member)

/-- An integer ends before a point that no digit follows. -/
theorem Digits.longest
    (literals : settings.dialect = .pinky)
    (digits : Digits text) :
    Longest settings ⟨.integer, text⟩ (text ++ ['.']) := by
  apply longest_integer_of_not_runsOn _ literals digits
  intro runsOn
  cases runsOn with
  | word _ goesOn =>
      exact absurd goesOn (by decide)
  | number _ digit =>
      exact absurd digit (by decide)

end Segment

/-- How a text goes on into what stands behind it, when all before has been cut off. -/
inductive Seam (settings : Settings) (pending more : List Char) : Prop where
  | finished :
      pending = [] →
      Seam settings pending more
  | stuck :
      pending ≠ [] →
      Segment.Stuck settings (pending ++ more) →
      Seam settings pending more
  | crossed {kind : SegmentKind} {beyond after : List Char} :
      pending ≠ [] →
      beyond ≠ [] →
      more = beyond ++ after →
      Segment.Longest settings ⟨kind, pending ++ beyond⟩ (pending ++ beyond ++ after) →
      Seam settings pending more

namespace Tiling

theorem cut_of_form
    {settings : Settings}
    {kind : SegmentKind}
    {text : List Char}
    (form : Segment.Form settings kind text) :
    cut settings text = ⟨[⟨kind, text⟩], []⟩ := by
  have longest : Segment.Longest settings ⟨kind, text⟩ (text ++ []) := by
    simpa using form.longest
  simpa [cons] using cut_append_of_longest longest

/-- What a float starts with is cut into an integer and a point at most. -/
theorem cut_front_of_float
    {settings : Settings}
    {whole fraction front back : List Char}
    (literals : settings.dialect = .pinky)
    (wholeDigits : Segment.Digits whole)
    (fractionDigits : Segment.Digits fraction)
    (someFront : front ≠ [])
    (split : front ++ back = whole ++ '.' :: fraction) :
    ∃ segments, cut settings front = ⟨segments, []⟩ ∧ segments.length ≤ 2 := by
  rcases List.append_eq_append_iff.mp split with
    ⟨later, rfl, -⟩ | ⟨later, rfl, afterWhole⟩
  · have digits : Segment.Digits front :=
      ⟨someFront, fun _ member => wholeDigits.allDigits _ (List.mem_append_left later member)⟩
    exact ⟨_, cut_of_form (.integer literals digits), by simp⟩
  · cases later with
    | nil =>
        rw [List.append_nil]
        exact ⟨_, cut_of_form (.integer literals wholeDigits), by simp⟩
    | cons point digits =>
        rw [List.cons_append, List.cons.injEq] at afterWhole
        obtain ⟨rfl, rfl⟩ := afterWhole
        by_cases empty : digits = []
        · subst empty
          have point : cut settings ['.'] = _ := cut_of_form (.operator .dot)
          refine ⟨_, (cut_append_of_longest (wholeDigits.longest literals)).trans
            (congrArg (cons _) point), by simp⟩
        · have someDigits : Segment.Digits digits :=
            ⟨empty, fun _ member => fractionDigits.allDigits _ (List.mem_append_left back member)⟩
          exact ⟨_, cut_of_form (.float literals wholeDigits someDigits), by simp⟩

/-- What a comment starts with is a comment or, of a marker of two characters, an operator. -/
theorem cut_front_of_comment
    {settings : Settings}
    {body front back : List Char}
    (sameLine : '\n' ∉ body)
    (someFront : front ≠ [])
    (split : front ++ back = settings.dialect.commentMarker ++ body) :
    ∃ kind, cut settings front = ⟨[⟨kind, front⟩], []⟩ := by
  have comment {near : List Char} (inBody : near ++ back = body) :
      Segment.Form settings .comment (settings.dialect.commentMarker ++ near) :=
    .comment fun member => sameLine (inBody ▸ List.mem_append_left back member)
  obtain ⟨first, near, rfl⟩ := List.exists_cons_of_ne_nil someFront
  cases dialect : settings.dialect with
  | hash =>
      simp only [dialect, Dialect.commentMarker, List.cons_append, List.nil_append,
        List.cons.injEq] at split comment
      obtain ⟨rfl, inBody⟩ := split
      exact ⟨_, cut_of_form (comment inBody)⟩
  | pinky =>
      simp only [dialect, Dialect.commentMarker, List.cons_append, List.nil_append,
        List.cons.injEq] at split comment
      obtain ⟨rfl, split⟩ := split
      cases near with
      | nil =>
          exact ⟨_, cut_of_form (.operator .minus)⟩
      | cons second near =>
          obtain ⟨rfl, inBody⟩ := List.cons.inj split
          exact ⟨_, cut_of_form (comment inBody)⟩

/--
What a segment starts with, short of its end, is cut into two segments at most,
or it is half of an operator or an unclosed string.
-/
theorem cut_front
    {settings : Settings}
    {kind : SegmentKind}
    {front back : List Char}
    (form : Segment.Form settings kind (front ++ back))
    (someFront : front ≠ [])
    (someBack : back ≠ []) :
    (∃ segments, cut settings front = ⟨segments, []⟩ ∧ segments.length ≤ 2) ∨
      front = ['='] ∨
      Segment.Unclosed settings front := by
  have whole := form
  have single {kind : SegmentKind} (form : Segment.Form settings kind front) :
      ∃ segments, cut settings front = ⟨segments, []⟩ ∧ segments.length ≤ 2 :=
    ⟨_, cut_of_form form, by simp⟩
  have notSingle (character : Char) : front ++ back ≠ [character] := by
    simp [List.append_eq_singleton_iff, someFront, someBack]
  generalize split : front ++ back = text at form
  cases form with
  | lineEnd | blank =>
      exact absurd split (notSingle _)
  | comment sameLine =>
      obtain ⟨kind, cut⟩ := cut_front_of_comment sameLine someFront split
      exact .inl ⟨_, cut, by simp⟩
  | operator symbol =>
      rcases symbol.spelling_cases with
        ⟨first, spelled, -⟩ | ⟨first, second, spelled, pair⟩
      · exact absurd (split.trans spelled) (notSingle first)
      · rw [spelled] at split
        obtain ⟨head, near, rfl⟩ := List.exists_cons_of_ne_nil someFront
        rw [List.cons_append, List.cons.injEq, List.append_eq_singleton_iff] at split
        obtain ⟨rfl, ⟨rfl, -⟩ | ⟨-, noBack⟩⟩ := split
        · rcases Operator.eq_or_exists_of_ofPair? pair with rfl | ⟨half, found⟩
          · exact .inr (.inl rfl)
          · have halfForm : Segment.Form settings _ _ := .operator half
            rw [Operator.spelling_of_ofChar? found] at halfForm
            exact .inl (single halfForm)
        · exact absurd noBack someBack
  | integer literals digits =>
      refine .inl (single (.integer literals ⟨someFront, ?_⟩))
      intro character member
      exact digits.allDigits _ (split ▸ List.mem_append_left back member)
  | float literals wholeDigits fractionDigits =>
      exact .inl (cut_front_of_float literals wholeDigits fractionDigits someFront split)
  | string =>
      exact .inr (.inr (whole.unclosed someFront someBack))
  | word literals starts continues =>
      obtain ⟨first, near, rfl⟩ := List.exists_cons_of_ne_nil someFront
      rw [List.cons_append, List.cons.injEq] at split
      obtain ⟨rfl, rfl⟩ := split
      refine .inl (single (.word literals starts ?_))
      intro character member
      exact continues _ (List.mem_append_left back member)

/-- A text and the text with more behind it are cut alike up to the seam. -/
theorem exists_seam
    (settings : Settings)
    (text more : List Char) :
    ∃ agreed pending,
      (agreed.map Segment.text).flatten ++ pending = text ∧
        cut settings text = (cut settings pending).prepend agreed ∧
        cut settings (text ++ more) = (cut settings (pending ++ more)).prepend agreed ∧
        Seam settings pending more := by
  generalize whole : text ++ more = both
  induction both using Segment.longest_induction settings generalizing text with
  | stuck both stuck =>
      subst whole
      refine ⟨[], text, rfl, rfl, rfl, ?_⟩
      cases text with
      | nil =>
          exact .finished rfl
      | cons first rest =>
          exact .stuck (List.cons_ne_nil first rest) stuck
  | append segment rest longest inductionHypothesis =>
      have both : Segment.Longest settings segment (text ++ more) := whole ▸ longest
      by_cases fits : segment.text.length ≤ text.length
      · -- The segment ends in the text, so it is the longest one with or without more behind it.
        have alone := both.of_append fits
        obtain ⟨near, rfl⟩ := alone.starts
        rw [List.append_assoc, List.append_cancel_left_eq] at whole
        obtain ⟨agreed, pending, split, cut, cutMore, seam⟩ := inductionHypothesis near whole
        refine ⟨segment :: agreed, pending, by simp [← split], ?_, ?_, seam⟩
        · rw [cut_append_of_longest alone, cut]
          rfl
        · rw [cut_append_of_longest longest, cutMore]
          rfl
      · refine ⟨[], text, rfl, rfl, by rw [whole]; rfl, ?_⟩
        by_cases empty : text = []
        · exact .finished empty
        · obtain ⟨beyond, crossing⟩ := List.prefix_of_prefix_length_le
            (List.prefix_append text more) both.starts (Nat.le_of_not_le fits)
          rw [← crossing, List.append_assoc, List.append_cancel_left_eq] at whole
          have notEmpty : beyond ≠ [] := by
            rintro rfl
            simp [← crossing] at fits
          obtain ⟨kind, segmentText⟩ := segment
          obtain rfl : text ++ beyond = segmentText := crossing
          exact .crossed empty notEmpty whole longest

end Tiling

end PinkyLex
