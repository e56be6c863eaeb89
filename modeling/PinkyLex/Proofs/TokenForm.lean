import PinkyLex.Proofs.ScanTiling

namespace PinkyLex

/-!
# Forms of tokens

Every token of a scan comes from a segment, and so has the text that segments of
some kind have.  The first token comes from the first segment, unless this one is
silent.
-/

theorem Tiled.form_of_mem
    {settings : Settings}
    {segments : List Segment}
    {text remainder : List Char}
    (tiled : Tiled settings text segments remainder)
    {segment : Segment}
    (member : segment ∈ segments) :
    Segment.Form settings segment.kind segment.text := by
  induction tiled with
  | nil remainder =>
      cases member
  | cons longest later inductionHypothesis =>
      rcases List.mem_cons.mp member with rfl | inLater
      · exact longest.form
      · exact inductionHypothesis inLater

namespace Segment

/-- A token that segments become is the token of one of them, on its line or further down. -/
theorem exists_of_mem_tokensFrom
    {vocabulary : Vocabulary}
    {line : Nat}
    {segments : List Segment}
    {token : Token}
    (member : token ∈ tokensFrom vocabulary line segments) :
    ∃ segment ∈ segments,
      line ≤ token.line ∧ segment.token? vocabulary token.line = some token := by
  induction segments generalizing line with
  | nil =>
      cases member
  | cons segment segments inductionHypothesis =>
      rw [tokensFrom, List.mem_append, Option.mem_toList] at member
      rcases member with here | later
      · obtain ⟨kind, means, rfl⟩ := Option.map_eq_some_iff.mp here
        exact ⟨segment, List.mem_cons_self, Nat.le_refl line, here⟩
      · obtain ⟨other, inSegments, below, found⟩ := inductionHypothesis later
        exact ⟨other, List.mem_cons_of_mem segment inSegments, by omega, found⟩

variable (vocabulary : Vocabulary) (line : Nat)

/-- What is loud becomes the first token; what is silent only moves the tokens behind it down. -/
theorem tokensFrom_cons_cases
    (segment : Segment)
    (segments : List Segment) :
    segment.Silent ∧
        tokensFrom vocabulary line (segment :: segments) =
          tokensFrom vocabulary (line + segment.lineEnds) segments ∨
      ¬ segment.Silent ∧
        ∃ kind,
          tokensFrom vocabulary line (segment :: segments) =
            ⟨kind, String.ofList segment.text, line⟩ ::
              tokensFrom vocabulary (line + segment.lineEnds) segments := by
  cases means : segment.tokenKind? vocabulary with
  | none =>
      left
      refine ⟨tokenKind?_eq_none_iff.mp means, ?_⟩
      rw [tokensFrom, token?, means]
      rfl
  | some kind =>
      right
      refine ⟨?_, kind, ?_⟩
      · intro silent
        cases means.symm.trans (tokenKind?_eq_none_iff.mpr silent)
      · rw [tokensFrom, token?, means]
        rfl

/-- The lexemes of tokens do not take more characters than the segments they come from. -/
theorem length_lexemes_le
    (segments : List Segment) :
    ((tokensFrom vocabulary line segments).map fun token => token.lexeme.toList).flatten.length ≤
      (segments.map Segment.text).flatten.length := by
  induction segments generalizing line with
  | nil =>
      exact Nat.le_refl 0
  | cons segment segments inductionHypothesis =>
      have later := inductionHypothesis (line + segment.lineEnds)
      rcases tokensFrom_cons_cases vocabulary line segment segments with
        ⟨-, same⟩ | ⟨-, kind, same⟩
      · rw [same, List.map_cons, List.flatten_cons, List.length_append]
        exact Nat.le_add_left_of_le later
      · simpa [same] using later

end Segment

/-- The first segment has the lexeme of the first token, or is silent and the token comes later. -/
theorem Tiled.first_token_cases
    {settings : Settings}
    {vocabulary : Vocabulary}
    {line : Nat}
    {text : List Char}
    {segments : List Segment}
    {token : Token}
    {tokens : List Token}
    (tiled : Tiled settings text segments [])
    (collected : Segment.tokensFrom vocabulary line segments = token :: tokens) :
    ∃ segment rest later,
      text = segment.text ++ rest ∧
        Segment.Longest settings segment (segment.text ++ rest) ∧
        Tiled settings rest later [] ∧
        (segment.Silent ∧
            Segment.tokensFrom vocabulary (line + segment.lineEnds) later = token :: tokens ∨
          ¬ segment.Silent ∧ token.lexeme.toList = segment.text) := by
  cases tiled with
  | nil =>
      cases collected
  | @cons segment rest _ later longest tiledLater =>
      refine ⟨segment, rest, later, rfl, longest, tiledLater, ?_⟩
      rcases Segment.tokensFrom_cons_cases vocabulary line segment later with
        ⟨silent, same⟩ | ⟨loud, kind, same⟩
      · exact .inl ⟨silent, same.symm.trans collected⟩
      · obtain ⟨rfl, -⟩ := List.cons.inj (collected.symm.trans same)
        exact .inr ⟨loud, String.toList_ofList⟩

/-- A token that some scan gives. -/
def Token.Emitted (settings : Settings) (vocabulary : Vocabulary) (token : Token) : Prop :=
  ∃ source tokens, scan settings vocabulary source = .ok tokens ∧ token ∈ tokens

/-- A token of a scan is what the segment with its text becomes, and this has the form of its kind. -/
theorem Token.Emitted.exists_form
    {settings : Settings}
    {vocabulary : Vocabulary}
    {token : Token}
    (emitted : token.Emitted settings vocabulary) :
    ∃ kind,
      Segment.Form settings kind token.lexeme.toList ∧
        Segment.tokenKind? vocabulary ⟨kind, token.lexeme.toList⟩ = some token.kind := by
  obtain ⟨source, tokens, scanned, member⟩ := emitted
  obtain ⟨segments, cut, rfl⟩ := scan_eq_ok_iff.mp scanned
  obtain ⟨⟨kind, text⟩, inSegments, -, found⟩ := Segment.exists_of_mem_tokensFrom member
  obtain ⟨tokenKind, means, shape⟩ := Option.map_eq_some_iff.mp found
  have form := (Tiled.iff_cut.mpr cut).1.form_of_mem inSegments
  have lexeme : token.lexeme.toList = text := by
    rw [← shape, String.toList_ofList]
  rw [lexeme]
  exact ⟨kind, form, by rw [means, ← shape]⟩

end PinkyLex
