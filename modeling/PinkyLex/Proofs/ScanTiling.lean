import Mathlib.Control.Monad.Basic
import PinkyLex.Proofs.LongestTiling
import PinkyLex.Proofs.SegmentTokens

namespace PinkyLex

/-!
# Scans as tilings

A scan succeeds exactly on the sources that are tiled without a remainder, and
its tokens are those that the segments become.  It fails on all others, where
the cutting gets stuck.
-/

namespace Segment

theorem totalLineEnds_eq (segments : List Segment) :
    totalLineEnds segments = (segments.map text).flatten.count '\n' := by
  induction segments with
  | nil =>
      rfl
  | cons segment segments inductionHypothesis =>
      simp [inductionHypothesis, lineEnds]

end Segment

namespace Token

/-- A token as it is when some lines stand before its source. -/
def below (lines : Nat) (token : Token) : Token :=
  { token with line := token.line + lines }

end Token

namespace Fault

/-- A fault as it is when some lines, of some bytes in all, stand before its source. -/
def behind (lines bytes : Nat) (fault : Fault) : Fault :=
  { fault with
    line := fault.line + lines
    offset := fault.offset + bytes }

end Fault

namespace Segment

variable (vocabulary : Vocabulary) (line : Nat)

/-- Segments that start further down become the same tokens further down. -/
theorem tokensFrom_add
    (lines : Nat)
    (segments : List Segment) :
    tokensFrom vocabulary (line + lines) segments =
      (tokensFrom vocabulary line segments).map (Token.below lines) := by
  induction segments generalizing line with
  | nil =>
      rfl
  | cons segment segments inductionHypothesis =>
      have head :
          (segment.token? vocabulary (line + lines)).toList =
            (segment.token? vocabulary line).toList.map (Token.below lines) := by
        unfold token?
        cases segment.tokenKind? vocabulary <;> rfl
      have later := inductionHypothesis (line + segment.lineEnds)
      rw [Nat.add_right_comm] at later
      simp only [tokensFrom, head, later, List.map_append]

theorem tokensFrom_append
    (segments later : List Segment) :
    tokensFrom vocabulary line (segments ++ later) =
      tokensFrom vocabulary line segments ++
        tokensFrom vocabulary (line + totalLineEnds segments) later := by
  induction segments generalizing line with
  | nil =>
      rfl
  | cons segment segments inductionHypothesis =>
      simp [tokensFrom, inductionHypothesis, Nat.add_assoc]

theorem length_tokensFrom_le
    (segments : List Segment) :
    (tokensFrom vocabulary line segments).length ≤ segments.length := by
  induction segments generalizing line with
  | nil =>
      exact Nat.le_refl 0
  | cons segment segments inductionHypothesis =>
      have later := inductionHypothesis (line + segment.lineEnds)
      have head : (segment.token? vocabulary line).toList.length ≤ 1 := by
        cases segment.token? vocabulary line <;> simp
      simp only [tokensFrom, List.length_append, List.length_cons]
      omega

theorem totalLineEnds_append
    (segments later : List Segment) :
    totalLineEnds (segments ++ later) = totalLineEnds segments + totalLineEnds later := by
  simp [totalLineEnds_eq]

end Segment

namespace Scan

theorem byteLength_eq (segments : List Segment) :
    byteLength segments = Text.byteLength (segments.map Segment.text).flatten := by
  induction segments with
  | nil =>
      rfl
  | cons segment segments inductionHypothesis =>
      simp [inductionHypothesis]

theorem byteLength_append
    (segments later : List Segment) :
    byteLength (segments ++ later) = byteLength segments + byteLength later := by
  simp [byteLength_eq]

/-- The bytes of a source are those of what has been cut off and of what is left. -/
theorem utf8ByteSize_eq
    {source : String}
    {segments : List Segment}
    {remainder : List Char}
    (split : (segments.map Segment.text).flatten ++ remainder = source.toList) :
    source.utf8ByteSize = byteLength segments + Text.byteLength remainder := by
  rw [← Text.byteLength_toList, ← split, Text.byteLength_append, byteLength_eq]

variable (settings : Settings) (vocabulary : Vocabulary) (segments : List Segment)

/-- A tiling without a remainder gives the tokens of its segments. -/
theorem result_ofTiling_nil :
    (ofTiling settings vocabulary ⟨segments, []⟩).result =
      .ok (Segment.tokensFrom vocabulary 1 segments) := by
  simp [ofTiling, result, ScanProgress.past_eq]

/-- A tiling with a remainder gives the fault of the character that the remainder starts with. -/
theorem result_ofTiling_cons
    (first : Char)
    (rest : List Char) :
    (ofTiling settings vocabulary ⟨segments, first :: rest⟩).result =
      .error {
        cause := FaultCause.of settings first rest
        line := 1 + Segment.totalLineEnds segments
        offset := byteLength segments } := by
  simp [ofTiling, result, ScanProgress.past_eq]

/-- Segments in front of a tiling put their tokens first and move what comes of the rest. -/
theorem result_ofTiling_prepend
    (tiling : Tiling) :
    (ofTiling settings vocabulary (tiling.prepend segments)).result =
      match (ofTiling settings vocabulary tiling).result with
      | .ok tokens =>
          .ok (Segment.tokensFrom vocabulary 1 segments ++
            tokens.map (Token.below (Segment.totalLineEnds segments)))
      | .error fault =>
          .error (fault.behind (Segment.totalLineEnds segments) (byteLength segments)) := by
  obtain ⟨later, remainder⟩ := tiling
  cases remainder with
  | nil =>
      simp only [Tiling.prepend, result_ofTiling_nil, Segment.tokensFrom_append,
        Segment.tokensFrom_add]
  | cons first rest =>
      simp only [Tiling.prepend, result_ofTiling_cons, Segment.totalLineEnds_append,
        byteLength_append, Fault.behind, Except.error.injEq, Fault.mk.injEq, true_and, and_true]
      omega

end Scan

section Results

variable {settings : Settings} {vocabulary : Vocabulary} {source : String}

theorem scan_eq :
    scan settings vocabulary source =
      (Scan.ofTiling settings vocabulary (Tiling.cut settings source.toList)).result :=
  rfl

/-- A scan succeeds where the cutting reaches the end of the source. -/
theorem scan_eq_ok_iff
    {tokens : List Token} :
    scan settings vocabulary source = .ok tokens ↔
      ∃ segments,
        Tiling.cut settings source.toList = ⟨segments, []⟩ ∧
          tokens = Segment.tokensFrom vocabulary 1 segments := by
  rw [scan_eq]
  obtain ⟨segments, remainder⟩ := Tiling.cut settings source.toList
  cases remainder with
  | nil =>
      simp [Scan.result_ofTiling_nil, eq_comm]
  | cons first rest =>
      simp [Scan.result_ofTiling_cons]

/-- A scan fails where the cutting gets stuck before the end of the source. -/
theorem scan_eq_error_iff
    {fault : Fault} :
    scan settings vocabulary source = .error fault ↔
      ∃ segments first rest,
        Tiling.cut settings source.toList = ⟨segments, first :: rest⟩ ∧
          fault = {
            cause := FaultCause.of settings first rest
            line := 1 + Segment.totalLineEnds segments
            offset := Scan.byteLength segments } := by
  rw [scan_eq]
  obtain ⟨segments, remainder⟩ := Tiling.cut settings source.toList
  cases remainder with
  | nil =>
      simp [Scan.result_ofTiling_nil]
  | cons first rest =>
      rw [Scan.result_ofTiling_cons, Except.error.injEq]
      constructor
      · rintro rfl
        exact ⟨segments, first, rest, rfl, rfl⟩
      · rintro ⟨segments, first, rest, same, rfl⟩
        cases same
        rfl

end Results

/--
A scan succeeds exactly on the sources that are put together from longest
segments alone.  Its tokens are then what these segments become, in their order.
-/
theorem scan_eq_ok_iff_tiled
    (settings : Settings)
    (vocabulary : Vocabulary)
    (source : String)
    (tokens : List Token) :
    scan settings vocabulary source = .ok tokens ↔
      ∃ segments,
        Tiled settings source.toList segments [] ∧
          Segment.Become vocabulary [] segments tokens := by
  rw [scan_eq_ok_iff]
  constructor
  · rintro ⟨segments, cut, collected⟩
    exact ⟨segments, (Tiled.iff_cut.mpr cut).1, Segment.become_iff.mpr (by simpa using collected)⟩
  · rintro ⟨segments, tiled, become⟩
    refine ⟨segments, Tiled.iff_cut.mp ⟨tiled, Segment.stuck_nil settings⟩, ?_⟩
    simpa using Segment.become_iff.mp become

/-- A float takes one point and no more. -/
example :
    scan {} .pinky "1.2.3" =
      .ok [⟨.float, "1.2", 1⟩, ⟨.operator .dot, ".", 1⟩, ⟨.integer, "3", 1⟩] := by
  decide +kernel

end PinkyLex
