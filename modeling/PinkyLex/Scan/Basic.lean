import PinkyLex.Scan.Fault
import PinkyLex.Segment.Tiling
import PinkyLex.Token.Basic
import PinkyLex.Vocabulary.Basic

namespace PinkyLex

/-!
# Scans

A scan cuts a source into segments and turns those that mean something into
tokens.  A token stands on the line on which its segment starts; lines are
counted from one.  If the cutting gets stuck before the end of the source, the
scan has a fault, located after everything that was cut off.
-/

namespace Segment

/-- The kind of the token that a segment becomes, if it becomes one. -/
def tokenKind? (vocabulary : Vocabulary) (segment : Segment) : Option TokenKind :=
  match segment.kind with
  | .lineEnd | .blank | .comment =>
      none
  | .operator symbol =>
      some (.operator symbol)
  | .integer =>
      some .integer
  | .float =>
      some .float
  | .string =>
      some .string
  | .word =>
      some ((vocabulary.find? (String.ofList segment.text)).getD .identifier)

/-- The token that a segment becomes on a line, if it becomes one. -/
def token? (vocabulary : Vocabulary) (line : Nat) (segment : Segment) : Option Token :=
  (segment.tokenKind? vocabulary).map fun kind =>
    { kind := kind, lexeme := String.ofList segment.text, line := line }

/-- The tokens that segments become, the first segment starting on the given line. -/
def tokensFrom (vocabulary : Vocabulary) : Nat → List Segment → List Token
  | _, [] =>
      []
  | line, segment :: rest =>
      (segment.token? vocabulary line).toList ++
        tokensFrom vocabulary (line + segment.lineEnds) rest

/-- The number of line ends inside some segments. -/
def totalLineEnds (segments : List Segment) : Nat :=
  segments.foldr (fun segment lines => segment.lineEnds + lines) 0

@[simp] theorem totalLineEnds_nil :
    totalLineEnds [] = 0 :=
  rfl

@[simp] theorem totalLineEnds_cons
    (segment : Segment)
    (rest : List Segment) :
    totalLineEnds (segment :: rest) = segment.lineEnds + totalLineEnds rest :=
  rfl

end Segment

/-- Tokens found so far, the latest one first, and the line reached. -/
structure ScanProgress where
  found : List Token := []
  line : Nat := 1
  deriving Repr, DecidableEq

namespace ScanProgress

/-- Go past one more segment. -/
def step (vocabulary : Vocabulary) (progress : ScanProgress) (segment : Segment) :
    ScanProgress where
  found :=
    match segment.token? vocabulary progress.line with
    | some token => token :: progress.found
    | none => progress.found
  line :=
    progress.line + segment.lineEnds

/-- Go past some segments. -/
def past (vocabulary : Vocabulary) (progress : ScanProgress) (segments : List Segment) :
    ScanProgress :=
  segments.foldl (step vocabulary) progress

/-- One step puts the token of the segment, if any, in front of those found so far. -/
theorem step_eq
    (vocabulary : Vocabulary)
    (progress : ScanProgress)
    (segment : Segment) :
    progress.step vocabulary segment =
      { found := (segment.token? vocabulary progress.line).toList ++ progress.found
        line := progress.line + segment.lineEnds } := by
  unfold step
  cases segment.token? vocabulary progress.line <;> rfl

/-- Going past segments finds their tokens and counts their line ends. -/
theorem past_eq
    (vocabulary : Vocabulary)
    (progress : ScanProgress)
    (segments : List Segment) :
    progress.past vocabulary segments =
      { found :=
          (Segment.tokensFrom vocabulary progress.line segments).reverse ++ progress.found
        line := progress.line + Segment.totalLineEnds segments } := by
  induction segments generalizing progress with
  | nil =>
      rfl
  | cons segment rest inductionHypothesis =>
      have single :
          (segment.token? vocabulary progress.line).toList.reverse =
            (segment.token? vocabulary progress.line).toList := by
        cases segment.token? vocabulary progress.line <;> rfl
      unfold past at inductionHypothesis ⊢
      rw [List.foldl_cons, inductionHypothesis, step_eq]
      simp [Segment.tokensFrom, single, Nat.add_assoc]

end ScanProgress

/-- The tokens of a source, the line reached, and the fault that ended the scan early, if any. -/
structure Scan where
  tokens : List Token
  lines : Nat
  fault? : Option Fault
  deriving Repr, DecidableEq

namespace Scan

/-- The number of bytes of some segments. -/
def byteLength (segments : List Segment) : Nat :=
  segments.foldr (fun segment bytes => Text.byteLength segment.text + bytes) 0

@[simp] theorem byteLength_nil :
    byteLength [] = 0 :=
  rfl

@[simp] theorem byteLength_cons
    (segment : Segment)
    (rest : List Segment) :
    byteLength (segment :: rest) = Text.byteLength segment.text + byteLength rest :=
  rfl

/-- What a tiling means under a vocabulary. -/
def ofTiling (settings : Settings) (vocabulary : Vocabulary) (tiling : Tiling) : Scan :=
  let reached := ScanProgress.past vocabulary {} tiling.segments
  { tokens := reached.found.reverse
    lines := reached.line
    fault? :=
      match tiling.remainder with
      | [] =>
          none
      | first :: rest =>
          some {
            cause := FaultCause.of settings first rest
            line := reached.line
            offset := byteLength tiling.segments
          } }

/-- Scan a source. -/
def ofSource (settings : Settings) (vocabulary : Vocabulary) (source : String) : Scan :=
  ofTiling settings vocabulary (Tiling.cut settings source.toList)

/-- The tokens of a scan that reached the end of the source, or the fault that ended it. -/
def result (scan : Scan) : Except Fault (List Token) :=
  match scan.fault? with
  | none => .ok scan.tokens
  | some fault => .error fault

/-- The tokens of a scan are those of the segments that were cut off. -/
theorem tokens_ofSource
    (settings : Settings)
    (vocabulary : Vocabulary)
    (source : String) :
    (ofSource settings vocabulary source).tokens =
      Segment.tokensFrom vocabulary 1 (Tiling.cut settings source.toList).segments := by
  simp [ofSource, ofTiling, ScanProgress.past_eq]

/-- The line reached is one more than the number of line ends that were cut off. -/
theorem lines_ofSource
    (settings : Settings)
    (vocabulary : Vocabulary)
    (source : String) :
    (ofSource settings vocabulary source).lines =
      1 + Segment.totalLineEnds (Tiling.cut settings source.toList).segments := by
  simp [ofSource, ofTiling, ScanProgress.past_eq]

end Scan

/-- The tokens of a source, or the first fault in it. -/
def scan (settings : Settings) (vocabulary : Vocabulary) (source : String) :
    Except Fault (List Token) :=
  (Scan.ofSource settings vocabulary source).result

end PinkyLex
