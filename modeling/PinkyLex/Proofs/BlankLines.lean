import PinkyLex.Dialogue
import PinkyLex.Proofs.Trivia

namespace PinkyLex

/-!
# Blank lines

A dialogue gives no answer to a line of nothing but white space.  To a scan only
four kinds of white space separate segments; all other kinds are characters that
it does not know.  So a blank line that has one of those would have a fault, and
the dialogue keeps silent about it.
-/

namespace Text

/-- The code points of the white space that separates no segments. -/
def oddSpaces : List Nat :=
  [0xb, 0xc, 0x85, 0xa0, 0x1680, 0x2000, 0x2001, 0x2002, 0x2003, 0x2004, 0x2005, 0x2006, 0x2007,
   0x2008, 0x2009, 0x200a, 0x2028, 0x2029, 0x202f, 0x205f, 0x3000]

/-- White space separates segments, or it is one of the odd spaces. -/
theorem mem_oddSpaces
    {character : Char}
    (white : isWhiteSpace character = true)
    (odd : character ∉ [' ', '\t', '\r', '\n']) :
    character.toNat ∈ oddSpaces := by
  have code (other : Char) (different : character ≠ other) : character.toNat ≠ other.toNat :=
    fun same => different (Char.toNat_inj.mp same)
  simp only [List.mem_cons, List.not_mem_nil, or_false, not_or] at odd
  obtain ⟨notSpace, notTab, notReturn, notLineFeed⟩ := odd
  have space := code ' ' notSpace
  have tab := code '\t' notTab
  have carriageReturn := code '\r' notReturn
  have lineFeed := code '\n' notLineFeed
  simp only [Char.reduceToNat] at space tab carriageReturn lineFeed
  simp only [isWhiteSpace, WhiteSpace.boundaries, CodeSet.contains_cons_cons_iff] at white
  simp only [oddSpaces, List.mem_cons, List.not_mem_nil, or_false]
  generalize character.toNat = n at *
  clear code
  simp only [CodeSet.contains, Bool.false_eq_true, or_false] at white
  omega

end Text

namespace Segment

variable {settings : Settings} {character : Char}

/-- No segment and no fault but that of an unknown character starts with an odd space. -/
theorem startsNothing_of_mem_oddSpaces
    (odd : character.toNat ∈ Text.oddSpaces) :
    character ∉ ['\n', '-', '#', '='] ∧
      isBlank character = false ∧
      Operator.ofChar? character = none ∧
      startsLiteral character = false := by
  have all :
      ∀ code ∈ Text.oddSpaces,
        Char.ofNat code ∉ ['\n', '-', '#', '='] ∧
          isBlank (Char.ofNat code) = false ∧
          Operator.ofChar? (Char.ofNat code) = none ∧
          startsLiteral (Char.ofNat code) = false := by
    decide +kernel
  have found := all _ odd
  rwa [Char.ofNat_toNat] at found

theorem stuck_of_mem_oddSpaces
    (odd : character.toNat ∈ Text.oddSpaces)
    (rest : List Char) :
    Stuck settings (character :: rest) := by
  obtain ⟨notSpecial, notBlank, notSingle, notLiteral⟩ := startsNothing_of_mem_oddSpaces odd
  simp only [List.mem_cons, List.not_mem_nil, or_false, not_or] at notSpecial
  obtain ⟨notLineEnd, notMinus, notMarker, notEqual⟩ := notSpecial
  have noComment : commentReach? settings.dialect character rest = none := by
    unfold commentReach?
    split
    case h_1 => exact absurd rfl notMinus
    case h_2 => exact absurd rfl notMarker
    case h_3 => rfl
  have noOperator : operatorReach? character rest = none := by
    have noPair (second : Char) : Operator.ofPair? character second = none := by
      rw [Option.eq_none_iff_forall_ne_some]
      intro symbol found
      rcases Operator.eq_or_exists_of_ofPair? found with equal | ⟨half, single⟩
      · exact notEqual equal
      · cases notSingle.symm.trans single
    cases rest <;> simp [operatorReach?, noPair, notSingle]
  rw [stuck_iff]
  simp [reach?, notLineEnd, notBlank, noComment, noOperator, literalReach?_eq_none notLiteral]

theorem cause_of_mem_oddSpaces
    (odd : character.toNat ∈ Text.oddSpaces)
    (rest : List Char) :
    FaultCause.of settings character rest = .unrecognizedCharacter character := by
  obtain ⟨notSpecial, -, -, notLiteral⟩ := startsNothing_of_mem_oddSpaces odd
  apply FaultCause.of_other
  · rintro rfl
    exact notSpecial (by decide)
  · rintro ⟨-, quoted⟩
    simp [startsLiteral, isQuote_iff.mpr quoted] at notLiteral

end Segment

/-- What comes of white space: nothing, or the fault of the first space that separates no segments. -/
inductive Blank (text : List Char) : Except Fault (List Token) → Prop where
  | separates :
      (∀ character ∈ text, character ∈ [' ', '\t', '\r', '\n']) →
      Blank text (.ok [])
  | odd {front rest : List Char} {character : Char} :
      text = front ++ character :: rest →
      (∀ space ∈ front, space ∈ [' ', '\t', '\r', '\n']) →
      character ∉ [' ', '\t', '\r', '\n'] →
      Blank text (.error {
        cause := .unrecognizedCharacter character
        line := 1 + front.count '\n'
        offset := Text.byteLength front })

/-- White space goes on up to its end or to the first space that separates no segments. -/
theorem exists_odd_space (text : List Char) :
    (∀ character ∈ text, character ∈ [' ', '\t', '\r', '\n']) ∨
      ∃ front character rest,
        text = front ++ character :: rest ∧
          (∀ space ∈ front, space ∈ [' ', '\t', '\r', '\n']) ∧
          character ∉ [' ', '\t', '\r', '\n'] := by
  induction text with
  | nil =>
      exact .inl (by simp)
  | cons first text inductionHypothesis =>
      by_cases space : first ∈ [' ', '\t', '\r', '\n']
      · rcases inductionHypothesis with spaces | ⟨front, character, rest, rfl, spaces, odd⟩
        · exact .inl (List.forall_mem_cons.mpr ⟨space, spaces⟩)
        · exact .inr ⟨first :: front, character, rest, rfl,
            List.forall_mem_cons.mpr ⟨space, spaces⟩, odd⟩
      · exact .inr ⟨[], first, text, rfl, by simp, space⟩

/-- A scan of white space fails at the first space that separates no segments, if there is one. -/
theorem blank_scan
    {text : List Char}
    (white : ∀ character ∈ text, Text.isWhiteSpace character = true)
    (settings : Settings)
    (vocabulary : Vocabulary) :
    Blank text (scan settings vocabulary (String.ofList text)) := by
  rcases exists_odd_space text with spaces | ⟨front, character, rest, rfl, spaces, odd⟩
  · obtain ⟨segments, silent, cut⟩ := (Trivia.of_spaces settings.dialect spaces).exists_cut
    rw [scan_eq, String.toList_ofList, cut, Scan.result_ofTiling_nil,
      Segment.tokensFrom_of_silent vocabulary silent]
    exact .separates spaces
  · have inOdd := Text.mem_oddSpaces (white character (by simp)) odd
    obtain ⟨segments, -, flat, tiled⟩ :=
      (Trivia.of_spaces settings.dialect spaces).exists_tiled (character :: rest)
    have cut := Tiled.iff_cut.mp ⟨tiled, Segment.stuck_of_mem_oddSpaces inOdd rest⟩
    rw [scan_eq, String.toList_ofList, cut, Scan.result_ofTiling_cons,
      Segment.cause_of_mem_oddSpaces inOdd, Segment.totalLineEnds_eq, Scan.byteLength_eq, flat]
    exact .odd rfl spaces odd

namespace Dialogue

/-- A line of nothing but white space, not all of which separates segments. -/
structure OddlyBlank (line : String) : Prop where
  white : ∀ character ∈ withoutLineEnd line.toList, Text.isWhiteSpace character = true
  odd : ∃ character ∈ withoutLineEnd line.toList, character ∉ [' ', '\t', '\r', '\n']

/--
A dialogue answers a line as a scan of it would, but for the lines of white space
with a space that separates no segments.  Those have a fault, which is not told.
-/
theorem reply_eq_scanned_unless_oddlyBlank
    (settings : Settings)
    (vocabulary : Vocabulary)
    (line : String) :
    let source := String.ofList (withoutLineEnd line.toList)
    let told := Reply.toLine settings vocabulary line
    let scanned := Reply.scanned (Scan.ofSource settings vocabulary source)
    told.output = scanned.output ∧
      (¬ OddlyBlank line →
        told.errors = scanned.errors ∧
          (source? line = none → scan settings vocabulary source = .ok [])) ∧
      (OddlyBlank line →
        source? line = none ∧
          told.errors = "" ∧
          ∃ fault character,
            scan settings vocabulary source = .error fault ∧
              scanned.errors = fault.message ++ "\n" ∧
              fault.cause = .unrecognizedCharacter character ∧
              character ∈ withoutLineEnd line.toList ∧
              character ∉ [' ', '\t', '\r', '\n']) := by
  intro source told scanned
  by_cases white : ∀ character ∈ withoutLineEnd line.toList, Text.isWhiteSpace character = true
  case neg =>
    have answered : told = scanned := Reply.toLine_of_not_white white
    rw [answered]
    refine ⟨rfl, fun _ => ⟨rfl, ?_⟩, fun oddly => absurd oddly.white white⟩
    exact fun skipped => absurd (source?_eq_none_iff.mp skipped) white
  case pos =>
    have silent : told = .silence := Reply.toLine_of_white white
    rw [silent]
    have blank := blank_scan white settings vocabulary
    generalize result : scan settings vocabulary source = outcome at blank
    cases blank with
    | separates spaces =>
        obtain ⟨noOutput, noErrors⟩ := Reply.scanned_of_ok result
        refine ⟨noOutput.symm, fun _ => ⟨noErrors.symm, fun _ => rfl⟩, ?_⟩
        rintro ⟨-, character, member, odd⟩
        exact absurd (spaces character member) odd
    | @odd front rest character split _ odd =>
        have member : character ∈ withoutLineEnd line.toList := by
          simp [split]
        obtain ⟨noOutput, faultTold⟩ := Reply.scanned_of_error result
        refine ⟨noOutput.symm, fun notOddly => ?_, fun _ => ?_⟩
        · exact absurd ⟨white, character, member, odd⟩ notOddly
        · exact ⟨source?_eq_none_iff.mpr white, rfl, _, character, rfl, faultTold, rfl, member, odd⟩

/-- A space that is not broken makes up a blank line, which is skipped though a scan of it fails. -/
theorem reply_hides_fault_of_oddlyBlank :
    source? "\u00a0\n" = none ∧
      scan {} .pinky "\u00a0" = .error ⟨.unrecognizedCharacter '\u00a0', 1, 0, {}⟩ ∧
      (hold {} .pinky (Text.encode "\u00a0\n")).output = "> > " ∧
      (hold {} .pinky (Text.encode "\u00a0\n")).errors = "" := by
  decide +kernel

end Dialogue

end PinkyLex
