import PinkyLex.Proofs.Trivia

namespace PinkyLex

/-!
# Tokens written out

Tokens are written out with gaps between them, each of them empty or a separator.
Scanning the text gives the tokens back, on the lines on which they now stand,
just if every two or three tokens that would run into each other are kept apart.
-/

namespace Token

/-- A token that starts as a word does. -/
def IsWord (token : Token) : Prop :=
  ∃ first rest, token.lexeme.toList = first :: rest ∧ Text.startsWord first = true

/-- A token that starts with a digit, as integers and floats do. -/
def IsNumber (token : Token) : Prop :=
  ∃ first rest, token.lexeme.toList = first :: rest ∧ first.isDigit = true

/-- Two tokens that run into each other when nothing stands between them. -/
inductive Joins (dialect : Dialect) (left right : Token) : Prop where
  | word :
      left.IsWord →
      right.IsWord ∨ right.IsNumber →
      Joins dialect left right
  | number :
      left.IsNumber →
      right.IsNumber →
      Joins dialect left right
  | equal :
      left.lexeme ∈ ["<", ">", "~", ":"] →
      right.lexeme = "==" →
      Joins dialect left right
  | comment :
      dialect = .pinky →
      left.lexeme = "-" →
      right.lexeme = "-" →
      Joins dialect left right

/-- Three tokens that make a float when nothing stands between them. -/
structure MakeFloat (whole point fraction : Token) : Prop where
  digits : Segment.Digits whole.lexeme.toList
  dot : point.lexeme = "."
  number : fraction.IsNumber

end Token

/-- A token of some scan with the gap to be written before it. -/
structure Piece (settings : Settings) (vocabulary : Vocabulary) where
  gap : List Char
  token : Token
  spaced : gap = [] ∨ Separator settings.dialect gap
  emitted : token.Emitted settings vocabulary

namespace Piece

variable {settings : Settings} {vocabulary : Vocabulary}

/-- The characters of the token. -/
def lexeme (piece : Piece settings vocabulary) : List Char :=
  piece.token.lexeme.toList

/-- The text of some pieces: before each lexeme its gap. -/
def written : List (Piece settings vocabulary) → List Char
  | [] =>
      []
  | piece :: rest =>
      piece.gap ++ (piece.lexeme ++ written rest)

/-- The tokens of some pieces, each on the line on which it stands behind the given text. -/
def placed : List Char → List (Piece settings vocabulary) → List Token
  | _, [] =>
      []
  | before, piece :: rest =>
      { piece.token with line := 1 + (before ++ piece.gap).count '\n' } ::
        placed (before ++ piece.gap ++ piece.lexeme) rest

/-- All tokens are kept apart that would run into each other. -/
structure Separated (pieces : List (Piece settings vocabulary)) : Prop where
  pairs :
    ∀ left right,
      [left, right] <:+: pieces →
      right.gap = [] →
      ¬ left.token.Joins settings.dialect right.token
  triples :
    ∀ left point right,
      [left, point, right] <:+: pieces →
      point.gap = [] →
      right.gap = [] →
      ¬ left.token.MakeFloat point.token right.token

end Piece

namespace Token

variable {settings : Settings} {vocabulary : Vocabulary} {dialect : Dialect}
variable {left right point : Token} {tail : List Char}

/-- The segment that a token comes from. -/
theorem Emitted.exists_loud
    {token : Token}
    (emitted : token.Emitted settings vocabulary) :
    ∃ kind,
      Segment.Form settings kind token.lexeme.toList ∧
        ¬ Segment.Silent ⟨kind, token.lexeme.toList⟩ ∧
        ∀ line,
          Segment.token? vocabulary line ⟨kind, token.lexeme.toList⟩ =
            some { token with line := line } := by
  obtain ⟨kind, form, means⟩ := emitted.exists_form
  refine ⟨kind, form, ?_, ?_⟩
  · intro silent
    cases means.symm.trans (Segment.tokenKind?_eq_none_iff.mpr silent)
  · intro line
    rw [Segment.token?, means, Option.map_some, String.ofList_toList]

/-- Tokens that join run on, whatever stands behind them. -/
theorem Joins.runsOn
    (joins : Joins dialect left right)
    (tail : List Char) :
    Segment.RunsOn dialect left.lexeme.toList (right.lexeme.toList ++ tail) := by
  cases joins with
  | word isWord goesOn =>
      obtain ⟨first, rest, shape, starts⟩ := isWord
      rw [shape]
      rcases goesOn with ⟨next, later, nextShape, startsNext⟩ | ⟨next, later, nextShape, digit⟩
      · rw [nextShape]
        exact .word starts (Text.continuesWord_of_startsWord startsNext)
      · rw [nextShape]
        exact .word starts (Text.continuesWord_of_isDigit digit)
  | number isNumber goesOn =>
      obtain ⟨first, rest, shape, digit⟩ := isNumber
      obtain ⟨next, later, nextShape, nextDigit⟩ := goesOn
      rw [shape, nextShape]
      exact .number digit nextDigit
  | equal single double =>
      rw [double]
      simp only [List.mem_cons, List.not_mem_nil, or_false] at single
      rcases single with shape | shape | shape | shape <;>
        (rw [shape]; exact .equal (by decide))
  | comment pinky first second =>
      rw [first, second]
      exact .comment pinky

theorem MakeFloat.runsOn
    (float : MakeFloat left point right)
    (tail : List Char) :
    Segment.RunsOn dialect left.lexeme.toList
      (point.lexeme.toList ++ (right.lexeme.toList ++ tail)) := by
  obtain ⟨next, later, shape, digit⟩ := float.number
  rw [float.dot, shape]
  exact .fraction float.digits digit

/-- A token that starts with a point, an equals sign or a minus sign is one operator only. -/
theorem Emitted.lexeme_of_first
    (emitted : right.Emitted settings vocabulary)
    {first : Char}
    {rest : List Char}
    (shape : right.lexeme.toList = first :: rest) :
    (first = '.' → right.lexeme = ".") ∧
      (first = '=' → right.lexeme = "==") ∧
      (first = '-' → right.lexeme = "-") ∧
      (Text.continuesWord first = true → right.IsWord ∨ right.IsNumber) := by
  obtain ⟨kind, form, loud, -⟩ := emitted.exists_loud
  rw [shape] at form loud
  obtain ⟨afterPoint, afterEqual, afterMinus, continues⟩ := form.rest_of_first loud
  refine ⟨?_, ?_, ?_, ?_⟩
  · rintro rfl
    rw [String.ext_iff, shape, afterPoint rfl]
    rfl
  · rintro rfl
    rw [String.ext_iff, shape, afterEqual rfl]
    rfl
  · rintro rfl
    rw [String.ext_iff, shape, afterMinus rfl]
    rfl
  · intro goesOn
    apply (continues goesOn).imp
    · exact fun starts => ⟨first, rest, shape, starts⟩
    · exact fun digit => ⟨first, rest, shape, digit⟩

end Token

namespace Piece

variable {settings : Settings} {vocabulary : Vocabulary}
variable {text : List Char} {piece : Piece settings vocabulary}
variable {rest : List (Piece settings vocabulary)}

/-- The first character of a text of pieces is that of a token or of a separator. -/
theorem written_cases (pieces : List (Piece settings vocabulary)) :
    pieces = [] ∨
      (∃ character tail,
        character ∈ [' ', '\t', '\r', '\n'] ∧ written pieces = character :: tail) ∨
      ∃ piece rest first tail,
        pieces = piece :: rest ∧
          piece.gap = [] ∧
          piece.token.lexeme.toList = first :: tail ∧
          written pieces = first :: (tail ++ written rest) := by
  cases pieces with
  | nil =>
      exact .inl rfl
  | cons piece rest =>
      right
      rcases piece.spaced with empty | separator
      · right
        obtain ⟨kind, form, -⟩ := piece.emitted.exists_loud
        obtain ⟨first, tail, shape⟩ := List.exists_cons_of_ne_nil form.ne_nil
        refine ⟨piece, rest, first, tail, rfl, empty, shape, ?_⟩
        rw [written, empty, lexeme, shape]
        rfl
      · left
        obtain ⟨character, later, space, shape⟩ := separator.exists_space
        exact ⟨character, _, space, by rw [written, shape]; rfl⟩

theorem exists_number_of_written
    {pieces : List (Piece settings vocabulary)}
    {next : Char}
    {after : List Char}
    (text : written pieces = next :: after)
    (digit : next.isDigit = true) :
    ∃ piece rest, pieces = piece :: rest ∧ piece.gap = [] ∧ piece.token.IsNumber := by
  rcases written_cases pieces with
    rfl | ⟨character, tail, space, shape⟩ | ⟨piece, rest, first, tail, rfl, empty, shape, whole⟩
  · cases text
  · obtain ⟨rfl, -⟩ := List.cons.inj (shape.symm.trans text)
    have notWord := Segment.continuesWord_of_space space
    simp [Text.continuesWord_of_isDigit digit] at notWord
  · obtain ⟨rfl, -⟩ := List.cons.inj (whole.symm.trans text)
    exact ⟨piece, rest, rfl, empty, first, tail, shape, digit⟩

/-- A lexeme runs on into the pieces behind it just where they are not kept apart. -/
theorem runsOn_written_iff :
    Segment.RunsOn settings.dialect piece.lexeme (written rest) ↔
      (∃ right later,
        rest = right :: later ∧
          right.gap = [] ∧
          piece.token.Joins settings.dialect right.token) ∨
      ∃ point right later,
        rest = point :: right :: later ∧
          point.gap = [] ∧
          right.gap = [] ∧
          piece.token.MakeFloat point.token right.token := by
  constructor
  · intro runsOn
    rcases written_cases rest with
      rfl | ⟨character, tail, space, shape⟩ | ⟨right, later, first, tail, rfl, empty, shape, text⟩
    · exact absurd runsOn (Segment.not_runsOn_nil _ _)
    · rw [shape] at runsOn
      exact absurd runsOn (Segment.not_runsOn_space space)
    · obtain ⟨afterPoint, afterEqual, afterMinus, continues⟩ :=
        right.emitted.lexeme_of_first shape
      rw [text] at runsOn
      generalize lexemeShape : piece.lexeme = own at runsOn
      generalize behind : tail ++ written later = after at runsOn
      cases runsOn with
      | word starts goesOn =>
          exact .inl ⟨right, later, rfl, empty,
            .word ⟨_, _, lexemeShape, starts⟩ (continues goesOn)⟩
      | number digit nextDigit =>
          exact .inl ⟨right, later, rfl, empty,
            .number ⟨_, _, lexemeShape, digit⟩ ⟨first, tail, shape, nextDigit⟩⟩
      | @fraction own beyond next run nextDigit =>
          have digits : Segment.Digits piece.token.lexeme.toList := by
            rw [← lexemeShape] at run
            exact run
          have dot := afterPoint rfl
          rw [dot] at shape
          obtain ⟨-, rfl⟩ := List.cons.inj shape
          rw [List.nil_append] at behind
          obtain ⟨third, last, rfl, alsoEmpty, number⟩ :=
            exists_number_of_written behind nextDigit
          exact .inr ⟨right, third, last, rfl, empty, alsoEmpty, digits, dot, number⟩
      | equal member =>
          refine .inl ⟨right, later, rfl, empty, .equal ?_ (afterEqual rfl)⟩
          simp only [List.mem_cons, List.not_mem_nil, or_false] at member ⊢
          rcases member with rfl | rfl | rfl | rfl
          · exact .inl (String.ext lexemeShape)
          · exact .inr (.inl (String.ext lexemeShape))
          · exact .inr (.inr (.inl (String.ext lexemeShape)))
          · exact .inr (.inr (.inr (String.ext lexemeShape)))
      | comment pinky =>
          refine .inl ⟨right, later, rfl, empty, .comment pinky ?_ (afterMinus rfl)⟩
          exact String.ext lexemeShape
  · rintro (⟨right, later, rfl, empty, joins⟩ | ⟨point, right, later, rfl, empty, alsoEmpty, float⟩)
    · rw [written, empty]
      exact joins.runsOn _
    · rw [written, written, empty, alsoEmpty]
      exact float.runsOn _

/-- Pieces are separated if the first does not run on and those behind it are separated. -/
theorem separated_cons_iff :
    Separated (piece :: rest) ↔
      ¬ Segment.RunsOn settings.dialect piece.lexeme (written rest) ∧ Separated rest := by
  constructor
  · intro separated
    refine ⟨?_, ?_, ?_⟩
    · intro runsOn
      rcases runsOn_written_iff.mp runsOn with
        ⟨right, later, rfl, empty, joins⟩ | ⟨point, right, later, rfl, empty, alsoEmpty, float⟩
      · have adjacent : [piece, right] <:+: piece :: right :: later :=
          ⟨[], later, rfl⟩
        exact separated.pairs piece right adjacent empty joins
      · have adjacent : [piece, point, right] <:+: piece :: point :: right :: later :=
          ⟨[], later, rfl⟩
        exact separated.triples piece point right adjacent empty alsoEmpty float
    · intro left right adjacent
      exact separated.pairs left right (List.infix_cons adjacent)
    · intro left point right adjacent
      exact separated.triples left point right (List.infix_cons adjacent)
  · rintro ⟨quiet, separated⟩
    refine ⟨?_, ?_⟩
    · intro left right adjacent empty joins
      rcases List.infix_cons_iff.mp adjacent with atFront | behind
      · obtain ⟨rfl, later, rfl⟩ := List.cons_prefix_cons.mp atFront
        exact quiet (runsOn_written_iff.mpr (.inl ⟨right, later, rfl, empty, joins⟩))
      · exact separated.pairs left right behind empty joins
    · intro left point right adjacent empty alsoEmpty float
      rcases List.infix_cons_iff.mp adjacent with atFront | behind
      · obtain ⟨rfl, later, rfl⟩ := List.cons_prefix_cons.mp atFront
        exact quiet (runsOn_written_iff.mpr
          (.inr ⟨point, right, later, rfl, empty, alsoEmpty, float⟩))
      · exact separated.triples left point right behind empty alsoEmpty float

end Piece

end PinkyLex
