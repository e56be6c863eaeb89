import Mathlib.Data.List.Basic

namespace PinkyLex

/-!
# Lines

An input of any letters can be cut into lines after each mark, and the lines put
together are the input.
-/

/-- The lines of an input, each with the mark that ends it; the last one may have none. -/
inductive Lines {Letter : Type} (mark : Letter) : List Letter → List (List Letter) → Prop where
  | nil :
      Lines mark [] []
  | last {body : List Letter} :
      body ≠ [] →
      mark ∉ body →
      Lines mark body [body]
  | line {body rest : List Letter} {lines : List (List Letter)} :
      mark ∉ body →
      Lines mark rest lines →
      Lines mark (body ++ mark :: rest) ((body ++ [mark]) :: lines)

namespace Lines

variable {Letter : Type} {mark : Letter} {input : List Letter} {lines : List (List Letter)}

theorem flatten_eq
    (cut : Lines mark input lines) :
    lines.flatten = input := by
  induction cut with
  | nil =>
      rfl
  | last =>
      simp
  | line _ _ inductionHypothesis =>
      simp [inductionHypothesis]

/-- Every input has lines. -/
theorem exists_lines
    (mark : Letter)
    (input : List Letter) :
    ∃ lines, Lines mark input lines := by
  induction input with
  | nil =>
      exact ⟨[], .nil⟩
  | cons letter input inductionHypothesis =>
      obtain ⟨lines, cut⟩ := inductionHypothesis
      by_cases same : letter = mark
      · subst same
        exact ⟨[letter] :: lines, .line List.not_mem_nil cut⟩
      · have notIn {body : List Letter} (notInBody : mark ∉ body) : mark ∉ letter :: body := by
          rw [List.mem_cons, not_or]
          exact ⟨Ne.symm same, notInBody⟩
        cases cut with
        | nil =>
            exact ⟨_, .last (List.cons_ne_nil _ _) (notIn List.not_mem_nil)⟩
        | last _ notInBody =>
            exact ⟨_, .last (List.cons_ne_nil _ _) (notIn notInBody)⟩
        | line notInBody later =>
            exact ⟨_, .line (notIn notInBody) later⟩

/-- Every line is the only one of itself. -/
theorem single_of_mem
    (cut : Lines mark input lines)
    {line : List Letter}
    (member : line ∈ lines) :
    Lines mark line [line] := by
  induction cut with
  | nil =>
      cases member
  | last someBody notInBody =>
      obtain rfl := List.mem_singleton.mp member
      exact .last someBody notInBody
  | line notInBody _ inductionHypothesis =>
      rcases List.mem_cons.mp member with rfl | inLater
      · exact .line notInBody .nil
      · exact inductionHypothesis inLater

end Lines

end PinkyLex
