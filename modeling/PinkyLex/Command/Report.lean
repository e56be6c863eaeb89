import PinkyLex.Setup.Error

namespace PinkyLex.Command

/-!
# Reports of failure

A run that fails says what failed and, below that, what each failure goes back
to.  Several causes are numbered.  A cause of several lines keeps its indent.
-/

/-- What failed, and what it goes back to, the nearest cause first. -/
structure Report where
  message : String
  causes : List String := []
  deriving Repr, DecidableEq

namespace Report

/-- A text with every line after the first indented. -/
def indented (indent : Nat) (text : String) : String :=
  String.ofList (text.toList.flatMap fun character =>
    if character = '\n' then
      '\n' :: List.replicate indent ' '
    else
      [character])

/-- A number with its cause, the number aligned to the right. -/
def numbered (number : Nat) (cause : String) : String :=
  let digits := toString number
  String.ofList (List.replicate (5 - digits.length) ' ') ++ digits ++ ": " ++ indented 7 cause

/-- The lines about the causes. -/
def causeLines : List String → List String
  | [] =>
      []
  | [cause] =>
      ["    " ++ indented 4 cause]
  | causes =>
      causes.zipIdx.map fun (cause, number) => numbered number cause

/-- The text of a report. -/
def toText (report : Report) : String :=
  let head := "Error: " ++ report.message ++ "\n"
  match report.causes with
  | [] => head
  | causes => head ++ "\nCaused by:\n" ++ String.join (causeLines causes |>.map (· ++ "\n"))

theorem toText_of_cause (message cause : String) :
    toText { message := message, causes := [cause] } =
      "Error: " ++ message ++ "\n\nCaused by:\n    " ++ indented 4 cause ++ "\n" := by
  simp only [toText, causeLines, List.map_cons, List.map_nil, String.join_cons, String.join_nil,
    String.append_empty, String.append_assoc]
  rfl

theorem toText_of_causes (message first second : String) :
    toText { message := message, causes := [first, second] } =
      "Error: " ++ message ++ "\n\nCaused by:\n    0: " ++ indented 7 first ++ "\n    1: " ++
        indented 7 second ++ "\n" := by
  have numbers :
      numbered 0 first = "    0: " ++ indented 7 first ∧
        numbered 1 second = "    1: " ++ indented 7 second :=
    ⟨rfl, rfl⟩
  simp only [toText, causeLines, List.zipIdx_cons, List.zipIdx_nil, List.map_cons, List.map_nil,
    String.join_cons, String.join_nil, String.append_empty, String.append_assoc, numbers]
  rfl

/-- A setup error as a report of its own. -/
def ofSetupError (error : SetupError) : Report where
  message := error.message
  causes := error.causes

/-- A setup error as the cause of a failure. -/
def ofCause (message : String) (error : SetupError) : Report where
  message := message
  causes := error.message :: error.causes

/-- A file error as the cause of a failure. -/
def ofFileError (message : String) (error : FileError) : Report where
  message := message
  causes := [error.message]

end Report

end PinkyLex.Command
