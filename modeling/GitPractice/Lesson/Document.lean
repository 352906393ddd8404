import GitPractice.Lesson.Basic
import GitPractice.Repo.SnapshotRecord
import GitPractice.Toml.Reader

/-!
# Lessons as documents

The fields of a lesson and of its steps, some of which have an older name too. A lesson that is read
from a file gets ids for its steps and is checked.
-/

namespace GitPractice

open Record

def StepKind.names : List (String × StepKind) :=
  [("explanation", .explanation), ("command", .command), ("free_practice", .freePractice)]

def Step.ofDatum (f : Format) (d : Datum) : Option Step := do
  match ← fields f [["id", "step_id"], ["type", "step_type"], ["instruction"],
      ["accepted", "expected_commands"], ["pattern", "command_pattern"], ["success_message"],
      ["hints", "failure_hints"], ["setup_changes"]] d with
  | [id, kind, instruction, accepted, pattern, success, hints, setup] =>
    some ⟨← orElse "" text id, ← orElse .command (choice f StepKind.names) kind,
      ← orElse "" text instruction, ← orElse [] (list text) accepted, ← optional text pattern,
      ← orElse Step.praise text success, ← orElse [] (list text) hints,
      ← orElse [] (list text) setup⟩
  | _ => none

/-- The document that a text in the format writes. -/
def Format.read : Format → String → Option Datum
  | .toml => Toml.read
  | .json => Json.read

namespace Lesson

def ofDatum (f : Format) (d : Datum) : Option Lesson := do
  match ← fields f [["id", "lesson_id"], ["title"], ["description"], ["objectives"],
      ["steps", "step"], ["prerequisites", "required_lessons"], ["initial", "initial_state"]]
      d with
  | [id, title, description, objectives, steps, prerequisites, initial] =>
    some ⟨← required text id, ← orElse "" text title, ← orElse "" text description,
      ← orElse [] (list text) objectives, ← orElse [] (list (Step.ofDatum f)) steps,
      ← orElse [] (list text) prerequisites, ← optional (Snapshot.ofDatum f) initial⟩
  | _ => none

/-- The lesson that a text writes, as it stands there. -/
def decode? (f : Format) (s : String) : Option Lesson := (f.read s).bind (ofDatum f)

/-- The lesson that a text writes, with ids for its steps, if it has no fault. -/
def read [Regex.SizeLimit] (f : Format) (s : String) : Except LessonError Lesson :=
  match decode? f s with
  | none => .error (.malformed f)
  | some l =>
    match l.withStepIds.fault? with
    | some e => .error e
    | none => .ok l.withStepIds

end Lesson

/-! ## Lesson files -/

/-- The last part of a path that names a file. -/
def fileName? (path : String) : Option (List Char) :=
  match ((Text.piecesAt '/' path.toList).filter fun p => p != [] && p != ['.']).getLast? with
  | some name => if name == ['.', '.'] then none else some name
  | none => none

/-- What stands after the last dot of a file name, if anything stands before it. -/
def extension? (path : String) : Option (List Char) :=
  match fileName? path with
  | none => none
  | some name =>
    match name.reverse.span (· != '.') with
    | (last, '.' :: _ :: _) => some last.reverse
    | _ => none

/-- The format of a lesson file, by its extension. -/
def Format.ofPath? (path : String) : Option Format :=
  match (extension? path).map String.ofList with
  | some "toml" => some .toml
  | some "json" => some .json
  | _ => none

/-- The lesson in the file at a path, given the file's text if there is such a file. -/
def Lesson.ofFile [Regex.SizeLimit] (path : String) (text : Option String) :
    Except LessonError Lesson :=
  match Format.ofPath? path, text with
  | none, _ => .error (.unsupported path)
  | some _, none => .error .unreadable
  | some f, some s => Lesson.read f s

end GitPractice
