import GitPractice.Lesson.Match
import GitPractice.Record
import GitPractice.Repo.Snapshot

/-!
# Lessons

A lesson is a list of steps, and perhaps a repository to begin with. A step explains something,
waits for a command, or leaves the learner to practise. `Lesson.fault?` finds what would go wrong in
the middle of a lesson: a step without an id of its own, a command step without an answer, a pattern
that is none, or an unsound snapshot.
-/

namespace GitPractice

inductive StepKind where
  | explanation
  | command
  | freePractice
  deriving DecidableEq, Repr

def StepKind.name : StepKind → String
  | .explanation => "explanation"
  | .command => "command"
  | .freePractice => "free_practice"

/-- A command step is answered by an accepted command or by what its pattern matches. The files in
`setup` are edited when the step begins. -/
structure Step where
  id : String
  kind : StepKind
  instruction : String
  accepted : List String
  pattern : Option String
  successMessage : String
  hints : List String
  setup : List String
  deriving DecidableEq, Repr

/-- What a right answer is met with where the lesson has no words of its own. -/
def Step.praise : String := "Correct!"

structure Lesson where
  id : String
  title : String
  description : String
  objectives : List String
  steps : List Step
  prerequisites : List String
  initial : Option Snapshot
  deriving DecidableEq

inductive LessonError where
  | malformed (format : Format)
  | unreadable
  | unsupported (path : String)
  | missingId (lesson : String)
  | duplicateStep (lesson step : String)
  | noAnswer (lesson step : String)
  | badPattern (lesson step : String)
  | badSnapshot (lesson : String) (cause : SnapshotError)
  | notFound (id : String)
  deriving DecidableEq, Repr

namespace LessonError

def invalid (lesson reason : String) : String := "invalid lesson '" ++ lesson ++ "': " ++ reason

def message : LessonError → String
  | .malformed .toml => "TOML parse error: malformed lesson"
  | .malformed .json => "JSON parse error: malformed lesson"
  | .unreadable => "IO error: unreadable lesson"
  | .unsupported path => "unsupported lesson file: " ++ path
  | .missingId lesson => invalid lesson "missing id"
  | .duplicateStep lesson step => invalid lesson ("duplicate step id '" ++ step ++ "'")
  | .noAnswer lesson step =>
    invalid lesson ("command step '" ++ step ++ "' has no accepted command or pattern")
  | .badPattern lesson step =>
    "invalid pattern in lesson '" ++ lesson ++ "' step '" ++ step ++ "'"
  | .badSnapshot lesson cause =>
    "invalid initial state in lesson '" ++ lesson ++ "': " ++ cause.message
  | .notFound id => "lesson '" ++ id ++ "' not found"

end LessonError

namespace Lesson

variable [Regex.SizeLimit]

/-- The first fault in the steps, of which those with the ids in `seen` came before. -/
def stepFault? (lesson : String) (seen : List String) : List Step → Option LessonError
  | [] => none
  | s :: r =>
    if s.id ∈ seen then some (.duplicateStep lesson s.id)
    else if s.kind = .command && s.accepted.isEmpty && s.pattern.isNone then
      some (.noAnswer lesson s.id)
    else if s.pattern.any (!isPattern ·) then some (.badPattern lesson s.id)
    else stepFault? lesson (s.id :: seen) r

def snapshotFault? (l : Lesson) : Option LessonError :=
  (l.initial.bind Snapshot.fault?).map (.badSnapshot l.id)

/-- The first fault of a lesson. -/
def fault? (l : Lesson) : Option LessonError :=
  if Text.isBlankText l.id then some (.missingId l.id)
  else stepFault? l.id [] l.steps <|> l.snapshotFault?

/-- The steps without an id, counted from `n`, are named by their places. -/
def nameSteps (n : Nat) : List Step → List Step
  | [] => []
  | s :: r =>
    { s with id := if s.id = "" then "step-" ++ toString n else s.id } :: nameSteps (n + 1) r

def withStepIds (l : Lesson) : Lesson := { l with steps := nameSteps 1 l.steps }

end Lesson

end GitPractice
