import GitPractice.Lesson.Basic

/-!
# Taking lessons

A `Course` holds the lessons in order, which of them is being taken and at which step, how often the
step was tried, and which lessons are completed. It is idle until a lesson starts. A step's setup is
done in the repository when the step is entered; past the last step the lesson is completed and the
course is idle again. The attempts at a step are counted in 32 bits.
-/

namespace GitPractice

structure Active where
  lesson : String
  step : Nat
  deriving DecidableEq, Repr

structure Course where
  lessons : OrderedMap String Lesson
  active : Option Active
  completed : List String
  attempts : UInt32
  deriving DecidableEq

/-- How an answer to a step was judged. `advances` says that the next step is to follow. -/
structure Judgement where
  success : Bool
  message : String
  hints : List String
  advances : Bool
  deriving DecidableEq, Repr

namespace Judgement

def pass (message : String) (advances : Bool) : Judgement := ⟨true, message, [], advances⟩

def fail (message : String) (hints : List String) : Judgement := ⟨false, message, hints, false⟩

end Judgement

namespace Course

def empty : Course := ⟨.empty, none, [], 0⟩

/-- Adds a lesson; one with the same id is replaced in its place. -/
def add (c : Course) (l : Lesson) : Course := { c with lessons := c.lessons.insert l.id l }

def addAll (c : Course) (ls : List Lesson) : Course := ls.foldl add c

/-- The lesson with a number, counted from one, or with an id. A number is never taken as an id. -/
def find? (c : Course) (key : String) : Option Lesson :=
  match Text.readNat? UInt64.size key.toList with
  | some 0 => none
  | some (n + 1) => c.lessons.values[n]?
  | none => c.lessons.get? key

/-! ## Where the learner is -/

def isActive (c : Course) : Bool := c.active.isSome

def currentLesson? (c : Course) : Option Lesson :=
  c.active.bind fun a => c.lessons.get? a.lesson

def currentStep? (c : Course) : Option Step :=
  c.active.bind fun a => (c.lessons.get? a.lesson).bind fun l => l.steps[a.step]?

/-- The number of the step, counted from one, and how many there are. -/
def progress? (c : Course) : Option (Nat × Nat) :=
  c.active.bind fun a => (c.lessons.get? a.lesson).map fun l => (a.step + 1, l.steps.length)

/-- The current step is of the given kind. -/
def isOn (c : Course) (kind : StepKind) : Bool := c.currentStep?.any (·.kind = kind)

def isCompleted (c : Course) (id : String) : Bool := c.completed.contains id

/-- The first lesson that is not completed. -/
def next? (c : Course) : Option Lesson := c.lessons.values.find? fun l => !c.isCompleted l.id

/-- The lessons to be completed before the one with this id, less those that are. -/
def missing (c : Course) (id : String) : List String :=
  match c.lessons.get? id with
  | some l => l.prerequisites.filter fun p => !c.isCompleted p
  | none => []

/-! ## Moving on -/

/-- The active lesson is completed and the course idle. -/
def complete (c : Course) : Course :=
  match c.active with
  | some a =>
    { c with
      active := none
      completed := if a.lesson ∈ c.completed then c.completed else c.completed ++ [a.lesson] }
  | none => c

/-- Does the setup of the step that has been reached, or completes the lesson. -/
def enter (c : Course) (r : Repo) : Course × Repo :=
  match c.currentLesson? with
  | none => (c, r)
  | some _ =>
    match c.currentStep? with
    | some s => (c, r.editAll s.setup)
    | none => (c.complete, r)

/-- Brings the repository into the state that a lesson begins in, if it has one of its own. -/
def seed (l : Lesson) (r : Repo) : Repo × Except SnapshotError Unit :=
  match l.initial with
  | none => (r, .ok ())
  | some s => r.importState s

/-- Begins the lesson with this id, and answers its first step. -/
def start (c : Course) (id : String) (r : Repo) :
    (Course × Repo) × Except LessonError (Option Step) :=
  match c.lessons.get? id with
  | none => ((c, r), .error (.notFound id))
  | some l =>
    match seed l r with
    | (r', .error e) => ((c, r'), .error (.badSnapshot id e))
    | (r', .ok ()) =>
      let begun := { c with active := some ⟨id, 0⟩, attempts := 0 }.enter r'
      (begun, .ok begun.1.currentStep?)

/-- Leaves the current step for the next one. -/
def advance (c : Course) (r : Repo) : Course × Repo :=
  match c.active with
  | some a => { c with active := some { a with step := a.step + 1 }, attempts := 0 }.enter r
  | none => (c, r)

/-! ## Answers and hints -/

/-- The attempt from which on the learner is told of hints. -/
def nudgeAttempt : UInt32 := 3

/-- The attempt from which on the answer is told. -/
def revealAttempt : UInt32 := 5

def isAnswer [Regex.SizeLimit] (s : Step) (input : String) : Bool :=
  s.accepted.any (Lesson.commandsMatch input) || s.pattern.any (Lesson.patternMatches · input)

def beginsWith (start : String) (cs : List Char) : Bool :=
  (Text.dropFront? start.toList cs).isSome

/-- What is said to a wrong answer at the given attempt. -/
def feedback (s : Step) (attempt : UInt32) (input : String) : List String :=
  let typed := (Text.trim input).toList
  let first :=
    if typed.isEmpty then ["Please type a command."]
    else if !beginsWith "git" typed && !beginsWith "gh" typed then
      ["Git commands start with 'git' or 'gh'."]
    else s.hints.take 2
  let nudge := if nudgeAttempt ≤ attempt then ["Type 'hint' for more help."] else []
  let reveal := if revealAttempt ≤ attempt then s.accepted.head?.toList.map ("Try: " ++ ·) else []
  first ++ nudge ++ reveal

/-- Judges an answer to the current step, which counts as an attempt. -/
def judge [Regex.SizeLimit] (c : Course) (input : String) : Course × Judgement :=
  match c.currentStep? with
  | none => (c, .fail "No active lesson step" [])
  | some s =>
    ({ c with attempts := c.attempts + 1 },
      match s.kind with
      | .explanation => .pass "" true
      | .freePractice => .pass "" false
      | .command =>
        if isAnswer s input then .pass s.successMessage true
        else .fail "That's not quite right." (feedback s (c.attempts + 1) input))

/-- The first words of an answer. -/
def firstWords (answer : String) : String :=
  match Text.words answer with
  | a :: b :: _ :: _ => "The command starts with: " ++ a ++ " " ++ b ++ " ..."
  | a :: _ => "The command starts with: " ++ a ++ " ..."
  | [] => "Keep trying!"

/-- The hint for a step at the given attempt; later attempts get later hints. -/
def stepHint (s : Step) (attempt : UInt32) : String :=
  if s.kind = .explanation then "Press Enter to continue."
  else
    match s.hints[min (attempt.toNat - 1) (s.hints.length - 1)]?, s.accepted with
    | some hint, _ => hint
    | none, answer :: _ => firstWords answer
    | none, [] => "Keep trying!"

def hint (c : Course) : String :=
  match c.currentStep? with
  | some s => stepHint s c.attempts
  | none => "No active lesson step."

end Course

end GitPractice
