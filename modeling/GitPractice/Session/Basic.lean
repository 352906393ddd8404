import GitPractice.Console.Run
import GitPractice.Session.Panel
import GitPractice.Session.Transcript

/-!
# Sessions

A session reads lines. A line is a word of the session itself (`Keyword`), an answer to the current
step, or a command for the repository. On an explanation every line leads on, but those that quit.
On a command step only an accepted line is run, once, and the lesson moves on; a line that is not
accepted leaves the repository alone. Every lesson starts in a fresh repository. A session is stuck
on a command that does not return.
-/

namespace GitPractice

open Text (trim words lower lowerAscii joinWith)

/-- How fresh repositories are made. In a repeatable session they are all alike. -/
structure Settings where
  config : RepoConfig
  repeatable : Bool
  deriving DecidableEq, Repr

structure Session where
  settings : Settings
  repo : Repo
  course : Course
  palette : Palette
  interactive : Bool
  running : Bool

/-- The words that a session takes for itself. -/
inductive Keyword where
  | quit
  | lessons
  | lesson
  | hint
  | skip
  | reset
  | status
  | tree
  | help
  deriving DecidableEq, Repr

namespace Keyword

def names : List (String × Keyword) :=
  [("quit", .quit), ("exit", .quit), ("lessons", .lessons), ("lesson", .lesson), ("hint", .hint),
    ("skip", .skip), ("reset", .reset), ("status", .status), ("tree", .tree), ("help", .help)]

/-- The keyword that a word spells in whatever case. -/
def ofWord? (word : String) : Option Keyword := names.lookup (lower word)

end Keyword

namespace Settings

/-- A fresh repository. Where it need not be repeatable, it goes on drawing from the ids of the
repository before it and has its clock. -/
def fresh (s : Settings) (before : Repo) : Repo :=
  if s.repeatable then .deterministic s.config else .fresh s.config before.ids before.now

end Settings

namespace Session

open Transcript

/-- A session in a fresh repository, which draws from `ids` at the time `now` unless it is to be
repeatable. -/
def start (settings : Settings) (ids : Fingerprints) (now : UInt64) (course : Course)
    (palette : Palette) : Session where
  settings := settings
  repo :=
    if settings.repeatable then .deterministic settings.config
    else .fresh settings.config ids now
  course := course
  palette := palette
  interactive := false
  running := true

def freshRepo (s : Session) : Repo := s.settings.fresh s.repo

/-! ## Announcements -/

/-- What greets the learner. -/
def welcomeLines (s : Session) : List String :=
  [s.palette.header "gg - git and GitHub flow simulator",
    s.palette.context "Type 'help' for commands or 'lessons' to browse lessons.",
    match s.course.lessons.size with
    | 0 => s.palette.yellow "No lessons found. You can still practice git commands freely."
    | 1 => "Loaded 1 lesson."
    | n => "Loaded " ++ toString n ++ " lessons."]

def welcome (s : Session) : Transcript Session := lines s.welcomeLines s

/-- An empty line and the current step. -/
def stepLines (s : Session) : List String :=
  match s.course.currentStep?, s.course.progress? with
  | some step, some (number, count) => ["", Panel.step s.palette step number count]
  | _, _ => []

/-- The place of a lesson in the list, counted from one. -/
def numberOf (s : Session) (id : String) : Nat :=
  match s.course.lessons.values.findIdx? (·.id = id) with
  | some i => i + 1
  | none => 0

/-- What is said when the lesson with this id is completed. -/
def completeLines (s : Session) (id : String) : List String :=
  let title := ((s.course.lessons.get? id).map Lesson.title).getD id
  ["", s.palette.green ("Lesson complete: " ++ title),
    match s.course.next? with
    | none => s.palette.green "All lessons complete! You're ready for real GitHub flow."
    | some next => s.palette.context
        ("Type 'lesson " ++ toString (s.numberOf next.id) ++ "' to continue with " ++ next.title
          ++ ".")]

/-- The step that was reached, or that the lesson is completed. -/
def announce (s : Session) (id : String) : Transcript Session :=
  if s.course.currentStep?.isSome then lines s.stepLines s else lines (s.completeLines id) s

/-! ## Lessons -/

/-- Moves on in the active lesson. -/
def advance (s : Session) : Transcript Session :=
  match s.course.currentLesson? with
  | none => silent s
  | some l =>
    let (course, repo) := s.course.advance s.repo
    { s with course := course, repo := repo }.announce l.id

/-- What is said at the start of a lesson of which the lessons in `missing` should come first. -/
def introLines (s : Session) (l : Lesson) (missing : List String) : List String :=
  Panel.intro s.palette l ::
    if missing.isEmpty then []
    else [s.palette.yellow ("Recommended first: " ++ joinWith ", " missing)]

/-- Starts the lesson with a number or an id, in a fresh repository. -/
def startLesson (s : Session) (key : String) : Transcript Session :=
  match s.course.find? key with
  | none => line (s.palette.red ("Lesson not found: " ++ key)) s
  | some l =>
    match s.course.start l.id s.freshRepo with
    | ((course, _), .error e) =>
      line (s.palette.red ("Failed to start lesson: " ++ e.message)) { s with course := course }
    | ((course, repo), .ok _) =>
      let begun := { s with course := course, repo := repo }
      (lines (begun.introLines l (s.course.missing l.id)) begun).andThen (announce · l.id)

/-- Shows the active lesson again. -/
def showLesson (s : Session) : Transcript Session :=
  match s.course.currentLesson? with
  | some l => lines (Panel.intro s.palette l :: s.stepLines) s
  | none => line (s.palette.context "Usage: lesson <number>") s

/-- Starts the active lesson, or the repository, afresh. -/
def reset (s : Session) : Transcript Session :=
  match s.course.currentLesson? with
  | some l => (line (s.palette.yellow "Restarting lesson.") s).andThen (startLesson · l.id)
  | none =>
    line (s.palette.yellow "Repository reset to a fresh state.") { s with repo := s.freshRepo }

def skip (s : Session) : Transcript Session :=
  if s.course.isActive then (line (s.palette.yellow "Skipped current step.") s).andThen advance
  else line (s.palette.yellow "No active lesson to skip.") s

/-! ## Commands -/

/-- A reply as a session shows it. -/
def replyLines (p : Palette) (r : Reply) : List String :=
  r.shownOutput
    ++ (if r.message = "" then [] else [if r.success then r.message else p.red r.message])
    ++ r.hints.map fun h => p.context ("hint: " ++ h)

/-- Runs a command in the repository. -/
def execute (s : Session) (input : String) : Transcript Session :=
  match Console.run s.repo input with
  | (repo, .error e) => line (s.palette.red (e.diagnostic input)) { s with repo := repo }
  | (repo, .ok none) => stuck { s with repo := repo }
  | (repo, .ok (some reply)) =>
    if reply.isExit then silent { s with repo := repo, running := false }
    else lines (replyLines s.palette reply) { s with repo := repo }

/-- What is said to a wrong answer. -/
def rejectLines (p : Palette) (j : Judgement) : List String :=
  p.red ("✗ " ++ j.message) :: j.hints.map fun h => "  " ++ p.context ("→ " ++ h)

/-- Takes a line as an answer to a command step, or runs it where there is none. -/
def attempt [Regex.SizeLimit] (s : Session) (input : String) : Transcript Session :=
  if s.course.isOn .command then
    let (course, judgement) := s.course.judge input
    let s := { s with course := course }
    if judgement.success then
      ((s.execute input).andThen (line (s.palette.green ("✓ " ++ judgement.message)))).andThen
        fun s => if judgement.advances then s.advance else silent s
    else lines (rejectLines s.palette judgement) s
  else s.execute input

/-! ## Lines -/

/-- The word that ends a session, whatever its case. -/
def isQuit (input : String) : Bool := lowerAscii input = "quit" || lowerAscii input = "exit"

/-- Does what a keyword asks for, given the words after it. -/
def obey (s : Session) (input : String) (args : List String) : Keyword → Transcript Session
  | .quit => silent { s with running := false }
  | .lessons => line (Panel.catalog s.palette s.course) s
  | .lesson =>
    match args with
    | key :: _ => s.startLesson key
    | [] => s.showLesson
  | .hint => line (s.palette.context ("Hint: " ++ s.course.hint)) s
  | .skip => s.skip
  | .reset => s.reset
  | .status => line (Panel.status s.palette s.repo.state) s
  | .tree => line (Panel.tree s.palette s.repo.state Panel.treeDepth) s
  | .help => s.execute input

/-- Handles a line on an explanation. -/
def proceed [Regex.SizeLimit] (s : Session) (input : String) : Transcript Session :=
  if isQuit input then silent { s with running := false }
  else { s with course := (s.course.judge input).1 }.advance

/-- Handles one line. -/
def handleLine [Regex.SizeLimit] (s : Session) (text : String) : Transcript Session :=
  let input := trim text
  if s.course.isOn .explanation then s.proceed input
  else
    match words input with
    | [] => silent s
    | word :: args =>
      match Keyword.ofWord? word with
      | some k => s.obey input args k
      | none => s.attempt input

/-- What invites the next line, if someone is there to read it. -/
def prompt (s : Session) : Transcript Session :=
  if !s.interactive then silent s
  else if s.course.isOn .explanation then say (s.palette.muted "Press Enter to continue... ") s
  else say ("(" ++ s.palette.yellow s.repo.state.head ++ ") $ ") s

def goodbye (s : Session) : Transcript Session := line "Goodbye! Happy coding!" s

/-- Reads lines until the session ends or there are no more. A line that is no text ends the run
without a word; the second part says whether there was one. A line that is never done with is the
last. -/
def run [Regex.SizeLimit] : Session → List (Option String) → Transcript Session × Bool
  | s, [] => (if s.running then s.prompt.andThen goodbye else s.goodbye, true)
  | s, text :: rest =>
    if !s.running then (s.goodbye, true)
    else
      match text with
      | none => (s.prompt, false)
      | some text =>
        let handled := s.prompt.andThen (handleLine · text)
        if handled.endless then (handled, true)
        else
          let (t, whole) := run handled.final rest
          (handled.andThen fun _ => t, whole)

end Session

end GitPractice
