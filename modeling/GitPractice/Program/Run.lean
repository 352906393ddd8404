import GitPractice.Lesson.Bundled
import GitPractice.Lesson.Document
import GitPractice.Program.Config
import GitPractice.Program.Host
import GitPractice.Program.Input
import GitPractice.Program.Options
import GitPractice.Session.Basic

/-!
# The program

The program finds its settings and lessons, opens a session, perhaps in a saved repository, takes it
through the input, and perhaps saves the repository in the end. What the machine has to offer is
given by a `Host` and by the `Surroundings`, so that the whole program is a function of them.
-/

namespace GitPractice.Program

open Text (joinWith hasInfix)

/-! ## Failures -/

/-- What went wrong, and what caused it, the nearest cause first. -/
structure Failure where
  top : String
  causes : List String
  deriving DecidableEq, Repr

namespace Failure

/-- The causes from number `n` on, each as a paragraph. -/
def causeText (n : Nat) : List String → String
  | [] => ""
  | c :: r => "\n\nCaused by:\n    " ++ toString n ++ ": " ++ c ++ causeText (n + 1) r

/-- The failure with its causes, unless all of them are told in it anyway. -/
def render (f : Failure) : String :=
  if f.causes.all fun c => hasInfix c.toList f.top.toList then f.top
  else f.top ++ causeText 0 f.causes

/-- The causes that a faulty snapshot stands for. -/
def ofSnapshot (top : String) : SnapshotError → Failure
  | .unreadable reason => ⟨top, [(SnapshotError.unreadable reason).message, reason]⟩
  | e => ⟨top, [e.message]⟩

end Failure

/-! ## Surroundings -/

/-- The variables of the environment, whether input and output are terminals, and what a session
that is not repeatable draws its ids and times from. -/
structure Surroundings where
  environment : List (String × String)
  terminalInput : Bool
  terminalOutput : Bool
  ids : Fingerprints
  now : UInt64

namespace Surroundings

variable (s : Surroundings)

/-- The value of a variable that is set and not empty. -/
def value? (name : String) : Option String := (s.environment.lookup name).filter (· != "")

def isOn (name : String) : Bool := s.environment.lookup name = some "1"

/-- The directory of settings: a variable's, if that is a whole path, or one in the home
directory. -/
def configDir? : Option String :=
  match (s.value? "XDG_CONFIG_HOME").filter fun d => d.toList.head? = some '/' with
  | some dir => some dir
  | none => (s.value? "HOME").map (joinPath · ".config")

/-- The settings file, and whether it has to be there. -/
def configPath? (o : Options) : Option (String × Bool) :=
  match o.value? .config, s.value? "GG_CONFIG" with
  | some path, _ => some (path, true)
  | none, some path => some (path, true)
  | none, none => s.configDir?.map fun dir => (joinPath (joinPath dir "gg") "config.toml", false)

/-- Colours are for terminals, unless they are forbidden or asked for. -/
def palette : Palette :=
  ⟨!s.isOn "NO_COLOR" && (s.isOn "COLOR" || s.terminalOutput)⟩

end Surroundings

section

variable {m : Type → Type} [Monad m] [Regex.SizeLimit] (host : Host m) (s : Surroundings)

/-! ## Settings and lessons -/

/-- The settings in the file at a path. -/
def loadConfig (path : String) (required : Bool) : m (Except Failure Config) := do
  match ← host.read path with
  | .ok text =>
    match Config.read? text with
    | some c => return .ok c
    | none => return .error ⟨"invalid config " ++ path ++ ": TOML parse error", []⟩
  | .error e =>
    if e = .notFound && !required then return .ok .default
    else return .error ⟨"failed to read config " ++ path ++ ": " ++ e.message, [e.message]⟩

def findConfig (o : Options) : m (Except Failure Config) :=
  match s.configPath? o with
  | some (path, required) => loadConfig host path required
  | none => return .ok .default

/-- The directory of further lessons. -/
def lessonsDir? (o : Options) (c : Config) : Option String :=
  o.value? .lessonsDir <|> s.value? "GG_LESSONS_DIR" <|> c.lessonsDir

/-- The lessons in the files of these names in a directory; files that hold none are passed over. -/
def loadFiles (dir : String) : List String → m (List Lesson)
  | [] => return []
  | name :: rest => do
    let path := joinPath dir name
    let text ← host.read path
    let later ← loadFiles dir rest
    match Lesson.ofFile path text.toOption with
    | .ok l => return l :: later
    | .error _ => return later

/-- The lessons in a directory in the order of their files' names. A directory that is not there
has none. -/
def loadDirectory (dir : String) : m (Except Failure (List Lesson)) := do
  if ← host.isThere dir then
    match ← host.list dir with
    | .ok names =>
      let files := names.filter fun n => (Format.ofPath? n).isSome
      return .ok (← loadFiles host dir (sortedNames files))
    | .error e => return .error ⟨"failed to read lessons from " ++ dir, [e.message]⟩
  else return .ok []

/-- The bundled lessons and after them those of the directory. -/
def loadCourse (o : Options) (c : Config) : m (Except Failure Course) := do
  let bundled := if o.has .noBuiltin then Course.empty else Course.empty.addAll Bundled.lessons
  match lessonsDir? s o c with
  | none => return .ok bundled
  | some dir => return (← loadDirectory host dir).map bundled.addAll

/-! ## The session -/

/-- The session with the snapshot in the file at a path. -/
def loadSnapshot (path : String) (session : Session) : m (Except Failure Session) := do
  let unread (e : SnapshotError) := Failure.ofSnapshot ("failed to load snapshot " ++ path) e
  match ← host.read path with
  | .error e => return .error (unread (.unreadable e.message))
  | .ok text =>
    match Snapshot.ofJson? text with
    | none => return .error (unread .malformed)
    | some snapshot =>
      match session.repo.importState snapshot with
      | (_, .error e) => return .error (Failure.ofSnapshot ("invalid snapshot " ++ path) e)
      | (repo, .ok ()) => return .ok { session with repo := repo }

/-- The session that the options ask for. -/
def openSession (o : Options) : m (Except Failure Session) := do
  match ← findConfig host s o with
  | .error f => return .error f
  | .ok config =>
    match ← loadCourse host s o config with
    | .error f => return .error f
    | .ok course =>
      let settings : Settings :=
        ⟨config.repoConfig, o.has .deterministic || s.isOn "GG_DETERMINISTIC"⟩
      let session :=
        { Session.start settings s.ids s.now course s.palette with interactive := s.terminalInput }
      match o.value? .load with
      | some path => loadSnapshot host path session
      | none => return .ok session

/-- What is written before the first line is read. -/
def opening (o : Options) (session : Session) : Transcript Session :=
  match o.value? .lesson with
  | some key => session.welcome.andThen (Session.startLesson · key)
  | none => session.welcome

/-- Saves the repository if the options ask for it. -/
def closing (o : Options) (session : Session) : m (Except Failure Unit) := do
  match o.value? .save with
  | none => return .ok ()
  | some path =>
    match ← host.save path session.repo.exportState.toJson with
    | .ok () => return .ok ()
    | .error e =>
      let top := "failed to save snapshot " ++ path
      return .error (Failure.ofSnapshot top (.unreadable e.message))

/-! ## A whole run -/

/-- What the program leaves behind: its exit status and what it wrote. -/
structure Outcome where
  status : Nat
  output : String
  error : String
  deriving DecidableEq, Repr

namespace Outcome

def done (output : String) : Outcome := ⟨0, output, ""⟩

/-- A failure after some output. -/
def failed (output : String) (f : Failure) : Outcome := ⟨1, output, "Error: " ++ f.render ++ "\n"⟩

/-- The arguments were wrong. -/
def rejected : Outcome := ⟨2, "", ""⟩

end Outcome

/-- A line of input was no text. -/
def notTextFailure : Failure := ⟨FileError.notText.message, []⟩

/-- A session from its opening to its end, if it has one. -/
def runSession (o : Options) (input : List UInt8) : m (Option Outcome) := do
  match ← openSession host s o with
  | .error f => return some (.failed "" f)
  | .ok session =>
    let opened := opening o session
    let (ran, whole) := opened.final.run (inputLines input)
    let output := opened.text ++ ran.text
    if ran.endless then return none
    else if whole then
      match ← closing host o ran.final with
      | .ok () => return some (.done output)
      | .error f => return some (.failed output f)
    else return some (.failed output notTextFailure)

/-- The program on its arguments and its input; there is no outcome if it never ends. -/
def run (args : List String) (input : List UInt8) : m (Option Outcome) :=
  match Invocation.ofArgs args with
  | .session o => runSession host s o input
  | .help => return some (.done helpText)
  | .version => return some (.done versionText)
  | .rejected => return some .rejected

end

end GitPractice.Program
