import GitPractice.Text.Join

/-!
# Options

The arguments of the program are read from left to right. The first one that is wrong, or that asks
for help or the version, decides. An option takes the argument after it as its value unless that
begins with a hyphen, or a value that is attached to it. No option is given twice, and there are no
other arguments.
-/

namespace GitPractice.Program

open Text (cutAt dropFront?)

/-- An option with a value. -/
inductive Setting where
  | lesson
  | lessonsDir
  | load
  | save
  | config
  deriving DecidableEq, Repr

inductive Toggle where
  | noBuiltin
  | deterministic
  deriving DecidableEq, Repr

inductive OptionKind where
  | setting (s : Setting)
  | toggle (t : Toggle)
  | help
  | version
  deriving DecidableEq, Repr

def longNames : List (String × OptionKind) :=
  [("lesson", .setting .lesson), ("lessons-dir", .setting .lessonsDir),
    ("no-builtin", .toggle .noBuiltin), ("load", .setting .load), ("save", .setting .save),
    ("deterministic", .toggle .deterministic), ("config", .setting .config), ("help", .help),
    ("version", .version)]

def shortNames : List (Char × OptionKind) :=
  [('l', .setting .lesson), ('h', .help), ('V', .version)]

/-- The options given so far. -/
structure Options where
  settings : List (Setting × String)
  toggles : List Toggle
  deriving DecidableEq, Repr

/-- What the arguments ask for. -/
inductive Invocation where
  | session (o : Options)
  | help
  | version
  | rejected
  deriving DecidableEq, Repr

namespace Options

def none : Options := ⟨[], []⟩

def value? (o : Options) (s : Setting) : Option String := o.settings.lookup s

def has (o : Options) (t : Toggle) : Bool := o.toggles.contains t

/-- A path is not empty. -/
def allows (s : Setting) (value : String) : Bool := s = .lesson || value != ""

/-- Adds a value, unless there is one or it is not allowed. -/
def set? (o : Options) (s : Setting) (value : String) : Option Options :=
  if (o.value? s).isSome || !allows s value then .none
  else some { o with settings := o.settings ++ [(s, value)] }

def turnOn? (o : Options) (t : Toggle) : Option Options :=
  if o.has t then .none else some { o with toggles := o.toggles ++ [t] }

end Options

/-- What one argument leads to: options, a setting that waits for its value, or an end. -/
inductive Reading where
  | more (o : Options)
  | awaiting (o : Options) (s : Setting)
  | done (i : Invocation)

namespace Reading

def ofOptions : Option Options → Reading
  | some o => more o
  | none => done .rejected

/-- An option, with the value that is attached to it, if there is one. -/
def ofKind (o : Options) (attached : Option String) : OptionKind → Reading
  | .setting s =>
    match attached with
    | some v => ofOptions (o.set? s v)
    | none => awaiting o s
  | .toggle t => if attached.isSome then done .rejected else ofOptions (o.turnOn? t)
  | .help => done (if attached.isSome then .rejected else .help)
  | .version => done (if attached.isSome then .rejected else .version)

/-- An option by its long name, and perhaps its value after an equals sign. -/
def ofLong (o : Options) (cs : List Char) : Reading :=
  let (name, attached) := match cutAt ['='] cs with
    | some (name, value) => (name, some (String.ofList value))
    | none => (cs, none)
  match longNames.lookup (String.ofList name) with
  | some kind => ofKind o attached kind
  | none => done .rejected

/-- The value written right after a short option, with or without an equals sign. -/
def shortValue : List Char → Option String
  | [] => none
  | '=' :: r => some (String.ofList r)
  | cs => some (String.ofList cs)

/-- Short options in one argument. -/
def ofShort (o : Options) : List Char → Reading
  | [] => more o
  | c :: r =>
    match shortNames.lookup c with
    | some (.setting s) => ofKind o (shortValue r) (.setting s)
    | some kind =>
      match ofKind o none kind with
      | more o' => ofShort o' r
      | end_ => end_
    | none => done .rejected

end Reading

/-- The form of an argument. -/
inductive Argument where
  | stop
  | long (cs : List Char)
  | short (cs : List Char)
  | plain
  deriving DecidableEq, Repr

def argumentOf (s : String) : Argument :=
  match s.toList with
  | ['-', '-'] => .stop
  | '-' :: '-' :: r => .long r
  | '-' :: c :: r => .short (c :: r)
  | _ => .plain

/-- Reads the arguments, the first of which may be the value of a setting. Two hyphens end the
options. -/
def readOptions (o : Options) (pending : Option Setting) : List String → Invocation
  | [] => if pending.isSome then .rejected else .session o
  | arg :: rest =>
    match argumentOf arg, pending with
    | .plain, some s =>
      match o.set? s arg with
      | some o' => readOptions o' none rest
      | none => .rejected
    | .plain, none | .long _, some _ | .short _, some _ | .stop, some _ => .rejected
    | .stop, none => if rest.isEmpty then .session o else .rejected
    | .long cs, none =>
      match Reading.ofLong o cs with
      | .more o' => readOptions o' none rest
      | .awaiting o' s => readOptions o' (some s) rest
      | .done i => i
    | .short cs, none =>
      match Reading.ofShort o cs with
      | .more o' => readOptions o' none rest
      | .awaiting o' s => readOptions o' (some s) rest
      | .done i => i

/-- What the arguments ask for. -/
def Invocation.ofArgs (args : List String) : Invocation := readOptions .none none args

def versionText : String := "gg 0.1.0\n"

def helpText : String :=
  "Practice git and GitHub flow against a simulated repository\n\nUsage: gg [OPTIONS]\n\nOptions:\n"
    ++ "  -l, --lesson <LESSON>    Start this lesson right away (number or id)\n"
    ++ "      --lessons-dir <DIR>  Load additional lessons from this directory\n"
    ++ "      --no-builtin         Do not load the bundled lessons\n"
    ++ "      --load <FILE>        Start from a saved repository snapshot\n"
    ++ "      --save <FILE>        Save the repository snapshot on exit\n"
    ++ "      --deterministic      Use sequential commit ids and a fixed clock\n"
    ++ "      --config <FILE>      "
    ++ "Config file [default: $GG_CONFIG or <config dir>/gg/config.toml]\n"
    ++ "  -h, --help               Print help\n"
    ++ "  -V, --version            Print version\n"

end GitPractice.Program
