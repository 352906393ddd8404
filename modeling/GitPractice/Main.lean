import GitPractice.Program.PatternSize
import GitPractice.Program.Run
import Std.Time.DateTime.Timestamp

/-!
# The command line

The outer layer of the program: it asks the machine for files, variables, lines and the time, and
writes what the session answers.
-/

namespace GitPractice

open Program

/-! ## Files -/

def fileErrorOf : IO.Error → FileError
  | .noFileOrDirectory .. => .notFound
  | .inappropriateType _ code _ => if code = 21 then .isDirectory else .notDirectory
  | e => .other (toString e)

/-- The result of an action on files, or what went wrong. -/
def guarded {α : Type} (act : IO α) : IO (Except FileError α) := do
  try return .ok (← act)
  catch e => return .error (fileErrorOf e)

/-- The files of the machine. -/
def machineHost : Host IO where
  read path := do
    match ← guarded (IO.FS.readBinFile path) with
    | .ok bytes =>
      match String.fromUTF8? bytes with
      | some text => return .ok text
      | none => return .error .notText
    | .error e => return .error e
  isThere path := do ((← IO.currentDir) / path).pathExists
  list path := guarded do
    let entries ← ((← IO.currentDir) / path).readDir
    let files ← entries.filterM fun e => return !(← e.path.isDir)
    return (files.map (·.fileName)).toList
  save path text := guarded do
    let file := (← IO.currentDir) / path
    if let some dir := file.parent then IO.FS.createDirAll dir
    IO.FS.writeFile file text

/-! ## Surroundings -/

def knownVariables : List String :=
  ["GG_CONFIG", "GG_LESSONS_DIR", "GG_DETERMINISTIC", "NO_COLOR", "COLOR", "XDG_CONFIG_HOME",
    "HOME"]

def millisecondsNow : IO UInt64 := do
  return UInt64.ofNat (← Std.Time.Timestamp.now).toMillisecondsSinceUnixEpoch.toInt.toNat

def surroundings : IO Surroundings := do
  let environment ← knownVariables.filterMapM fun name => do
    return (← IO.getEnv name).map (name, ·)
  let seed ← IO.rand 0 (UInt64.size - 1)
  return ⟨environment, ← (← IO.getStdin).isTty, ← (← IO.getStdout).isTty, .shuffled seed,
    ← millisecondsNow⟩

/-! ## The session -/

def write (text : String) : IO Unit := do
  let out ← IO.getStdout
  out.putStr text
  out.flush

def report (f : Failure) : IO UInt32 := do
  (← IO.getStderr).putStrLn ("Error: " ++ f.render)
  return 1

/-- The bytes up to the end of a line or of the input, after those already read. -/
partial def readLine (line : ByteArray) : IO ByteArray := do
  let bytes ← (← IO.getStdin).read 1
  if bytes.isEmpty then return line
  let line := line ++ bytes
  if bytes[0]? = some 10 then return line
  readLine line

/-- Reads and answers lines until the session ends. The second part says that every line was a
text. -/
partial def converse [Regex.SizeLimit] (s : Session) : IO (Session × Bool) := do
  if !s.running then return (s, true)
  write s.prompt.text
  match inputLines (← readLine .empty).toList with
  | [] => return (s, true)
  | none :: _ => return (s, false)
  | some line :: _ =>
    let t := { s with repo.now := ← millisecondsNow }.handleLine line
    write t.text
    converse t.final

def runMain [Regex.SizeLimit] (o : Options) : IO UInt32 := do
  match ← openSession machineHost (← surroundings) o with
  | .error f => report f
  | .ok s =>
    let opened := opening o s
    write opened.text
    let (s, whole) ← converse opened.final
    if !whole then report notTextFailure
    else
      write s.goodbye.text
      match ← closing machineHost o s with
      | .ok () => return 0
      | .error f => report f

end GitPractice

open GitPractice Program in
def main (args : List String) : IO UInt32 := do
  match Invocation.ofArgs args with
  | .session o =>
    try @runMain estimatedSize o
    catch e => report ⟨toString e, []⟩
  | .help => do
    write helpText
    return 0
  | .version => do
    write versionText
    return 0
  | .rejected => do
    (← IO.getStderr).putStrLn "error: the arguments are wrong; for more information, try '--help'."
    return 2
