import GitPractice.Text.Join
import GitPractice.Text.Number
import GitPractice.Shell.Command

/-!
# The catalog of commands

The commands that are known, with their help texts. A known command need not be simulated. `help`
finds the entry that the words after `help` name.
-/

namespace GitPractice.Shell

open GitPractice.Text (joinWith filledTo)

/-- A flag under all its names, the short one first. -/
structure FlagEntry where
  names : List String
  description : String
  deriving DecidableEq, Repr

structure CatalogEntry where
  name : String
  sub : Option String
  description : String
  usage : String
  flags : List FlagEntry
  simulated : Bool
  deriving DecidableEq, Repr

namespace Catalog

def gitEntry (name : String) (simulated : Bool) (description usage : String)
    (flags : List FlagEntry) : CatalogEntry :=
  ⟨name, none, description, usage, flags, simulated⟩

def pullEntry (sub description usage : String) (flags : List FlagEntry) : CatalogEntry :=
  ⟨"pr", some sub, description, usage, flags, true⟩

def git : List CatalogEntry := [
    gitEntry "status" true "Show the working tree status" "git status" [],
    gitEntry "add" true "Add file contents to the index (staging area)"
      "git add <file>... | git add . | git add -A" [
      ⟨["-A", "--all"], "Add all changes"⟩],
    gitEntry "commit" true "Record changes to the repository" "git commit -m '<message>'" [
      ⟨["-m", "--message"], "Commit message (required)"⟩,
      ⟨["-a", "--all"], "Stage all modified files and commit"⟩],
    gitEntry "branch" true "List, create, or delete branches"
      "git branch [<name> [<start-point>]] | git branch -d <name>" [
      ⟨["-d", "--delete"], "Delete a branch"⟩,
      ⟨["-D"], "Force delete a branch"⟩,
      ⟨["-a", "--all"], "List all branches (local and remote)"⟩,
      ⟨["-r", "--remotes"], "List remote branches"⟩],
    gitEntry "checkout" true "Switch branches or restore working tree files"
      "git checkout <branch> | git checkout -b <new-branch> [<start-point>]" [
      ⟨["-b", "--branch"], "Create and switch to a new branch"⟩],
    gitEntry "switch" true "Switch branches (modern alternative to checkout)"
      "git switch <branch> | git switch -c <new-branch> [<start-point>]" [
      ⟨["-c", "--create"], "Create and switch to a new branch"⟩],
    gitEntry "merge" true "Join two or more development histories together" "git merge <branch>" [
      ⟨["--no-ff"], "Create a merge commit even for fast-forward"⟩],
    gitEntry "log" true "Show commit logs" "git log [--oneline] [-n <number>]" [
      ⟨["--oneline"], "Show abbreviated commits"⟩,
      ⟨["-n", "--max-count"], "Limit number of commits shown"⟩],
    gitEntry "push" true "Update remote refs along with associated objects"
      "git push [-u] [<remote>] [<branch>]" [
      ⟨["-u", "--set-upstream"], "Set upstream tracking reference"⟩],
    gitEntry "pull" true "Fetch from and integrate with another repository"
      "git pull [<remote>] [<branch>]" [],
    gitEntry "fetch" true "Download objects and refs from another repository"
      "git fetch [<remote>]" [],
    gitEntry "remote" true "Manage set of tracked repositories" "git remote [-v]" [
      ⟨["-v", "--verbose"], "Show remote URL after name"⟩],
    gitEntry "diff" true "Show changes between commits, commit and working tree, etc"
      "git diff [--staged]" [
      ⟨["--staged", "--cached"], "Show staged changes"⟩],
    gitEntry "restore" true "Restore working tree files or unstage them"
      "git restore [--staged] <file>" [
      ⟨["-S", "--staged"], "Unstage instead of discarding"⟩],
    gitEntry "reset" true "Reset current HEAD to the specified state"
      "git reset [<file>] | git reset --hard" [
      ⟨["--hard"], "Reset working directory and staging area"⟩,
      ⟨["--soft"], "Reset only HEAD pointer"⟩],
    gitEntry "init" false "Create an empty Git repository" "git init" [],
    gitEntry "clone" false "Clone a repository into a new directory" "git clone <url>" [],
    gitEntry "rebase" false "Reapply commits on top of another base tip" "git rebase <branch>" [],
    gitEntry "stash" false "Stash the changes in a dirty working directory away"
      "git stash [pop]" [],
    gitEntry "tag" false "Create, list, or delete tags" "git tag [<name>]" [],
    gitEntry "cherry-pick" false "Apply the changes introduced by some existing commits"
      "git cherry-pick <commit>" []]

/-- The subcommands of `gh pr`. -/
def pull : List CatalogEntry := [
    pullEntry "create" "Create a pull request" "gh pr create --title '<title>' --body '<body>'" [
      ⟨["-t", "--title"], "PR title"⟩,
      ⟨["-b", "--body"], "PR body"⟩,
      ⟨["-B", "--base"], "Base branch to merge into"⟩,
      ⟨["-H", "--head"], "Branch that contains the changes"⟩],
    pullEntry "list" "List pull requests" "gh pr list [--state <state>]" [
      ⟨["-s", "--state"], "Filter by state (open, closed, merged, all)"⟩],
    pullEntry "merge" "Merge a pull request" "gh pr merge [<number>] [--merge|--squash|--rebase]" [
      ⟨["-m", "--merge"], "Use merge commit"⟩,
      ⟨["-s", "--squash"], "Squash commits before merging"⟩,
      ⟨["-r", "--rebase"], "Rebase commits before merging"⟩],
    pullEntry "close" "Close a pull request" "gh pr close <number>" [],
    pullEntry "view" "View a pull request" "gh pr view [<number>]" [],
    pullEntry "review" "Add a review to a pull request"
      "gh pr review <number> [--approve|--request-changes|--comment] [-b <body>]" [
      ⟨["-a", "--approve"], "Approve the pull request"⟩,
      ⟨["-r", "--request-changes"], "Request changes"⟩,
      ⟨["-c", "--comment"], "Comment without approving"⟩,
      ⟨["-b", "--body"], "Review comment"⟩],
    pullEntry "edit" "Edit a pull request" "gh pr edit <number> --add-reviewer <login>[,<login>]" [
      ⟨["--add-reviewer"], "Request review from users"⟩]]

def findGit (name : String) : Option CatalogEntry := git.find? (·.name = name)

def findPull (sub : String) : Option CatalogEntry := pull.find? (·.sub = some sub)

def pullNames : List String := pull.filterMap (·.sub)

end Catalog

/-- The names of a flag in a column of twenty characters, and what it does. -/
def FlagEntry.help (f : FlagEntry) : String :=
  "\n  " ++ filledTo 20 (joinWith ", " f.names) ++ " " ++ f.description

/-- Description, usage and a table of the flags. -/
def CatalogEntry.help (e : CatalogEntry) : String :=
  e.description ++ "\n\nUsage: " ++ e.usage
    ++ if e.flags.isEmpty then "" else "\n\nFlags:" ++ joinWith "" (e.flags.map FlagEntry.help)

/-- The help text of an entry, found under a name. -/
def helpOf (name : String) : Option CatalogEntry → String
  | some e => e.help
  | none => "Unknown command: " ++ name

def commandHelp (tool : Tool) (name : String) (sub : Option String) : String :=
  helpOf name <|
    match tool, sub with
    | .gh, some s => Catalog.findPull s
    | .gh, none => none
    | _, _ => Catalog.findGit name

def generalHelp : String :=
  joinWith "\n" [
    "gg - git and GitHub flow simulator",
    "",
    "Git Commands:",
    "  git status              Show working tree status",
    "  git add <file>          Stage files for commit",
    "  git commit -m 'msg'     Create a commit",
    "  git branch              List branches",
    "  git checkout -b <name>  Create and switch to branch",
    "  git checkout <branch>   Switch to existing branch",
    "  git push -u origin <b>  Push branch to remote",
    "  git pull                Pull changes from remote",
    "  git merge <branch>      Merge a branch",
    "  git log                 Show commit history",
    "",
    "GitHub CLI:",
    "  gh pr create            Create a pull request",
    "  gh pr list              List pull requests",
    "  gh pr merge             Merge a pull request",
    "  gh pr view              View pull request details",
    "  gh pr review            Review a pull request",
    "",
    "App Commands:",
    "  help [command]          Show help for a command",
    "  lesson [n]              Show or start a lesson",
    "  lessons                 List all lessons",
    "  hint                    Get a hint for current step",
    "  skip                    Skip the current step",
    "  reset                   Restart the current lesson",
    "  status                  Show repository summary",
    "  tree                    Show the commit graph",
    "  quit                    Exit the application"]

/-- The help that the words after `help` ask for. -/
def help : List String → String
  | [] => generalHelp
  | "git" :: name :: _ => commandHelp .git name none
  | "gh" :: "pr" :: sub :: _ => commandHelp .gh "pr" (some sub)
  | "pr" :: sub :: _ => commandHelp .gh "pr" (some sub)
  | name :: _ => commandHelp .git name none

end GitPractice.Shell
