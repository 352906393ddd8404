import GitPractice.Repo.Refusal

/-!
# Misuse

The reasons for which a command line is turned down before it reaches the repository: a word is
missing, cannot be read, or names something that is not simulated.
-/

namespace GitPractice

inductive Misuse where
  | nothingSpecified
  | messageRequired
  | branchNameRequired
  | newBranchRequired (flag : String) (usage : String)
  | checkoutTargetRequired
  | switchTargetRequired
  | mergeTargetRequired
  | restorePathsRequired
  | remoteSubcommand (sub : String)
  | resetMode (mode : String)
  | unknownGit (name : String)
  | notSimulated (name : String)
  | notPull (name : String)
  | pullSubcommandRequired
  | unknownPullSubcommand (sub : String)
  | badNumber
  | noOpenPull
  | noPull
  | titleRequired
  | unknownFilter (message : String)
  | numberRequired
  | actionRequired
  | bodyRequired (action : String)
  | changeRequired
  deriving DecidableEq, Repr

namespace Misuse

def message : Misuse → String
  | nothingSpecified => "Nothing specified, nothing added."
  | messageRequired => "error: switch 'm' requires a value"
  | branchNameRequired => "error: branch name required"
  | newBranchRequired flag _ => "error: switch '" ++ flag ++ "' requires a value"
  | checkoutTargetRequired => "error: you must specify a branch to checkout"
  | switchTargetRequired => "error: missing branch name"
  | mergeTargetRequired => "error: specify a branch to merge"
  | restorePathsRequired => "fatal: you must specify path(s) to restore"
  | remoteSubcommand sub => "git remote " ++ sub ++ ": not yet implemented in simulation"
  | resetMode mode => "git reset " ++ mode ++ ": not yet implemented in simulation"
  | unknownGit name => "git: '" ++ name ++ "' is not a git command"
  | notSimulated name => "git " ++ name ++ ": not yet implemented in simulation"
  | notPull name => "gh: '" ++ name ++ "' is not supported. Only 'gh pr' commands are available."
  | pullSubcommandRequired => "gh pr: a subcommand is required"
  | unknownPullSubcommand sub => "gh pr: '" ++ sub ++ "' is not a valid subcommand"
  | badNumber => "error: invalid PR number"
  | noOpenPull => "error: no open pull request for current branch"
  | noPull => "no pull request found for current branch"
  | titleRequired => "error: --title is required"
  | unknownFilter message => message
  | numberRequired => "error: PR number required"
  | actionRequired => "error: did not specify a review action"
  | bodyRequired action => "error: body cannot be blank for " ++ action ++ " review"
  | changeRequired => "error: specify a change to make"

/-- The subcommands that may stand after `gh pr`. -/
def pullSubcommands : String := "create, list, merge, close, view, review, edit"

def hints : Misuse → List String
  | nothingSpecified => ["Use 'git add <file>' or 'git add .' to stage files"]
  | messageRequired => ["Usage: git commit -m 'Your commit message'"]
  | newBranchRequired _ usage => ["Usage: " ++ usage]
  | checkoutTargetRequired => ["Usage: git checkout <branch-name>"]
  | resetMode _ => ["Use 'git restore --staged <file>' to unstage a file"]
  | unknownGit _ => ["Type 'help' to see available commands"]
  | pullSubcommandRequired | unknownPullSubcommand _ => ["Available: " ++ pullSubcommands]
  | titleRequired => ["Usage: gh pr create --title 'PR Title' --body 'Description'"]
  | actionRequired => ["Use --approve, --request-changes, or --comment"]
  | bodyRequired _ => ["Add a message with --body 'text'"]
  | changeRequired => ["Usage: gh pr edit <number> --add-reviewer <login>[,<login>]"]
  | _ => []

def reply (e : Misuse) : Reply := ⟨false, e.message, none, e.hints⟩

end Misuse

/-- The repository as it is, and what was wrong with the command line. -/
def Repo.misused (r : Repo) (e : Misuse) : Repo × Reply := (r, e.reply)

end GitPractice
