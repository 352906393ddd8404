import GitPractice.Lesson.Basic

/-!
# The bundled lessons

A course through the first commit, branches, and pull requests, in the order in which the lessons
are meant to be taken. Each lesson has the name of a file, by which the catalogue is sorted.
-/

namespace GitPractice.Bundled

/-- A step to be read. -/
def reading (id instruction : String) : Step :=
  ⟨id, .explanation, instruction, [], none, Step.praise, [], []⟩

/-- A step to practise without an answer. -/
def practice (id instruction : String) : Step :=
  ⟨id, .freePractice, instruction, [], none, Step.praise, [], []⟩

/-- A step to be answered. -/
def task (id instruction : String) (accepted : List String) (success : String)
    (hints : List String) : Step :=
  ⟨id, .command, instruction, accepted, none, success, hints, []⟩

/-- A commit as a snapshot records it, without author and time. -/
def recorded (message : String) (parent : Option String) (files : List String) : CommitRecord :=
  ⟨"", message, parent, files, none, none⟩

/-- A branch as a snapshot records it. -/
def branchAt (commit : String) (followed : Option String) : BranchRecord := ⟨"", commit, followed⟩

def firstCommit : Lesson where
  id := "first-commit"
  title := "Your First Commit"
  description := "Check what changed, stage it, and record it in history."
  objectives :=
    ["Read the output of git status",
      "Stage a file with git add",
      "Create a commit with a message",
      "Inspect history with git log"]
  steps :=
    [reading "welcome"
        ("Git records your project as a series of commits. Making one takes two " ++
          "moves:\nstage the changes you want with `git add`, then save them with `git " ++
          "commit`."),
      { task "status"
        "A new file, hello.py, just appeared. Run `git status` to see what Git noticed."
        ["git status"]
        "hello.py shows up as a change that is not staged yet."
        ["The command is `git` followed by `status`."] with
        setup := ["hello.py"] },
      task "stage"
        "Stage hello.py so it will be part of the next commit."
        ["git add hello.py", "git add .", "git add -A", "git add --all"]
        "hello.py is staged."
        ["Use `git add` followed by the file name.", "Try: git add hello.py"],
      { task "commit"
        "Commit the staged file with the message \"Add hello script\"."
        ["git commit -m \"Add hello script\""]
        "Your first commit is in the history."
        ["Commits need a message, given with -m.", "Put the message in quotes after -m."] with
        pattern := some "git commit\\s+(-m|--message)\\s*\\S+" },
      task "history"
        "Look at the history with `git log --oneline`."
        ["git log --oneline", "git log"]
        "Each line is one commit, newest first."
        ["`git log` shows history; add --oneline for a compact view."],
      reading "done"
        "That is the core loop: edit, `git add`, `git commit`."]
  prerequisites := []
  initial := none

def branching : Lesson where
  id := "branching"
  title := "Working on a Branch"
  description := "Keep work isolated on a branch and switch between branches."
  objectives :=
    ["Create and switch to a branch",
      "Commit on the branch",
      "List branches and switch back to main"]
  steps :=
    [reading "intro"
        ("In GitHub flow, main always works. New work happens on a branch, which is\njust a " ++
          "movable name pointing at a commit."),
      task "create-branch"
        "Create a branch called feature/greeting and switch to it in one command."
        ["git checkout -b feature/greeting", "git switch -c feature/greeting"]
        "You are now on feature/greeting."
        ["`git checkout -b <name>` creates a branch and switches to it.",
          "Try: git checkout -b feature/greeting"],
      { task "stage"
        "You edited greeting.py. Stage it."
        ["git add greeting.py", "git add .", "git add -A", "git add --all"]
        Step.praise
        ["Use `git add` with the file name."] with
        setup := ["greeting.py"] },
      { task "commit"
        "Commit it with a short message describing the change."
        ["git commit -m \"Add greeting\""]
        "The commit lives on feature/greeting only."
        ["Use `git commit -m` followed by a quoted message."] with
        pattern := some "git commit\\s+(-m|--message)\\s*\\S+" },
      task "list"
        "List your branches. The current one is marked with *."
        ["git branch"]
        Step.praise
        ["`git branch` with no arguments lists branches."],
      task "back-to-main"
        "Switch back to main."
        ["git checkout main", "git switch main"]
        "Back on main. Your branch still has its commit."
        ["`git checkout <branch>` or `git switch <branch>` changes branches."]]
  prerequisites := ["first-commit"]
  initial := none

/-- One commit on a branch that is not published yet. -/
def unpublished : Snapshot where
  commits := .ofList
    [("a1b2c3d", recorded "Initial commit" none ["README.md"]),
      ("e4f5a6b", recorded "Add login form" (some "a1b2c3d") ["login.html", "login.py"])]
  branches := .ofList
    [("main", branchAt "a1b2c3d" none), ("feature/login", branchAt "e4f5a6b" none)]
  remoteBranches := .empty
  head := "feature/login"
  staged := []
  working := []

def pullRequests : Lesson where
  id := "pull-requests"
  title := "Opening a Pull Request"
  description := "Publish a branch and propose it for review."
  objectives :=
    ["Push a branch and set its upstream",
      "Open a pull request with gh",
      "List and view pull requests"]
  steps :=
    [reading "intro"
        ("You are on feature/login, which already has a commit. Before anyone can\nreview " ++
          "it, the branch has to exist on GitHub."),
      task "status"
        "Check where you are with `git status`."
        ["git status"]
        Step.praise
        ["The command is `git status`."],
      { task "push"
        "Push feature/login to origin and set it as the upstream."
        ["git push -u origin feature/login", "git push --set-upstream origin feature/login"]
        "origin/feature/login now exists on the remote."
        ["Use `git push` with -u, the remote name, and the branch name.",
          "Try: git push -u origin feature/login"] with
        pattern := some "git push\\s+(-u|--set-upstream)\\s+origin\\s+feature/login" },
      { task "create-pr"
        "Open a pull request titled \"Add login page\"."
        ["gh pr create --title \"Add login page\""]
        "Pull request #1 is open."
        ["Pull requests are created with `gh pr create`.", "Give it a title with --title."] with
        pattern := some "gh pr create\\s+.*(--title|-t)\\s" },
      task "list"
        "List the open pull requests."
        ["gh pr list"]
        Step.praise
        ["Try `gh pr list`."],
      task "view"
        "View the details of your pull request."
        ["gh pr view", "gh pr view 1"]
        Step.praise
        ["`gh pr view` shows the pull request for the current branch."]]
  prerequisites := ["branching"]
  initial := some unpublished

/-- One commit on a branch that the remote has too. -/
def published : Snapshot where
  commits := .ofList
    [("0a1b2c3", recorded "Initial commit" none ["README.md"]),
      ("4d5e6f7", recorded "Add search box" (some "0a1b2c3") ["search.py"])]
  branches := .ofList
    [("main", branchAt "0a1b2c3" none),
      ("feature/search", branchAt "4d5e6f7" (some "origin/feature/search"))]
  remoteBranches := .ofList [("origin/feature/search", branchAt "4d5e6f7" none)]
  head := "feature/search"
  staged := []
  working := []

def reviewAndMerge : Lesson where
  id := "review-and-merge"
  title := "Review and Merge"
  description := "Take a pull request from open to merged."
  objectives :=
    ["Request a review", "Approve a pull request", "Merge it into main"]
  steps :=
    [reading "intro"
        "feature/search is already pushed. Open a pull request, get it reviewed,\nand merge it.",
      { task "create-pr"
        "Open a pull request titled \"Add search\"."
        ["gh pr create --title \"Add search\""]
        Step.praise
        ["Use `gh pr create --title` with a quoted title."] with
        pattern := some "gh pr create\\s+.*(--title|-t)\\s" },
      { task "request-review"
        "Ask mona to review pull request 1."
        ["gh pr edit 1 --add-reviewer mona"]
        "mona has been asked to review."
        ["Reviewers are added with `gh pr edit <number> --add-reviewer <login>`."] with
        pattern := some "gh pr edit\\s+#?1\\s+--add-reviewer\\s+\\S+" },
      { task "approve"
        "The review came back positive. Approve the pull request."
        ["gh pr review --approve", "gh pr review 1 --approve"]
        Step.praise
        ["`gh pr review` takes --approve."] with
        pattern := some "gh pr review.*--approve" },
      { task "merge"
        "Merge the pull request."
        ["gh pr merge", "gh pr merge 1"]
        "Merged. main now contains the search feature."
        ["Try `gh pr merge`."] with
        pattern := some "gh pr merge" },
      task "history"
        "Check the history on main."
        ["git log --oneline", "git log"]
        Step.praise
        ["Use `git log --oneline`."],
      practice "practice"
        ("Experiment freely: make branches, push, open more pull requests. Type 'skip' when " ++
          "you are done.")]
  prerequisites := ["pull-requests"]
  initial := some published

/-- The bundled lessons with the names of their files. -/
def files : List (String × Lesson) :=
  [("01-first-commit.toml", firstCommit),
    ("02-branching.toml", branching),
    ("03-pull-requests.toml", pullRequests),
    ("04-review-and-merge.toml", reviewAndMerge)]

def lessons : List Lesson := files.map (·.2)

end GitPractice.Bundled
