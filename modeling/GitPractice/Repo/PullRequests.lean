import GitPractice.Text.Lower
import GitPractice.Repo.Branches
import GitPractice.Repo.History

/-!
# Pull requests

Pull requests are numbered from one in the order in which they are opened. A pull request is open
until it is merged or closed, and then stays so. An approving review marks it as approved for good.
Merging checks out the target and merges the source into it, whatever method is named.
-/

namespace GitPractice

open Text

/-- How a merge of a pull request is called. -/
inductive MergeMethod where
  | merge
  | squash
  | rebase
  deriving DecidableEq, Repr

def MergeMethod.verb : MergeMethod → String
  | .merge => "Merged"
  | .squash => "Squashed and merged"
  | .rebase => "Rebased and merged"

/-- The pull requests a list shows. -/
inductive PullFilter where
  | opened
  | closed
  | merged
  | all
  deriving DecidableEq, Repr

namespace PullFilter

def accepts : PullFilter → PullStatus → Bool
  | .opened, s => s = .opened
  | .closed, s => s = .closed
  | .merged, s => s = .merged
  | .all, _ => true

/-- The filter a word names, in any case. -/
def ofWord? (word : String) : Option PullFilter :=
  match lowerAscii word with
  | "open" => some .opened
  | "closed" => some .closed
  | "merged" => some .merged
  | "all" => some .all
  | _ => none

/-- What is said of a word that names no filter. -/
def unknownMessage (word : String) : String :=
  "invalid argument \"" ++ lowerAscii word
    ++ "\" for \"-s, --state\" flag: valid values are \x7bopen|closed|merged|all\x7d"

end PullFilter

namespace State

def openPulls (s : State) : List PullRequest :=
  s.pullRequests.values.filter (·.status = .opened)

/-- The open pull request from one branch into another. -/
def openPull? (s : State) (source target : String) : Option PullRequest :=
  s.openPulls.find? fun p => p.source = source && p.target = target

/-- The first open pull request whose source is the branch. -/
def openPullFor? (s : State) (branch : String) : Option UInt32 :=
  (s.openPulls.find? (·.source = branch)).map PullRequest.number

/-- The first pull request whose source is the branch. -/
def pullFor? (s : State) (branch : String) : Option UInt32 :=
  (s.pullRequests.values.find? (·.source = branch)).map PullRequest.number

def modifyPull (s : State) (number : UInt32) (f : PullRequest → PullRequest) : State :=
  { s with pullRequests := s.pullRequests.modify number f }

end State

namespace PullRequest

/-- The review as it is put into words. -/
def verdictWords : Verdict → String
  | .approved => "approved these changes"
  | .changesRequested => "requested changes"
  | .commented => "commented"
  | .pending => "was requested to review"

/-- The reviews with the first one of the reviewer replaced, or a new one at the end. -/
def upsertReview (review : Review) : List Review → List Review
  | [] => [review]
  | r :: rest =>
    if r.reviewer = review.reviewer then review :: rest else r :: upsertReview review rest

/-- Records a review; an approval marks the pull request. -/
def addReview (p : PullRequest) (review : Review) : PullRequest :=
  { p with
    reviews := upsertReview review p.reviews
    approved := p.approved || review.verdict = .approved }

/-- Asks for reviews; an earlier request is kept beside a new one. -/
def request (p : PullRequest) (reviewers : List String) : PullRequest :=
  { p with reviews := p.reviews ++ reviewers.map fun r => ⟨r, .pending, none⟩ }

def listEntry (p : PullRequest) : String :=
  "#" ++ numberText p.number ++ "  [" ++ p.status.mark ++ "]  " ++ p.title
    ++ (if p.approved then " [APPROVED]" else "") ++ "\n       " ++ p.source ++ " -> " ++ p.target

def reviewLine (r : Review) : String :=
  "  - " ++ r.reviewer ++ ": " ++ r.verdict.name ++
    match r.comment with
    | some c => " (" ++ c ++ ")"
    | none => ""

def viewLines (p : PullRequest) (url : String) : List String :=
  ["#" ++ numberText p.number ++ ": " ++ p.title, "  Status: " ++ p.status.capitals,
      "  " ++ p.source ++ " -> " ++ p.target]
    ++ (if p.approved then ["  Approved"] else [])
    ++ ["", if p.body = "" then "(No description)" else p.body]
    ++ (if p.reviews.isEmpty then [] else ["", "Reviews:"] ++ p.reviews.map reviewLine)
    ++ ["", url]

end PullRequest

namespace Repo

def pullUrl (r : Repo) (number : UInt32) : String :=
  r.config.webUrl ++ "/pull/" ++ numberText number

/-- Why a pull request from `source` into `target` cannot be opened. -/
def proposalRefusal? (r : Repo) (source target : String) : Option Refusal :=
  if !r.state.branches.contains source then some (.sourceMissing source)
  else if source = target then some .sameBranch
  else if !r.state.branches.contains target then some (.baseMissing target)
  else if !r.state.remoteBranches.contains (defaultRemote ++ "/" ++ source) then
    some (.notPushed source)
  else
    (r.state.openPull? source target).map fun p =>
      .alreadyProposed source target (r.pullUrl p.number)

/-- Opens a pull request from a branch, the checked-out one if none is named. -/
def createPull (r : Repo) (title body : String) (source : Option String) (target : String) :
    Repo × Reply :=
  let source := source.getD r.state.head
  match r.proposalRefusal? source target with
  | some e => r.refuse e
  | none =>
    let number := r.state.nextNumber
    let p : PullRequest :=
      ⟨number, title, body, source, target, r.config.author, .opened, [], false⟩
    ({ r with
        state.nextNumber := number + 1
        state.pullRequests := r.state.pullRequests.insert number p },
      .printed ("Creating pull request for " ++ source ++ " into " ++ target ++ " in "
        ++ r.config.slug ++ "\n\n" ++ r.pullUrl number))

def listPulls (r : Repo) (filter : PullFilter) : Reply :=
  let shown := r.state.pullRequests.values.filter fun p => filter.accepts p.status
  if shown.isEmpty then .printed "No pull requests match your search"
  else .printed (joinWith "\n" (shown.map PullRequest.listEntry))

/-- The pull request, if it is open. -/
def requireOpen (r : Repo) (number : UInt32) : Except Refusal PullRequest :=
  match r.state.pullRequests.get? number with
  | none => .error (.noSuchPull number)
  | some p => if p.status = .opened then .ok p else .error (.pullNotOpen number p.status)

def setPullStatus (r : Repo) (number : UInt32) (status : PullStatus) : Repo :=
  { r with state := r.state.modifyPull number ({ · with status := status }) }

/-- Checks out the target of a pull request and merges the source into it. -/
def mergePull (r : Repo) (number : UInt32) (method : MergeMethod) : Repo × Response :=
  match r.requireOpen number with
  | .error e => returning (r.refuse e)
  | .ok p =>
    if !r.state.branches.contains p.source then returning (r.refuse (.sourceGone p.source))
    else if !r.state.branches.contains p.target then returning (r.refuse (.baseGone p.target))
    else
      let (switched, reply) := r.switchTo p.target
      if !reply.success then (switched, some reply)
      else
        let (merged, response) := switched.merge p.source
        -- A merge that does not return is not gone beyond either.
        if !response.succeeded then (merged, response)
        else
          (merged.setPullStatus number .merged,
            some (.printed (method.verb ++ " pull request #" ++ numberText number ++ " (" ++ p.title
              ++ ")")))

def closePull (r : Repo) (number : UInt32) : Repo × Reply :=
  match r.requireOpen number with
  | .error e => r.refuse e
  | .ok _ =>
    (r.setPullStatus number .closed, .printed ("Closed pull request #" ++ numberText number))

/-- Adds a pending review for each reviewer. -/
def requestReview (r : Repo) (number : UInt32) (reviewers : List String) : Repo × Reply :=
  if r.state.pullRequests.contains number then
    ({ r with state := r.state.modifyPull number (·.request reviewers) },
      .printed ("Requested review from: " ++ joinWith ", " reviewers))
  else r.refuse (.noSuchPull number)

/-- Records a reviewer's verdict; an empty comment counts as none. -/
def addReview (r : Repo) (number : UInt32) (reviewer : String) (verdict : Verdict)
    (comment : Option String) : Repo × Reply :=
  if r.state.pullRequests.contains number then
    let comment := comment.filter (· ≠ "")
    ({ r with state := r.state.modifyPull number (·.addReview ⟨reviewer, verdict, comment⟩) },
      .printed (reviewer ++ " " ++ PullRequest.verdictWords verdict ++
        match comment with
        | some c => "\n\n" ++ c
        | none => ""))
  else r.refuse (.noSuchPull number)

def viewPull (r : Repo) (number : UInt32) : Repo × Reply :=
  match r.state.pullRequests.get? number with
  | none => r.refuse (.noSuchPull number)
  | some p => (r, .printed (joinWith "\n" (p.viewLines (r.pullUrl p.number))))

end Repo

end GitPractice
