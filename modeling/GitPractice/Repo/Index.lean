import GitPractice.Repo.Refusal

/-!
# Staging

Files move between the working list and the staged list. Staging never fails. Unstaging and
discarding take several paths and do nothing unless every one of them is where it has to be.
-/

namespace GitPractice

namespace State

/-- The working files move to the staged ones; those staged before stay as they were. -/
def stageAll (s : State) : State :=
  { s with
    staged := s.working.foldl
      (fun l f => if l.any (·.file = f) then l else l ++ [⟨f, .modified⟩]) s.staged
    working := [] }

/-- One file leaves the working list and is staged, as modified if it was there. -/
def stage (s : State) (path : String) : State :=
  let kind := if s.isPending path then .modified else .added
  { s with
    staged := if s.isStaged path then s.staged else s.staged ++ [⟨path, kind⟩]
    working := s.working.erase path }

/-- A file leaves the staged list and is in the working list. -/
def unstage (s : State) (path : String) : State :=
  if s.isStaged path then
    { s with
      staged := s.staged.eraseP (·.file = path)
      working := if s.isPending path then s.working else s.working ++ [path] }
  else s

end State

namespace Repo

/-- The names that stand for every pending change. -/
def everything : List String := [".", "-A", "--all"]

def add (r : Repo) (path : String) : Repo × Reply :=
  if path ∈ everything then ({ r with state := r.state.stageAll }, .ok)
  else ({ r with state := r.state.stage path }, .ok)

/-- Puts staged files back into the working tree. -/
def unstage (r : Repo) (paths : List String) : Repo × Reply :=
  match paths.find? fun p => !r.state.isStaged p with
  | some p => r.refuse (.notStaged p)
  | none => ({ r with state := paths.foldl State.unstage r.state }, .ok)

/-- Gives up changes that are not staged. -/
def discard (r : Repo) (paths : List String) : Repo × Reply :=
  match paths.find? fun p => !r.state.isPending p with
  | some p => r.refuse (.notPending p)
  | none =>
    ({ r with state.working := r.state.working.filter fun f => !paths.contains f }, .ok)

end Repo

end GitPractice
