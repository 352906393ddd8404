import GitPractice.Repo.PullRequests
import GitPractice.Repo.Remote
import GitPractice.Repo.Snapshot

/-!
# Operations and runs

An `Operation` is a call that may change a repository or its pull requests, or be refused, or go on
for ever. The questions that only answer a `Reply`, such as the status and the log, are none. Between
operations files are edited and snapshots imported. The ids and the clock come from outside: others
may draw from them too, so they can stand anywhere when they are next asked. A run is a list of such
`Event`s in any order. Whatever every event keeps is kept by every run (`invariant_afterAll`).
-/

namespace GitPractice

inductive Operation where
  | createBranch (name : String) (start : Option String)
  | deleteBranch (name : String) (force : Bool)
  | checkout (target : String) (create : Bool) (start : Option String)
  | add (path : String)
  | unstage (paths : List String)
  | discard (paths : List String)
  | commit (message : String) (all : Bool)
  | merge (branch : String)
  | push (remote : String) (branch : Option String) (follow : Bool)
  | createPull (title body : String) (source : Option String) (target : String)
  | mergePull (number : UInt32) (method : MergeMethod)
  | closePull (number : UInt32)
  | requestReview (number : UInt32) (reviewers : List String)
  | addReview (number : UInt32) (reviewer : String) (verdict : Verdict) (comment : Option String)
  | viewPull (number : UInt32)

/-- What happens to a repository. -/
inductive Event where
  | performed (op : Operation)
  | edited (file : String)
  | imported (snapshot : Snapshot)
  | movedOn (ids : Fingerprints) (now : UInt64)

namespace Repo

def perform (r : Repo) : Operation → Repo × Response
  | .createBranch name start => returning (r.createBranch name start)
  | .deleteBranch name force => returning (r.deleteBranch name force)
  | .checkout target create start => returning (r.checkout target create start)
  | .add path => returning (r.add path)
  | .unstage paths => returning (r.unstage paths)
  | .discard paths => returning (r.discard paths)
  | .commit message all => r.commit message all
  | .merge branch => r.merge branch
  | .push remote branch follow => returning (r.push remote branch follow)
  | .createPull title body source target => returning (r.createPull title body source target)
  | .mergePull number method => r.mergePull number method
  | .closePull number => returning (r.closePull number)
  | .requestReview number reviewers => returning (r.requestReview number reviewers)
  | .addReview number reviewer verdict comment =>
    returning (r.addReview number reviewer verdict comment)
  | .viewPull number => returning (r.viewPull number)

/-- The repository after an event, whether or not it succeeded. Where an operation never returns,
this is how far it got. -/
def after (r : Repo) : Event → Repo
  | .performed op => (r.perform op).1
  | .edited file => r.edit file
  | .imported snapshot => (r.importState snapshot).1
  | .movedOn ids now => { r with ids := ids, now := now }

def afterAll (r : Repo) (events : List Event) : Repo := events.foldl after r

/-- What the events of a kind keep is kept by every run of such events. -/
theorem invariant_afterAll_of {P : Repo → Prop} {K : Event → Prop}
    (hP : ∀ r e, K e → P r → P (r.after e)) :
    ∀ {events : List Event} {r : Repo}, (∀ e ∈ events, K e) → P r → P (r.afterAll events)
  | [], _, _, h => h
  | e :: events, r, hevents, h => by
    obtain ⟨he, hrest⟩ := List.forall_mem_cons.1 hevents
    rw [afterAll, List.foldl_cons]
    exact invariant_afterAll_of hP hrest (hP r e he h)

theorem invariant_afterAll {P : Repo → Prop} (hP : ∀ r e, P r → P (r.after e))
    (events : List Event) {r : Repo} (h : P r) : P (r.afterAll events) :=
  invariant_afterAll_of (K := fun _ => True) (fun r e _ => hP r e) (fun _ _ => trivial) h

end Repo

end GitPractice
