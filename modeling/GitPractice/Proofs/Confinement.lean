import GitPractice.Proofs.Dispatch
import GitPractice.Proofs.Frame

/-!
# What a command may change

Each part of a state has its commands (`Part.verbs`): a line leaves a part as it was unless it gives
one of the commands that the part has, and a line that gives none of all these changes nothing
(`run_confined`). Between the commands and the parts stand the operations, whose commands are among
those of each part they reach (`Operation.verbs_subset`).
-/

namespace GitPractice

open Shell Console

/-- The first words of a command: a `git` command by its name, a `gh pr` command by its
subcommand. -/
inductive Verb where
  | git (name : String)
  | pull (sub : String)
  deriving DecidableEq, Repr

namespace Verb

def Of : Verb → Command → Prop
  | .git name, c => IsGit c name
  | .pull sub, c => IsPull c sub

/-- The line gives a command that begins so. -/
def OfLine (v : Verb) (line : String) : Prop := ∃ c, Command.parse line = .ok c ∧ v.Of c

end Verb

/-- The commands that may change a part. -/
def Part.verbs : Part → List Verb
  | .commits | .tips => [.git "commit", .git "merge", .pull "merge"]
  | .branches => [.git "branch", .git "checkout", .git "switch"]
  | .followed | .remoteBranches => [.git "push"]
  | .head => [.git "checkout", .git "switch", .pull "merge"]
  | .staged => [.git "add", .git "commit", .git "restore", .git "reset"]
  | .working => [.git "add", .git "commit", .git "restore", .git "reset", .git "checkout"]
  | .pulls | .number =>
    [.pull "create", .pull "merge", .pull "close", .pull "review", .pull "edit"]
  | .address => []

/-- The commands that perform an operation. -/
def Operation.verbs : Operation → List Verb
  | .createBranch .. | .deleteBranch .. => [.git "branch"]
  | .checkout .. => [.git "checkout", .git "switch"]
  | .add _ => [.git "add"]
  | .unstage _ => [.git "restore", .git "reset"]
  | .discard _ => [.git "restore", .git "checkout"]
  | .commit .. => [.git "commit"]
  | .merge _ => [.git "merge"]
  | .push .. => [.git "push"]
  | .createPull .. => [.pull "create"]
  | .mergePull .. => [.pull "merge"]
  | .closePull _ => [.pull "close"]
  | .requestReview .. => [.pull "edit"]
  | .addReview .. => [.pull "review"]
  | .viewPull _ => [.pull "view"]

/-- An operation has no other commands than the parts it reaches. -/
theorem Operation.verbs_subset (op : Operation) : ∀ part ∈ op.reach, op.verbs ⊆ part.verbs := by
  cases op with
  | checkout target create start =>
    cases create with
    | false => simp only [reach, verbs]; decide
    | true => simp only [reach, verbs]; decide
  | _ => simp only [reach, verbs]; decide

namespace Console

variable {c : Command} {r : Repo}

theorem Calls.verb {op : Operation} (h : Calls c op) : ∃ v ∈ op.verbs, v.Of c := by
  have hone {v : Verb} {vs : List Verb} (hv : v.Of c) : ∃ w ∈ v :: vs, w.Of c :=
    ⟨v, List.mem_cons_self, hv⟩
  have htwo {v w : Verb} (hvw : v.Of c ∨ w.Of c) : ∃ x ∈ [v, w], x.Of c := by simpa using hvw
  cases h with
  | checkout hname => exact htwo hname
  | unstage hname => exact htwo hname
  | restore hname => exact htwo (.inl hname)
  | checkoutPath hname => exact htwo (.inr hname)
  | addAll hname => exact hone hname
  | commit hname => exact hone hname
  | createBranch hname => exact hone hname
  | deleteBranch hname => exact hone hname
  | merge hname => exact hone hname
  | push hname => exact hone hname
  | createPull hname => exact hone hname
  | mergePull hname => exact hone hname
  | closePull hname => exact hone hname
  | requestReview hname => exact hone hname
  | addReview hname => exact hone hname
  | viewPull hname => exact hone hname

/-- What a command has changed is within some parts, and it is one of the commands of each. -/
theorem Amounts.confined {out : Repo × Response} (h : Amounts c r out) :
    out.1 = r ∨ ∃ part parts, r.state.Within (part :: parts) out.1.state
      ∧ ∀ p ∈ part :: parts, ∃ v ∈ p.verbs, v.Of c := by
  cases h with
  | seen reply => exact .inl rfl
  | @performed op hcalls response hresponse =>
    obtain ⟨v, hv, hof⟩ := hcalls.verb
    have hwithin := r.within_perform op
    have hverbs := op.verbs_subset
    cases hreach : op.reach with
    | nil => exact .inl (r.perform_eq_of_reach hreach)
    | cons part parts =>
      rw [hreach] at hwithin hverbs
      exact .inr ⟨part, parts, hwithin, fun p hp => ⟨v, hverbs p hp hv, hof⟩⟩
  | staged hname =>
    refine .inr ⟨_, _, r.state.within_foldl_added c.args, fun p hp => ⟨.git "add", ?_, hname⟩⟩
    revert p
    decide

/-- The commands that may change a part are those in `Part.verbs`, and every other line leaves it
as it was. -/
theorem run_confined (r : Repo) (line : String) :
    (∀ part : Part, part.Same r.state (run r line).1.state ∨ ∃ v ∈ part.verbs, v.OfLine line)
    ∧ ((run r line).1 = r ∨ ∃ part : Part, ∃ v ∈ part.verbs, v.OfLine line) := by
  rcases run_cases r line with ⟨e, hrun⟩ | ⟨out, ⟨c, hparse, hamounts⟩, hrun⟩
  · rw [hrun]
    exact ⟨fun part => .inl (r.state.within_refl part List.not_mem_nil), .inl rfl⟩
  rw [hrun]
  rcases hamounts.confined with hsame | ⟨part, parts, hwithin, hverbs⟩
  · rw [hsame]
    exact ⟨fun part => .inl (r.state.within_refl part List.not_mem_nil), .inl rfl⟩
  have hline {p : Part} (hp : p ∈ part :: parts) : ∃ v ∈ p.verbs, v.OfLine line := by
    obtain ⟨v, hv, hof⟩ := hverbs p hp
    exact ⟨v, hv, c, hparse, hof⟩
  refine ⟨fun p => ?_, .inr ⟨part, hline List.mem_cons_self⟩⟩
  by_cases hp : p ∈ part :: parts
  · exact .inr (hline hp)
  · exact .inl (hwithin p hp)

end Console
end GitPractice
