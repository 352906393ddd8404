import GitPractice.Proofs.Dispatch

/-!
# Failure changes nothing

Whatever fails leaves the repository as it was, down to the order of what is in it: an operation
that fails was refused before its first change, and a line fails on its own or with the one
operation it performs (`unchanged_of_failure`).
-/

namespace GitPractice

/-- The line was no command, or its command failed. -/
def Console.isFailure : Except ParseError Response → Bool
  | .error _ => true
  | .ok response => response.failed

namespace Repo

variable (r : Repo)

/-- What fails was refused: no operation fails half-way. -/
theorem perform_failure_iff (op : Operation) :
    (r.perform op).2.failed = true ↔ r.Refused (r.perform op) := by
  constructor
  · intro h
    rcases r.perform_cases op with hrefused | hdone | hheld
    · exact hrefused
    · rw [hdone.failed_eq] at h
      cases h
    · rw [hheld.failed_eq] at h
      cases h
  · exact Refused.failed_eq

theorem perform_of_failure {op : Operation} (h : (r.perform op).2.failed = true) :
    (r.perform op).1 = r := ((r.perform_failure_iff op).1 h).repo_eq

theorem amounts_of_failure {line : String} {out : Repo × Response}
    (h : Console.LineAmounts line r out) (hfailed : out.2.failed = true) : out.1 = r := by
  obtain ⟨c, -, h⟩ := h
  cases h with
  | seen reply => rfl
  | performed hcalls hresponse =>
    exact r.perform_of_failure ((Response.failed_eq_of_map hresponse).symm.trans hfailed)
  | staged hname => cases hfailed

theorem run_of_failure {line : String} (h : Console.isFailure (Console.run r line).2 = true) :
    (Console.run r line).1 = r := by
  rcases Console.run_cases r line with ⟨e, hrun⟩ | ⟨out, hout, hrun⟩
  · rw [hrun]
  · rw [hrun] at h ⊢
    exact r.amounts_of_failure hout h

theorem unchanged_of_failure :
    (∀ line, Console.isFailure (Console.run r line).2 = true → (Console.run r line).1 = r)
      ∧ (∀ op, (r.perform op).2.failed = true → (r.perform op).1 = r)
      ∧ ∀ snapshot e, (r.importState snapshot).2 = .error e → (r.importState snapshot).1 = r :=
  ⟨fun _ => r.run_of_failure, fun _ => r.perform_of_failure, fun _ _ => importState_of_error⟩

/-- A branch from nowhere, a pull request that was never opened, a snapshot without branches. -/
theorem unchanged_of_failure_deterministic :
    let r := deterministic .default
    (Console.isFailure (Console.run r "git checkout -b feature nowhere").2 = true
        ∧ (Console.run r "git checkout -b feature nowhere").1 = r)
      ∧ ((r.perform (.mergePull 1 .merge)).2.failed = true
        ∧ (r.perform (.mergePull 1 .merge)).1 = r)
      ∧ ((r.importState ⟨.empty, .empty, .empty, "main", [], []⟩).2 = .error (.unknownHead "main")
        ∧ (r.importState ⟨.empty, .empty, .empty, "main", [], []⟩).1 = r) := by
  intro r
  obtain ⟨hline, hoperation, hsnapshot⟩ := r.unchanged_of_failure
  have hfailed : Console.isFailure (Console.run r "git checkout -b feature nowhere").2 = true := by
    decide +kernel
  have hrefused : (r.perform (.mergePull 1 .merge)).2.failed = true := by decide +kernel
  have hrejected : (r.importState ⟨.empty, .empty, .empty, "main", [], []⟩).2
      = .error (.unknownHead "main") := rfl
  exact ⟨⟨hfailed, hline _ hfailed⟩, ⟨hrefused, hoperation _ hrefused⟩,
    ⟨hrejected, hsnapshot _ _ hrejected⟩⟩

end Repo

end GitPractice
