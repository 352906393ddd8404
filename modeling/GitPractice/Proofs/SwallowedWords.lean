import GitPractice.Proofs.Outcome
import GitPractice.Proofs.Spelling
import GitPractice.Proofs.Unstaging

/-!
# Swallowed words

A flag takes the next word as its value even if it means nothing by it. The handler of a push puts
the word back in front of the others, which is its place if the switch came first, but not if it
came between the remote and the branch (`run_push_switch`). Two dashes take one path as their value
too, and a checkout discards the changes to that path alone (`run_checkout_paths`).
-/

namespace GitPractice

open Shell

theorem filter_contains_eq_iff {working paths : List String} (path : String)
    (h : ∀ p ∈ paths, p ∈ working) :
    (working.filter fun f => !([path].contains f))
      = (working.filter fun f => !(path :: paths).contains f) ↔ ∀ p ∈ paths, p = path := by
  constructor
  · intro hsame p hp
    by_contra hne
    have hkept : p ∈ working.filter fun f => !([path].contains f) :=
      List.mem_filter.2 ⟨h p hp, by simpa using hne⟩
    rw [hsame] at hkept
    simp [hp] at hkept
  · intro honly
    have hsame (f : String) : (path :: paths).contains f = [path].contains f := by
      rw [Bool.eq_iff_iff]
      simpa using honly f
    simp only [hsame]

theorem Repo.discard_head_iff (r : Repo) (path : String) (paths : List String) :
    (r.discard [path]).1.state = (r.discard (path :: paths)).1.state
      ∧ (r.discard [path]).2.success = (r.discard (path :: paths)).2.success
      ↔ path ∉ r.state.working ∨ ∀ p ∈ paths, p = path := by
  by_cases hpath : path ∈ r.state.working
  · have hone := discard_of_pending (List.forall_mem_singleton.2 hpath)
    by_cases hall : ∀ p ∈ paths, p ∈ r.state.working
    · have hmany := discard_of_pending (List.forall_mem_cons.2 ⟨hpath, hall⟩)
      rw [hone, hmany, or_iff_right (not_not_intro hpath), ← filter_contains_eq_iff path hall]
      exact ⟨fun h => congrArg State.working h.1, fun h => ⟨by simp only [h], rfl⟩⟩
    · obtain ⟨p, hp, hnot⟩ := by simpa using hall
      have hmany := refused_discard (List.mem_cons_of_mem path hp) hnot
      rw [hone, hmany.success_eq]
      refine iff_of_false (fun heq => by cases heq.2) ?_
      rintro (hnone | honly)
      · exact hnone hpath
      · exact hnot (honly p hp ▸ hpath)
  · have hone := refused_discard (List.mem_singleton_self path) hpath
    have hmany : r.Refused (returning (r.discard (path :: paths))) :=
      refused_discard List.mem_cons_self hpath
    have hkept : (r.discard [path]).1 = r := hone.repo_eq
    have hkept' : (r.discard (path :: paths)).1 = r := hmany.repo_eq
    rw [hkept, hkept', hone.success_eq, hmany.success_eq]
    exact iff_of_true ⟨rfl, rfl⟩ (.inl hpath)

namespace Console

variable (r : Repo) {line : String}

/-! ## Upstream switches -/

section Upstream

variable {u remote branch : String} (hu : u ∈ ["-u", "--set-upstream"])

include hu

theorem Git.push_of_upstream {c : Command} {value : Option String}
    (hflags : c.flags = .ofList [(u, value)]) :
    Git.push c r = r.push ((value.toList ++ c.args).headD defaultRemote)
      (value.toList ++ c.args)[1]? true := by
  simp only [Git.push, Command.switch_one hflags hu, Command.argsWith]

theorem run_push {words args : List String} {value : Option String}
    (htyped : Typed line ("git" :: "push" :: words))
    (hsplit : splitFlags words = (.ofList [(u, value)], args)) :
    run r line = answered (r.push ((value.toList ++ args).headD defaultRemote)
      (value.toList ++ args)[1]? true) := by
  rw [run_git (h := .ofAction Git.push) htyped hsplit rfl]
  exact congrArg answered (Git.push_of_upstream r hu rfl)

theorem assignment?_upstream : assignment? u = none := by
  revert u
  decide

theorem isFlag_upstream : isFlag u = true := by
  revert u
  decide

/-- At either end the switch does no harm. In the middle it swallows the branch, which is then taken
for the remote, and nothing is pushed unless the remote has the name of a branch. -/
theorem run_push_switch (hremote : isDashed remote = false) (hbranch : isDashed branch = false) :
    (∀ line, Typed line ["git", "push", u, remote, branch] →
      run r line = answered (r.push remote (some branch) true))
    ∧ (∀ line, Typed line ["git", "push", remote, branch, u] →
      run r line = answered (r.push remote (some branch) true))
    ∧ ∀ line, Typed line ["git", "push", remote, u, branch] →
      run r line = answered (r.push branch (some remote) true)
      ∧ (remote ∉ r.state.branches.keys →
        run r line = answered (r.refuse (.noSuchRefspec remote))) := by
  have hnone := assignment?_upstream hu
  have hflag := isFlag_upstream hu
  refine ⟨fun line h => ?_, fun line h => ?_, fun line h => ?_⟩
  · have hsplit : splitFlags [u, remote, branch] = (.ofList [(u, some remote)], [branch]) :=
      splitFlags_valued hnone hflag hremote (List.forall_mem_singleton.2 hbranch)
    exact run_push r hu h hsplit
  · have hsplit : splitFlags [remote, branch, u] = (.ofList [(u, none)], [remote, branch]) := by
      rw [splitFlags, segments_positional hremote, segments_positional hbranch,
        segments_lone hnone hflag]
      rfl
    exact run_push r hu h hsplit
  · have hsplit : splitFlags [remote, u, branch] = (.ofList [(u, some branch)], [remote]) := by
      rw [splitFlags, segments_positional hremote, segments_valued hnone hflag hbranch, segments]
      rfl
    have hrun := run_push r hu h hsplit
    refine ⟨hrun, fun hnot => ?_⟩
    have hrefused : r.push branch (some remote) true = r.refuse (.noSuchRefspec remote) :=
      r.push_of_notMem branch (by exact hnot) true
    exact hrun.trans (congrArg answered hrefused)

end Upstream

theorem run_push_switch_origin :
    run (Repo.deterministic .default) "git push -u origin main"
      = answered ((Repo.deterministic .default).push "origin" (some "main") true)
    ∧ run (Repo.deterministic .default) "git push origin main -u"
      = answered ((Repo.deterministic .default).push "origin" (some "main") true)
    ∧ run (Repo.deterministic .default) "git push origin -u main"
      = answered ((Repo.deterministic .default).refuse (.noSuchRefspec "origin")) := by
  have hupstream : "-u" ∈ ["-u", "--set-upstream"] := by decide
  have hremote : isDashed "origin" = false := by decide
  have hbranch : isDashed "main" = false := by decide
  obtain ⟨hfirst, hlast, hbetween⟩ :=
    run_push_switch (.deterministic .default) hupstream hremote hbranch
  refine ⟨hfirst _ ?_, hlast _ ?_, (hbetween _ ?_).2 (by decide +kernel)⟩
  · exact typed_spelling (by decide)
  · exact typed_spelling (by decide)
  · exact typed_spelling (by decide)

theorem push_switch_between :
    ¬ ∀ (r : Repo) (u remote branch line line' : String), u ∈ ["-u", "--set-upstream"] →
      isDashed remote = false → isDashed branch = false →
      Typed line ["git", "push", u, remote, branch] →
      Typed line' ["git", "push", remote, u, branch] → run r line = run r line' := by
  intro h
  have hsame := h (Repo.deterministic .default) "-u" "origin" "main" "git push -u origin main"
    "git push origin -u main" (by decide) (by decide) (by decide) (typed_spelling (by decide))
    (typed_spelling (by decide))
  have hsuccess := congrArg (fun out => out.2.toOption.map Response.succeeded) hsame
  revert hsuccess
  decide +kernel

/-! ## Two dashes -/

section Paths

variable {path : String} {paths : List String} (hpaths : ∀ p ∈ path :: paths, isDashed p = false)

include hpaths

theorem run_checkout_dashes (h : Typed line ("git" :: "checkout" :: "--" :: path :: paths)) :
    run r line = answered (r.discard [path]) := by
  obtain ⟨hpath, hrest⟩ := List.forall_mem_cons.1 hpaths
  have hsplit : splitFlags ("--" :: path :: paths) = (.ofList [("--", some path)], paths) :=
    splitFlags_valued (by decide) (by decide) hpath hrest
  rw [run_git (h := .ofAction Git.checkout) h hsplit rfl]
  rfl

theorem run_restore (h : Typed line ("git" :: "restore" :: path :: paths)) :
    run r line = answered (r.discard (path :: paths)) := by
  rw [run_git (h := .ofAction Git.restore) h (splitFlags_positionals hpaths) rfl]
  rfl

/-- A restore acts on all the paths and a checkout on the first alone. They agree only if the first
is not pending, and then both are refused, or if there is no other. -/
theorem run_checkout_paths :
    (∀ line, Typed line ("git" :: "restore" :: path :: paths) →
      run r line = answered (r.discard (path :: paths)))
    ∧ ∀ line, Typed line ("git" :: "checkout" :: "--" :: path :: paths) →
      run r line = answered (r.discard [path])
      ∧ ((r.discard [path]).1.state = (r.discard (path :: paths)).1.state
          ∧ (r.discard [path]).2.success = (r.discard (path :: paths)).2.success
        ↔ path ∉ r.state.working ∨ ∀ p ∈ paths, p = path) :=
  ⟨fun _ h => run_restore r hpaths h,
    fun _ h => ⟨run_checkout_dashes r hpaths h, r.discard_head_iff path paths⟩⟩

end Paths

/-- A new repository with two edited files. -/
def drafting : Repo := ((Repo.deterministic .default).edit "my notes").edit "draft"

theorem run_checkout_paths_drafting :
    run drafting "git restore 'my notes' draft"
      = answered (drafting.discard ["my notes", "draft"])
    ∧ run drafting "git checkout -- 'my notes' draft" = answered (drafting.discard ["my notes"])
    ∧ (drafting.discard ["my notes"]).1.state.working = ["draft"] := by
  have hpaths : ∀ p ∈ ["my notes", "draft"], isDashed p = false := by decide
  obtain ⟨hrestore, hcheckout⟩ := run_checkout_paths drafting hpaths
  refine ⟨hrestore _ (typed_spelling (by decide)), (hcheckout _ (typed_spelling (by decide))).1, ?_⟩
  decide +kernel

theorem checkout_keeps_second :
    ¬ ∀ (r : Repo) (path : String) (paths : List String) (line : String),
      (∀ p ∈ path :: paths, isDashed p = false) →
      Typed line ("git" :: "checkout" :: "--" :: path :: paths) →
      (run r line).1.state = (r.discard (path :: paths)).1.state := by
  intro h
  have hsame := h drafting "draft" ["my notes"] "git checkout -- draft 'my notes'" (by decide)
    (typed_spelling (by decide))
  have hworking := congrArg State.working hsame
  revert hworking
  decide +kernel

end Console
end GitPractice
