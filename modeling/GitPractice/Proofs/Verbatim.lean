import GitPractice.Proofs.Dispatch
import GitPractice.Proofs.Spelling

/-!
# Quoted words, verbatim

A text in quotes is one word of its line, whatever it holds (`typed_quoted`). If it does not begin
with a dash it is no flag, and behind a flag it is its value. So a quoted message is the message of
the commit and quoted paths are the paths that are added, character by character
(`run_quoted_verbatim`).
-/

namespace GitPractice

open Shell Text

/-- Behind plain words, quoted texts are words of the line. -/
theorem Shell.typed_quoted (plain : List String) (hplain : ∀ w ∈ plain, isPlain w = true)
    (words : List (Quote × String)) :
    Typed (joinWith " " (plain ++ words.map fun w => w.1.spell w.2))
      (plain ++ words.map Prod.snd) := by
  refine ⟨plain.map (fun w => (w, w)) ++ words.map fun w => (w.1.spell w.2, w.2), ?_,
    by simp [Function.comp_def], by simp [Function.comp_def]⟩
  intro w hw
  rcases List.mem_append.1 hw with hw | hw
  · obtain ⟨v, hv, rfl⟩ := List.mem_map.1 hw
    exact spells_plain (hplain v hv)
  · obtain ⟨v, -, rfl⟩ := List.mem_map.1 hw
    exact spells_spell v.1 v.2

/-- Adding paths one after another. -/
theorem Repo.afterAll_added (r : Repo) (paths : List String) :
    r.afterAll (paths.map fun p => .performed (.add p))
      = { r with state := paths.foldl State.added r.state } := by
  induction paths generalizing r with
  | nil => rfl
  | cons p paths ih =>
    have hadd : r.after (.performed (.add p)) = { r with state := r.state.added p } :=
      congrArg Prod.fst (r.add_eq p)
    rw [List.map_cons, afterAll, List.foldl_cons, hadd]
    exact ih _

namespace Console

variable (r : Repo) {line : String}

theorem run_commit_message {message : String} (hmessage : isDashed message = false)
    (h : Typed line ["git", "commit", "-m", message]) :
    run r line = responded (r.commit message false) := by
  have hsplit : splitFlags ["-m", message] = (.ofList [("-m", some message)], []) :=
    splitFlags_valued (by decide) (by decide) hmessage (List.forall_mem_nil _)
  rw [run_git (h := Git.commit) h hsplit rfl]
  rfl

theorem run_add_paths {paths : List String} (hne : paths ≠ [])
    (hpaths : ∀ p ∈ paths, isDashed p = false) (h : Typed line ("git" :: "add" :: paths)) :
    run r line = answered (r.afterAll (paths.map fun p => .performed (.add p)), .ok) := by
  have hsome : paths.isEmpty = false := by simpa using hne
  rw [run_git (h := .ofAction Git.add) h (splitFlags_positionals hpaths) rfl, r.afterAll_added,
    ← Git.addEach_eq]
  simp only [Handler.ofAction, Git.add, hsome, Bool.false_eq_true, if_false]
  rfl

/-- In either kind of quotes, a message is committed with and paths are added as they are. -/
theorem run_quoted_verbatim :
    (∀ (q : Quote) (message : String), isDashed message = false →
      run r ("git commit -m " ++ q.spell message) = responded (r.commit message false))
    ∧ ∀ words : List (Quote × String), words ≠ [] → (∀ w ∈ words, isDashed w.2 = false) →
      run r ("git add " ++ joinWith " " (words.map fun w => w.1.spell w.2))
        = answered (r.afterAll (words.map fun w => .performed (.add w.2)), .ok) := by
  constructor
  · intro q message hmessage
    have htyped := typed_quoted ["git", "commit", "-m"] (by decide) [(q, message)]
    exact run_commit_message r hmessage htyped
  · intro words hne hdashed
    have htyped := typed_quoted ["git", "add"] (by decide) words
    have hpaths : ∀ p ∈ words.map Prod.snd, isDashed p = false := List.forall_mem_map.2 hdashed
    have hrun := run_add_paths r (mt List.map_eq_nil_iff.1 hne) hpaths htyped
    obtain ⟨w, words, rfl⟩ := List.exists_cons_of_ne_nil hne
    rw [List.map_map] at hrun
    exact hrun

/-- A message of two lines with both kinds of quotes, and a path with an equals sign and an empty
one. -/
theorem run_quoted_verbatim_both :
    run (.deterministic .default) "git commit -m 'Don'\\''t say \"no\"\n  =twice\\'"
      = responded ((Repo.deterministic .default).commit "Don't say \"no\"\n  =twice\\" false)
    ∧ run (.deterministic .default) "git add \"a=\\\\ \\\"b\\\"\" '' ' .'"
      = answered ((Repo.deterministic .default).afterAll
          [.performed (.add "a=\\ \"b\""), .performed (.add ""), .performed (.add " .")], .ok) := by
  obtain ⟨hcommit, hadd⟩ := run_quoted_verbatim (.deterministic .default)
  constructor
  · exact hcommit .single "Don't say \"no\"\n  =twice\\" (by decide)
  · exact hadd [(.double, "a=\\ \"b\""), (.single, ""), (.single, " .")] (by decide) (by decide)

end Console
end GitPractice
