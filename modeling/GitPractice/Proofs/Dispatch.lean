import GitPractice.Console.Run
import GitPractice.Proofs.Outcome

/-!
# What a line amounts to

A command looks at the repository or turns the line down, performs one operation, or stages paths
one after another. The table `Answers` says so with every reply, and `execute_answers` is the only
place where the handlers are looked into. Where the words of a reply do not matter it is enough to
know what the command amounts to (`execute_amounts`). Which operation a command may perform is in
the table `Calls`, so what holds of the operations holds of every line, and what holds of some of
them holds of the lines of their commands.
-/

namespace GitPractice.Console

open Shell

/-- A `git` command. -/
def IsGit (c : Command) (name : String) : Prop := c.tool = .git ∧ c.name = name

/-- A `gh pr` command. -/
def IsPull (c : Command) (sub : String) : Prop :=
  c.tool = .gh ∧ c.name = "pr" ∧ c.sub = some sub

/-- The operations that a command may perform. -/
inductive Calls (c : Command) : Operation → Prop where
  | addAll (hname : IsGit c "add") : Calls c (.add "-A")
  | commit (hname : IsGit c "commit") (message : String) (all : Bool) :
      Calls c (.commit message all)
  | createBranch (hname : IsGit c "branch") (name : String) (start : Option String) :
      Calls c (.createBranch name start)
  | deleteBranch (hname : IsGit c "branch") (name : String) (force : Bool) :
      Calls c (.deleteBranch name force)
  | checkout (hname : IsGit c "checkout" ∨ IsGit c "switch") (target : String) (create : Bool)
      (start : Option String) : Calls c (.checkout target create start)
  | merge (hname : IsGit c "merge") (branch : String) : Calls c (.merge branch)
  | push (hname : IsGit c "push") (remote : String) (branch : Option String) (follow : Bool) :
      Calls c (.push remote branch follow)
  | unstage (hname : IsGit c "restore" ∨ IsGit c "reset") (paths : List String) :
      Calls c (.unstage paths)
  | restore (hname : IsGit c "restore") (hoff : c.hasFlag ["--staged", "-S"] = false) :
      Calls c (.discard c.args)
  | checkoutPath (hname : IsGit c "checkout") {path : String}
      (hpath : c.flagValue ["--"] = some path) : Calls c (.discard [path])
  | createPull (hname : IsPull c "create") (title body : String) (source : Option String)
      (target : String) : Calls c (.createPull title body source target)
  | mergePull (hname : IsPull c "merge") (number : UInt32) (method : MergeMethod) :
      Calls c (.mergePull number method)
  | closePull (hname : IsPull c "close") (number : UInt32) : Calls c (.closePull number)
  | requestReview (hname : IsPull c "edit") (number : UInt32) (reviewers : List String) :
      Calls c (.requestReview number reviewers)
  | addReview (hname : IsPull c "review") (number : UInt32) (reviewer : String)
      (verdict : Verdict) (comment : Option String) :
      Calls c (.addReview number reviewer verdict comment)
  | viewPull (hname : IsPull c "view") (number : UInt32) : Calls c (.viewPull number)

/-- A filter that is not known is turned down in words that name it. -/
def Worded (e : Misuse) : Prop :=
  ∀ message, e = .unknownFilter message → ∃ word, message = PullFilter.unknownMessage word

/-- The answers of a command of `git` or `gh`. -/
inductive Answers (c : Command) (r : Repo) : Repo × Response → Prop where
  | misused {e : Misuse} (hworded : Worded e) : Answers c r (returning (r.misused e))
  | shown (text : String) : Answers c r (r, some (.printed text))
  | performed {op : Operation} (hcalls : Calls c op) : Answers c r (r.perform op)
  | reset {paths : List String} (hcalls : Calls c (.unstage paths))
      (hsuccess : (r.unstage paths).2.success = true) :
      Answers c r ((r.unstage paths).1, some (Git.resetReply (r.unstage paths).1.state.working))
  | staged (hname : IsGit c "add") :
      Answers c r ({ r with state := c.args.foldl State.added r.state }, some .ok)

/-- The outcomes of a command. The response may put the result of an operation into other words,
but it comes if that of the operation comes, and does not turn failure into success. -/
inductive Amounts (c : Command) (r : Repo) : Repo × Response → Prop where
  | seen (reply : Reply) : Amounts c r (r, some reply)
  | performed {op : Operation} (hcalls : Calls c op) {response : Response}
      (hresponse : response.map Reply.success = (r.perform op).2.map Reply.success) :
      Amounts c r ((r.perform op).1, response)
  | staged (hname : IsGit c "add") :
      Amounts c r ({ r with state := c.args.foldl State.added r.state }, some .ok)

theorem worded_of_ne {e : Misuse} (h : ∀ message, e ≠ .unknownFilter message) : Worded e :=
  fun message heq => absurd heq (h message)

variable {c : Command} (r : Repo)

theorem answers_misused {e : Misuse} (h : ∀ message, e ≠ .unknownFilter message) :
    Answers c r (returning (r.misused e)) := .misused (worded_of_ne h)

namespace Git

theorem addEach_eq (paths : List String) :
    addEach r paths = ({ r with state := paths.foldl State.added r.state }, .ok) := by
  induction paths generalizing r with
  | nil => rfl
  | cons p paths ih =>
    simp only [addEach, r.add_eq p]
    exact ih _

theorem add_answers (hname : IsGit c "add") : Answers c r (returning (add c r)) := by
  unfold add
  split
  · exact .performed (.addAll hname)
  split
  · exact answers_misused r (by simp)
  · rw [addEach_eq]
    exact .staged hname

theorem commit_answers (hname : IsGit c "commit") : Answers c r (commit c r) := by
  unfold commit
  split
  · exact answers_misused r (by simp)
  · exact .performed (.commit hname _ _)

theorem listBranches_answers (listing : BranchListing) :
    Answers c r (returning (r, r.listBranches listing)) := by
  cases listing <;> exact .shown _

theorem branch_answers (hname : IsGit c "branch") : Answers c r (returning (branch c r)) := by
  unfold branch
  split
  · split
    · exact answers_misused r (by simp)
    · exact .performed (.deleteBranch hname _ _)
  split
  · exact listBranches_answers r .all
  split
  · exact listBranches_answers r .remotes
  split
  · exact listBranches_answers r .localOnly
  · exact .performed (.createBranch hname _ _)
  · exact .performed (.createBranch hname _ _)

theorem createBranch_answers (hname : IsGit c "checkout" ∨ IsGit c "switch")
    (names : List String) {e : Misuse} (h : ∀ message, e ≠ .unknownFilter message) :
    Answers c r (returning (createBranch c names e r)) := by
  unfold createBranch
  split
  · exact answers_misused r h
  · exact .performed (.checkout hname _ true _)

theorem checkout_answers (hname : IsGit c "checkout") : Answers c r (returning (checkout c r)) := by
  unfold checkout
  split
  · rename_i path hpath
    exact .performed (.checkoutPath hname hpath)
  split
  · exact createBranch_answers r (.inl hname) _ (by simp)
  split
  · exact answers_misused r (by simp)
  · exact .performed (.checkout (.inl hname) _ false none)

theorem switch_answers (hname : IsGit c "switch") : Answers c r (returning (switch c r)) := by
  unfold switch
  split
  · exact createBranch_answers r (.inr hname) _ (by simp)
  split
  · exact answers_misused r (by simp)
  · exact .performed (.checkout (.inr hname) _ false none)

theorem merge_answers (hname : IsGit c "merge") : Answers c r (merge c r) := by
  unfold merge
  split
  · exact answers_misused r (by simp)
  · exact .performed (.merge hname _)

theorem push_answers (hname : IsGit c "push") : Answers c r (returning (push c r)) :=
  .performed (.push hname _ _ _)

/-- A switch that was not given has swallowed nothing. -/
theorem argsWith_of_off {names : List String} (h : c.hasFlag names = false) :
    c.argsWith (c.switch names) = c.args := by
  have hnone : c.flagValue names = none := by
    simp only [Command.hasFlag, List.any_eq_false, Bool.not_eq_true,
      OrderedMap.contains_eq_false_iff] at h
    refine List.findSome?_eq_none_iff.2 fun n hn => ?_
    rw [OrderedMap.get?_eq_none_iff.2 (h n hn), Option.join_none]
  simp [Command.argsWith, Command.switch, hnone]

theorem restore_answers (hname : IsGit c "restore") : Answers c r (returning (restore c r)) := by
  unfold restore
  simp only []
  split
  · exact answers_misused r (by simp)
  split
  · exact .performed (.unstage (.inl hname) _)
  · rename_i hoff
    rw [Bool.not_eq_true] at hoff
    rw [argsWith_of_off hoff]
    exact .performed (.restore hname hoff)

theorem reset_answers (hname : IsGit c "reset") : Answers c r (returning (reset c r)) := by
  unfold reset
  split
  · exact answers_misused r (by simp)
  simp only []
  generalize (if (c.args.filter (· ≠ "HEAD")).isEmpty then r.state.staged.map StagedChange.file
    else c.args.filter (· ≠ "HEAD")) = paths
  split
  · rename_i hsuccess
    exact .reset (.unstage (.inr hname) paths) hsuccess
  · exact .performed (.unstage (.inr hname) paths)

theorem remote_answers : Answers c r (returning (remote c r)) := by
  unfold remote Action.ofView Repo.remotes
  dsimp only
  split
  · exact answers_misused r (by simp)
  split
  · exact .shown _
  · exact .shown _

theorem answers_of_mem {name : String} {h : Handler} (hname : IsGit c name)
    (hmem : (name, h) ∈ handlers) : Answers c r (h c r) := by
  simp only [handlers, List.mem_cons, Prod.mk.injEq, List.not_mem_nil, or_false] at hmem
  rcases hmem with ⟨-, rfl⟩ | ⟨rfl, rfl⟩ | ⟨rfl, rfl⟩ | ⟨rfl, rfl⟩ | ⟨rfl, rfl⟩ | ⟨rfl, rfl⟩ |
    ⟨rfl, rfl⟩ | ⟨-, rfl⟩ | ⟨rfl, rfl⟩ | ⟨-, rfl⟩ | ⟨-, rfl⟩ | ⟨-, rfl⟩ | ⟨-, rfl⟩ | ⟨rfl, rfl⟩ |
    ⟨rfl, rfl⟩
  · exact .shown _
  · exact add_answers r hname
  · exact commit_answers r hname
  · exact branch_answers r hname
  · exact checkout_answers r hname
  · exact switch_answers r hname
  · exact merge_answers r hname
  · exact .shown _
  · exact push_answers r hname
  · exact .shown _
  · exact .shown _
  · exact .shown _
  · exact remote_answers r
  · exact restore_answers r hname
  · exact reset_answers r hname

end Git

namespace Pull

theorem worded_of_readNumber {word : String} {e : Misuse} (h : readNumber word = .error e) :
    Worded e := by
  unfold readNumber at h
  split at h
  · cases h
  · cases h
    exact worded_of_ne (by simp)

theorem worded_of_numberOrCurrent {words : List String} {e : Misuse}
    (h : numberOrCurrent r words = .error e) : Worded e := by
  cases words with
  | nil =>
    rw [numberOrCurrent] at h
    split at h
    · cases h
    · cases h
      exact worded_of_ne (by simp)
  | cons word _ => exact worded_of_readNumber h

theorem create_answers (hname : IsPull c "create") : Answers c r (returning (create c r)) := by
  unfold create
  split
  · exact answers_misused r (by simp)
  · exact .performed (.createPull hname _ _ _ _)

theorem list_answers : Answers c r (returning (list c r)) := by
  unfold list Action.ofView Repo.listPulls
  dsimp only
  split
  · split
    · exact .shown _
    · exact .shown _
  split
  · split
    · exact .shown _
    · exact .shown _
  · exact .misused fun message hmessage => ⟨_, (Misuse.unknownFilter.inj hmessage).symm⟩

theorem merge_answers (hname : IsPull c "merge") : Answers c r (merge c r) := by
  unfold merge
  simp only []
  split
  · rename_i herror
    exact .misused (worded_of_numberOrCurrent r herror)
  · exact .performed (.mergePull hname _ _)

theorem close_answers (hname : IsPull c "close") : Answers c r (returning (close c r)) := by
  unfold close
  split
  · exact answers_misused r (by simp)
  split
  · rename_i herror
    exact .misused (worded_of_readNumber herror)
  · exact .performed (.closePull hname _)

theorem view_answers (hname : IsPull c "view") : Answers c r (returning (view c r)) := by
  unfold view
  split
  · split
    · rename_i herror
      exact .misused (worded_of_readNumber herror)
    · exact .performed (.viewPull hname _)
  · split
    · exact answers_misused r (by simp)
    · exact .performed (.viewPull hname _)

theorem review_answers (hname : IsPull c "review") : Answers c r (returning (review c r)) := by
  unfold review
  split
  · exact answers_misused r (by simp)
  simp only []
  split
  · exact answers_misused r (by simp)
  split
  · rename_i herror
    exact .misused (worded_of_numberOrCurrent r herror)
  · exact .performed (.addReview hname _ _ _ _)

theorem edit_answers (hname : IsPull c "edit") : Answers c r (returning (edit c r)) := by
  unfold edit
  split
  · exact answers_misused r (by simp)
  split
  · rename_i herror
    exact .misused (worded_of_readNumber herror)
  simp only []
  split
  · exact answers_misused r (by simp)
  · exact .performed (.requestReview hname _ _)

theorem answers_of_mem {sub : String} {h : Handler} (hname : IsPull c sub)
    (hmem : (sub, h) ∈ handlers) : Answers c r (h c r) := by
  simp only [handlers, List.mem_cons, Prod.mk.injEq, List.not_mem_nil, or_false] at hmem
  rcases hmem with ⟨rfl, rfl⟩ | ⟨-, rfl⟩ | ⟨rfl, rfl⟩ | ⟨rfl, rfl⟩ | ⟨rfl, rfl⟩ | ⟨rfl, rfl⟩ |
    ⟨rfl, rfl⟩
  · exact create_answers r hname
  · exact list_answers r
  · exact merge_answers r hname
  · exact close_answers r hname
  · exact view_answers r hname
  · exact review_answers r hname
  · exact edit_answers r hname

end Pull

theorem mem_of_lookup {β : Type} {l : List (String × β)} {k : String} {v : β}
    (h : l.lookup k = some v) : (k, v) ∈ l := by
  obtain ⟨l₁, l₂, rfl, -⟩ := List.lookup_eq_some_iff.1 h
  exact List.mem_append_right _ List.mem_cons_self

theorem mem_of_gitHandler {name : String} {h : Handler} (hhandler : gitHandler name = .ok h) :
    (name, h) ∈ Git.handlers := by
  unfold gitHandler at hhandler
  split at hhandler
  · cases hhandler
  rename_i entry hentry
  have hname : name = entry.name := by simpa [eq_comm] using List.find?_some hentry
  split at hhandler
  · rename_i handler hlookup
    split at hhandler
    · simp only [Except.ok.injEq] at hhandler
      exact hname ▸ mem_of_lookup (hhandler ▸ hlookup)
    · cases hhandler
  · cases hhandler

theorem mem_of_pullHandler {name : String} {sub : Option String} {h : Handler}
    (hhandler : pullHandler name sub = .ok h) :
    name = "pr" ∧ ∃ word, sub = some word ∧ (word, h) ∈ Pull.handlers := by
  unfold pullHandler at hhandler
  split at hhandler
  · cases hhandler
  rename_i hname
  rw [not_not] at hname
  split at hhandler
  · rename_i handler hlookup
    simp only [Except.ok.injEq] at hhandler
    subst hhandler
    cases sub with
    | none => cases hlookup
    | some word => exact ⟨hname, word, rfl, mem_of_lookup hlookup⟩
  · split at hhandler <;> cases hhandler

theorem worded_of_gitHandler {name : String} {e : Misuse} (h : gitHandler name = .error e) :
    Worded e := by
  unfold gitHandler at h
  split at h
  · cases h
    exact worded_of_ne (by simp)
  split at h
  · split at h
    · cases h
    · cases h
      exact worded_of_ne (by simp)
  · cases h
    exact worded_of_ne (by simp)

theorem worded_of_pullHandler {name : String} {sub : Option String} {e : Misuse}
    (h : pullHandler name sub = .error e) : Worded e := by
  unfold pullHandler at h
  split at h
  · cases h
    exact worded_of_ne (by simp)
  split at h
  · cases h
  split at h
  · cases h
    exact worded_of_ne (by simp)
  · cases h
    exact worded_of_ne (by simp)

theorem execute_answers (htool : c.tool ≠ .internal) : Answers c r (execute c r) := by
  unfold execute handlerOf
  cases hname : c.tool with
  | internal => exact absurd hname htool
  | git =>
    dsimp only
    split
    · rename_i herror
      exact .misused (worded_of_gitHandler herror)
    · rename_i hhandler
      exact Git.answers_of_mem r ⟨hname, rfl⟩ (mem_of_gitHandler hhandler)
  | gh =>
    dsimp only
    split
    · rename_i herror
      exact .misused (worded_of_pullHandler herror)
    · rename_i hhandler
      obtain ⟨hpull, sub, hsub, hmem⟩ := mem_of_pullHandler hhandler
      exact Pull.answers_of_mem r ⟨hname, hpull, hsub⟩ hmem

/-! ## Whatever is said -/

theorem resetReply_success (working : List String) :
    (Git.resetReply working).success = true := by
  unfold Git.resetReply
  split <;> rfl

theorem Answers.amounts {out : Repo × Response} (h : Answers c r out) : Amounts c r out := by
  cases h with
  | misused hworded => exact .seen _
  | shown text => exact .seen _
  | performed hcalls => exact .performed hcalls rfl
  | reset hcalls hsuccess =>
    exact .performed hcalls
      (congrArg some ((resetReply_success _).trans hsuccess.symm))
  | staged hname => exact .staged hname

theorem execute_internal (htool : c.tool = .internal) :
    execute c r = (r, some (keywordReply c)) := by
  rw [execute, handlerOf, htool]
  rfl

theorem execute_amounts (c : Command) : Amounts c r (execute c r) := by
  by_cases htool : c.tool = .internal
  · rw [execute_internal r htool]
    exact .seen _
  · exact (execute_answers r htool).amounts

/-- What the command of a line amounts to. -/
def LineAmounts (line : String) (r : Repo) (out : Repo × Response) : Prop :=
  ∃ c, Command.parse line = .ok c ∧ Amounts c r out

/-- A line that is no command changes nothing; any other amounts to what its command does. -/
theorem run_cases (line : String) : (∃ e, run r line = (r, .error e)) ∨
    ∃ out, LineAmounts line r out ∧ run r line = (out.1, .ok out.2) := by
  unfold run
  split
  · rename_i e _
    exact .inl ⟨e, rfl⟩
  · rename_i c hparse
    exact .inr ⟨_, ⟨c, hparse, execute_amounts r c⟩, rfl⟩

end GitPractice.Console
