import GitPractice.Proofs.Dispatch

/-!
# What replies say

A session ends on one message, and the messages of the commands carry texts that were typed. None of
them can be that message, as typed text only ever stands behind other words (`BeginsPlainly`): this
holds of every refusal and so of every operation (`plain_perform`), and of every other answer of a
command (`Answers.plain`). So only the keywords that are meant to end a session do
(`isExit_execute_iff`).
-/

namespace GitPractice

/-! ## Plain messages -/

/-- The text begins, and not with the character that the message ending a session begins with. -/
def BeginsPlainly (text : String) : Prop := ∃ c cs, text = String.ofList (c :: cs) ∧ c ≠ '_'

theorem BeginsPlainly.append {text : String} (h : BeginsPlainly text) (rest : String) :
    BeginsPlainly (text ++ rest) := by
  obtain ⟨c, cs, rfl, hc⟩ := h
  refine ⟨c, cs ++ rest.toList, ?_, hc⟩
  rw [← String.toList_inj, String.toList_append, String.toList_ofList, String.toList_ofList,
    List.cons_append]

theorem BeginsPlainly.ne_exitMessage {text : String} (h : BeginsPlainly text) :
    text ≠ Reply.exitMessage := by
  obtain ⟨c, cs, rfl, hc⟩ := h
  intro hexit
  have hlist : c :: cs = Reply.exitMessage.toList := by rw [← hexit, String.toList_ofList]
  exact hc (List.cons.inj hlist).1

theorem Refusal.beginsPlainly_message (e : Refusal) : BeginsPlainly e.message := by
  -- The equations of the definition would take too long to derive.
  delta message
  cases e <;> dsimp only <;> repeat refine BeginsPlainly.append ?_ _
  all_goals exact ⟨_, _, rfl, by decide⟩

theorem PullFilter.beginsPlainly_unknownMessage (word : String) :
    BeginsPlainly (unknownMessage word) :=
  BeginsPlainly.append (BeginsPlainly.append ⟨_, _, rfl, by decide⟩ _) _

theorem Misuse.beginsPlainly_message {e : Misuse} (h : Console.Worded e) :
    BeginsPlainly e.message := by
  cases e with
  | unknownFilter message =>
    obtain ⟨word, rfl⟩ := h message rfl
    exact PullFilter.beginsPlainly_unknownMessage word
  | _ =>
    delta message
    dsimp only
    repeat refine BeginsPlainly.append ?_ _
    exact ⟨_, _, rfl, by decide⟩

/-- The reply has no message, or one that begins plainly. -/
def Reply.Plain (reply : Reply) : Prop := reply.message = "" ∨ BeginsPlainly reply.message

theorem Reply.plain_ok : Reply.ok.Plain := .inl rfl

theorem Reply.plain_printed (text : String) : (Reply.printed text).Plain := .inl rfl

theorem Reply.Plain.message_ne {reply : Reply} (h : reply.Plain) :
    reply.message ≠ Reply.exitMessage := by
  rcases h with hempty | hbegins
  · rw [hempty]
    decide
  · exact hbegins.ne_exitMessage

theorem Reply.Plain.isExit_eq_false {reply : Reply} (h : reply.Plain) : reply.isExit = false :=
  beq_eq_false_iff_ne.2 h.message_ne

/-- What comes back is plain, if anything does. -/
def Response.Plain (a : Response) : Prop := ∀ reply ∈ a, reply.Plain

theorem Reply.Plain.response {reply : Reply} (h : reply.Plain) : Response.Plain (some reply) :=
  fun _ heq => Option.some.inj heq ▸ h

theorem Response.plain_none : Response.Plain none := nofun

theorem Response.Plain.any_isExit_eq_false {a : Response} (h : a.Plain) :
    a.any Reply.isExit = false := by
  cases a with
  | none => rfl
  | some reply => exact (h reply rfl).isExit_eq_false

/-! ## Operations -/

namespace Repo

variable (r : Repo)

theorem plain_refuse (e : Refusal) : (r.refuse e).2.Plain := .inr e.beginsPlainly_message

theorem plain_createBranch (name : String) (start : Option String) :
    (r.createBranch name start).2.Plain := by
  rcases r.createBranch_cases name start with ⟨e, h⟩ | ⟨tip, -, -, h⟩
  · rw [h]
    exact r.plain_refuse e
  · rw [h]
    exact Reply.plain_ok

theorem plain_deleteBranch (name : String) (force : Bool) :
    (r.deleteBranch name force).2.Plain := by
  unfold deleteBranch
  split
  · exact r.plain_refuse _
  split_ifs
  · exact r.plain_refuse _
  · exact r.plain_refuse _
  · exact Reply.plain_printed _

theorem plain_switchTo (target : String) : (r.switchTo target).2.Plain := by
  unfold switchTo
  split_ifs
  · exact r.plain_refuse _
  · exact Reply.plain_printed _
  · exact Reply.plain_printed _

theorem plain_checkout (target : String) (create : Bool) (start : Option String) :
    (r.checkout target create start).2.Plain := by
  unfold checkout createAndSwitch
  split_ifs
  · dsimp only
    split_ifs
    · exact Reply.plain_printed _
    · exact r.plain_createBranch target start
  · exact r.plain_switchTo target

theorem plain_commit (message : String) (all : Bool) : (r.commit message all).2.Plain := by
  unfold commit
  split
  · exact (r.plain_refuse _).response
  split
  · exact (r.plain_refuse _).response
  split
  · exact (r.plain_refuse _).response
  dsimp only
  split
  · exact Response.plain_none
  · exact (Reply.plain_printed _).response

theorem plain_merge (branch : String) : (r.merge branch).2.Plain := by
  unfold merge
  split
  · exact (r.plain_refuse _).response
  split
  · exact (r.plain_refuse _).response
  dsimp only
  split
  · exact Response.plain_none
  · exact (Reply.plain_printed _).response

theorem plain_push (remote : String) (branch : Option String) (follow : Bool) :
    (r.push remote branch follow).2.Plain := by
  rcases hsource : r.state.branches.get? (branch.getD r.state.head) with _ | source
  · rw [r.push_of_notMem remote (OrderedMap.get?_eq_none_iff.1 hsource)]
    exact r.plain_refuse _
  · obtain ⟨text, h⟩ := r.push_of_some hsource follow
    rw [h]
    exact Reply.plain_printed text

theorem plain_createPull (title body : String) (source : Option String) (target : String) :
    (r.createPull title body source target).2.Plain := by
  unfold createPull
  dsimp only
  split
  · exact r.plain_refuse _
  · exact Reply.plain_printed _

theorem plain_mergePull (number : UInt32) (method : MergeMethod) :
    (r.mergePull number method).2.Plain := by
  unfold mergePull
  split
  · exact (r.plain_refuse _).response
  split_ifs
  · exact (r.plain_refuse _).response
  · exact (r.plain_refuse _).response
  dsimp only
  split_ifs
  · exact (r.plain_switchTo _).response
  · exact plain_merge _ _
  · exact (Reply.plain_printed _).response

theorem plain_unstage (paths : List String) : (r.unstage paths).2.Plain := by
  unfold unstage
  split
  · exact r.plain_refuse _
  · exact Reply.plain_ok

theorem plain_discard (paths : List String) : (r.discard paths).2.Plain := by
  unfold discard
  split
  · exact r.plain_refuse _
  · exact Reply.plain_ok

theorem plain_closePull (number : UInt32) : (r.closePull number).2.Plain := by
  unfold closePull
  split
  · exact r.plain_refuse _
  · exact Reply.plain_printed _

theorem plain_requestReview (number : UInt32) (reviewers : List String) :
    (r.requestReview number reviewers).2.Plain := by
  unfold requestReview
  split_ifs
  · exact Reply.plain_printed _
  · exact r.plain_refuse _

theorem plain_addReview (number : UInt32) (reviewer : String) (verdict : Verdict)
    (comment : Option String) : (r.addReview number reviewer verdict comment).2.Plain := by
  unfold addReview
  split_ifs
  · exact Reply.plain_printed _
  · exact r.plain_refuse _

theorem plain_viewPull (number : UInt32) : (r.viewPull number).2.Plain := by
  unfold viewPull
  split
  · exact r.plain_refuse _
  · exact Reply.plain_printed _

/-- Whatever was typed, no operation answers with the message that ends a session. -/
theorem plain_perform (op : Operation) : (r.perform op).2.Plain := by
  cases op with
  | createBranch name start => exact (r.plain_createBranch name start).response
  | deleteBranch name force => exact (r.plain_deleteBranch name force).response
  | checkout target create start => exact (r.plain_checkout target create start).response
  | add path =>
    rw [perform, r.add_eq path]
    exact Reply.plain_ok.response
  | unstage paths => exact (r.plain_unstage paths).response
  | discard paths => exact (r.plain_discard paths).response
  | commit message all => exact r.plain_commit message all
  | merge branch => exact r.plain_merge branch
  | push remote branch follow => exact (r.plain_push remote branch follow).response
  | createPull title body source target =>
    exact (r.plain_createPull title body source target).response
  | mergePull number method => exact r.plain_mergePull number method
  | closePull number => exact (r.plain_closePull number).response
  | requestReview number reviewers => exact (r.plain_requestReview number reviewers).response
  | addReview number reviewer verdict comment =>
    exact (r.plain_addReview number reviewer verdict comment).response
  | viewPull number => exact (r.plain_viewPull number).response

end Repo

namespace Console

open Shell

/-! ## Commands -/

variable {c : Command} {r : Repo}

theorem Answers.plain {out : Repo × Response} (h : Answers c r out) : out.2.Plain := by
  cases h with
  | misused hworded =>
    exact Reply.Plain.response (.inr (Misuse.beginsPlainly_message hworded))
  | shown text => exact (Reply.plain_printed text).response
  | performed hcalls => exact r.plain_perform _
  | reset hcalls hsuccess =>
    refine Reply.Plain.response ?_
    unfold Git.resetReply
    split_ifs
    · exact Reply.plain_ok
    · exact Reply.plain_printed _
  | staged hname => exact Reply.plain_ok.response

/-- The keywords that end a session. -/
def exitWords : List String := ["quit", "exit"]

theorem plain_told (name : String) : (Reply.told ("Internal command: " ++ name)).Plain :=
  .inr (BeginsPlainly.append ⟨_, _, rfl, by decide⟩ name)

theorem isExit_keywordReply_iff : (keywordReply c).isExit = true ↔ c.name ∈ exitWords := by
  unfold keywordReply
  split_ifs with hhelp hexit
  · rw [(Reply.plain_printed _).isExit_eq_false, hhelp]
    decide
  · have hmem : c.name ∈ exitWords := by simpa [exitWords] using hexit
    exact iff_of_true rfl hmem
  · rw [(plain_told _).isExit_eq_false]
    simpa [exitWords] using hexit

/-- Of all commands, only two keywords answer with the message that ends a session. -/
theorem isExit_execute_iff :
    (execute c r).2.any Reply.isExit = true ↔ c.tool = .internal ∧ c.name ∈ exitWords := by
  by_cases htool : c.tool = .internal
  · rw [execute_internal r htool, Option.any_some, isExit_keywordReply_iff]
    exact (and_iff_right htool).symm
  · rw [(execute_answers r htool).plain.any_isExit_eq_false]
    exact iff_of_false Bool.false_ne_true fun h => htool h.1

end Console

end GitPractice
