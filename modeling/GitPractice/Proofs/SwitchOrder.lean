import Mathlib.Data.List.Permutation
import GitPractice.Proofs.Spelling

/-!
# The order of words around a switch

A switch that takes no value swallows the word behind it, so where it stands decides which flag
holds the number of a pull request, if any does. To the commands this makes no difference: whatever
the order, the switch is given, and the word it swallowed, if it did, and the positional words are
together the one word that was typed (`Given`). So merges and reviews do the same in every order,
and they are of the pull request whose number was typed (`run_pull_orders`).
-/

namespace GitPractice

open Shell Text

/-! ## Switches -/

namespace Shell

/-- What is read of a switch, one word and other flags. The word is positional or was swallowed by
the switch, and the flags may come in any order. -/
def Given (switch word : String) (rest : List (String × Option String)) (flags : Flags)
    (args : List String) : Prop :=
  ∃ value, flags.entries.Perm ((switch, value) :: rest) ∧ value.toList ++ args = [word]

theorem given_of_allFit {switch word : String} {rest : List (String × Option String)}
    (segs : List Segment) (value : Option String) (hfit : Segment.AllFit segs)
    (hflags : (segs.filterMap Segment.flag?).Perm ((switch, value) :: rest))
    (hkeys : (switch :: rest.map Prod.fst).Nodup)
    (hargs : value.toList ++ segs.filterMap Segment.positional? = [word]) :
    Given switch word rest (splitFlags (segs.flatMap Segment.spell)).1
      (splitFlags (segs.flatMap Segment.spell)).2 := by
  rw [splitFlags_of_isCut ⟨hfit, rfl⟩]
  refine ⟨value, ?_, hargs⟩
  rwa [OrderedMap.entries_ofList ((hflags.map Prod.fst).nodup_iff.2 hkeys)]

section Orders

variable {switch word flag text : String} {order : List (List String)} (hswitch : IsOption switch)
  (hword : isDashed word = false)
include hswitch hword

theorem given_pair (h : order.Perm [[word], [switch]]) :
    Given switch word [] (splitFlags order.flatten).1 (splitFlags order.flatten).2 := by
  have horder : order = [[word], [switch]] ∨ order = [[switch], [word]] := by
    simpa [List.permutations'] using List.mem_permutations'.2 h
  have hplain : isFlag word = false := isFlag_of_not_dashed hword
  have hkeys : [switch].Nodup := List.nodup_singleton switch
  rcases horder with rfl | rfl
  · exact given_of_allFit [.positional word, .lone switch] none
      (by simp [Segment.AllFit, Segment.Fits, hplain, hswitch]) (.refl _) hkeys rfl
  · exact given_of_allFit [.valued switch word] (some word)
      (by simp [Segment.AllFit, Segment.Fits, hswitch, hword]) (.refl _) hkeys rfl

theorem given_triple (hflag : IsOption flag) (htext : isDashed text = false) (hne : switch ≠ flag)
    (h : order.Perm [[word], [switch], [flag, text]]) :
    Given switch word [(flag, some text)] (splitFlags order.flatten).1
      (splitFlags order.flatten).2 := by
  have horder : order = [[word], [switch], [flag, text]] ∨ order = [[switch], [word], [flag, text]]
      ∨ order = [[switch], [flag, text], [word]] ∨ order = [[word], [flag, text], [switch]]
      ∨ order = [[flag, text], [word], [switch]] ∨ order = [[flag, text], [switch], [word]] := by
    simpa [List.permutations'] using List.mem_permutations'.2 h
  have hplain : isFlag word = false := isFlag_of_not_dashed hword
  have hdashed : isDashed flag = true := isDashed_of_isFlag hflag.1
  have hkeys : [switch, flag].Nodup := by simp [hne]
  rcases horder with rfl | rfl | rfl | rfl | rfl | rfl
  · exact given_of_allFit [.positional word, .lone switch, .valued flag text] none
      (by simp [Segment.AllFit, Segment.Fits, Segment.spell, *]) (.refl _) hkeys rfl
  · exact given_of_allFit [.valued switch word, .valued flag text] (some word)
      (by simp [Segment.AllFit, Segment.Fits, *]) (.refl _) hkeys rfl
  · exact given_of_allFit [.lone switch, .valued flag text, .positional word] none
      (by simp [Segment.AllFit, Segment.Fits, Segment.spell, *]) (.refl _) hkeys rfl
  · exact given_of_allFit [.positional word, .valued flag text, .lone switch] none
      (by simp [Segment.AllFit, Segment.Fits, *]) (.swap _ _ _) hkeys rfl
  · exact given_of_allFit [.valued flag text, .positional word, .lone switch] none
      (by simp [Segment.AllFit, Segment.Fits, *]) (.swap _ _ _) hkeys rfl
  · exact given_of_allFit [.valued flag text, .valued switch word] (some word)
      (by simp [Segment.AllFit, Segment.Fits, *]) (.swap _ _ _) hkeys rfl

end Orders

/-! ## Switches that were given -/

namespace Given

variable {switch word : String} {rest : List (String × Option String)} {c : Command}
  {names : List String}

theorem get?_rest (h : Given switch word rest c.flags c.args) {n : String} {v : Option String}
    (hmem : (n, v) ∈ rest) : c.flags.get? n = some v := by
  obtain ⟨value, hperm, -⟩ := h
  exact OrderedMap.get?_eq_some_iff.2 (hperm.mem_iff.2 (List.mem_cons_of_mem _ hmem))

theorem get?_eq_none (h : Given switch word rest c.flags c.args) {n : String}
    (hn : n ∉ switch :: rest.map Prod.fst) : c.flags.get? n = none := by
  obtain ⟨value, hperm, -⟩ := h
  rw [OrderedMap.get?_eq_none_iff, OrderedMap.keys, (hperm.map Prod.fst).mem_iff]
  exact hn

theorem switch_off (h : Given switch word rest c.flags c.args) (hswitch : switch ∉ names)
    (hrest : ∀ n ∈ names, n ∉ rest.map Prod.fst) : c.switch names = .off := by
  refine Command.switch_off fun n hn => h.get?_eq_none ?_
  rw [List.mem_cons, not_or]
  exact ⟨fun heq => hswitch (heq ▸ hn), hrest n hn⟩

/-- With the word that the switch swallowed put back, there is just the one word. -/
theorem argsWith (h : Given switch word rest c.flags c.args) (hswitch : switch ∈ names)
    (hrest : ∀ n ∈ names, n ∉ rest.map Prod.fst) :
    ∃ value, c.switch names = ⟨true, value⟩ ∧ value.toList ++ c.args = [word] := by
  obtain ⟨value, hperm, hargs⟩ := id h
  have hget : c.flags.get? switch = some value :=
    OrderedMap.get?_eq_some_iff.2 (hperm.mem_iff.2 List.mem_cons_self)
  refine ⟨value, Command.switch_of_get? hswitch hget fun n hn hne => h.get?_eq_none ?_, hargs⟩
  rw [List.mem_cons, not_or]
  exact ⟨hne, hrest n hn⟩

end Given

/-- The line is read as `gh pr` with this subcommand and these words after it. -/
def PullLine (line sub : String) (words : List String) : Prop :=
  ∃ first, splitWords (trim line) = .ok (first :: "pr" :: sub :: words) ∧ lower first = "gh"

theorem PullLine.parse {line sub : String} {words : List String} (h : PullLine line sub words) :
    Command.parse line
      = .ok ⟨.gh, "pr", some sub, (splitFlags words).2, (splitFlags words).1, trim line⟩ := by
  obtain ⟨first, hwords, hfirst⟩ := h
  rw [Command.parse_of_splitWords hwords, Command.classify, hfirst]
  rfl

end Shell

/-- The line is read as `gh pr` with this subcommand and these groups of words, in some order. -/
def PullGroups (line sub : String) (groups : List (List String)) : Prop :=
  ∃ order : List (List String), order.Perm groups ∧ PullLine line sub order.flatten

namespace Console

theorem run_pull {line sub : String} {words : List String} {h : Handler}
    (hline : PullLine line sub words) (hhandler : Pull.handlers.lookup sub = some h) (r : Repo) :
    run r line = responded
      (h ⟨.gh, "pr", some sub, (splitFlags words).2, (splitFlags words).1, trim line⟩ r) := by
  have hfound : pullHandler "pr" (some sub) = .ok h := by simp [pullHandler, hhandler]
  simp only [run, hline.parse, execute, handlerOf, hfound, responded]

namespace Pull

/-- The switches of a merge, by the method they choose. -/
def methodSwitches : MergeMethod → List String
  | .squash => ["--squash", "-s"]
  | .rebase => ["--rebase", "-r"]
  | .merge => ["--merge", "-m"]

/-- The switches of a review, with the verdict they choose and its name. -/
def verdictSwitches : List (Verdict × String × List String) :=
  [(.approved, "approve", ["--approve", "-a"]),
    (.changesRequested, "request-changes", ["--request-changes", "-r"]),
    (.commented, "comment", ["--comment", "-c"])]

variable {c : Command} (r : Repo) {word switch : String}

theorem notMem_methodSwitches {method method' : MergeMethod} (hne : method' ≠ method)
    (hswitch : switch ∈ methodSwitches method) : switch ∉ methodSwitches method' := by
  revert switch
  cases method <;> cases method' <;> first | exact absurd rfl hne | decide

theorem merge_of_given {method : MergeMethod} (hswitch : switch ∈ methodSwitches method)
    (h : Given switch word [] c.flags c.args) :
    merge c r = match readNumber word with
      | .error e => returning (r.misused e)
      | .ok n => r.mergePull n method := by
  obtain ⟨value, hgiven, hargs⟩ := h.argsWith hswitch fun n _ => List.not_mem_nil
  have hall (m : MergeMethod) :
      c.switch (methodSwitches m) = if m = method then ⟨true, value⟩ else .off := by
    split_ifs with hm
    · rw [hm, hgiven]
    · exact h.switch_off (notMem_methodSwitches hm hswitch) fun n _ => List.not_mem_nil
  have hsquash : c.switch ["--squash", "-s"] = _ := hall .squash
  have hrebase : c.switch ["--rebase", "-r"] = _ := hall .rebase
  have hplain : c.switch ["--merge", "-m"] = _ := hall .merge
  have hmethod : methodOf (c.switch ["--squash", "-s"]) (c.switch ["--rebase", "-r"]) = method := by
    rw [hsquash, hrebase]
    cases method <;> rfl
  -- Nothing was swallowed, or it was by the switch that is given.
  have hwords : c.argsWith (([c.switch ["--squash", "-s"], c.switch ["--rebase", "-r"],
      c.switch ["--merge", "-m"]].find? (·.swallowed.isSome)).getD .off) = [word] := by
    rw [hsquash, hrebase, hplain]
    cases method <;> cases value <;> exact hargs
  cases hnumber : readNumber word <;>
    simp only [merge, hwords, hmethod, numberOrCurrent, hnumber]

variable {verdict : Verdict} {action : String} {switches : List String}

theorem notMem_verdictSwitches : ∀ e ∈ verdictSwitches, ∀ e' ∈ verdictSwitches, e' ≠ e →
    ∀ s ∈ e.2.2, s ∉ e'.2.2 := by
  decide

theorem notMem_bodyFlags : ∀ e ∈ verdictSwitches, ∀ s ∈ e.2.2, s ∉ ["-b", "--body"] := by
  decide

theorem actionOf_given {rest : List (String × Option String)}
    (hverdict : (verdict, action, switches) ∈ verdictSwitches) (hswitch : switch ∈ switches)
    (hrest : ∀ n ∈ rest.map Prod.fst, n ∈ ["-b", "--body"])
    (h : Given switch word rest c.flags c.args) :
    ∃ chosen, actionOf c = some (verdict, action, chosen) ∧ c.argsWith chosen = [word] := by
  obtain ⟨value, hgiven, hargs⟩ := h.argsWith hswitch fun n hn hmem =>
    notMem_bodyFlags _ hverdict n hn (hrest n hmem)
  refine ⟨⟨true, value⟩, ?_, hargs⟩
  have hall : ∀ e ∈ verdictSwitches,
      c.switch e.2.2 = if e = (verdict, action, switches) then ⟨true, value⟩ else .off := by
    intro e he
    split_ifs with hsame
    · rw [hsame, hgiven]
    · exact h.switch_off (notMem_verdictSwitches _ hverdict _ he hsame _ hswitch) fun n hn hmem =>
        notMem_bodyFlags _ he n hn (hrest n hmem)
  have happrove : c.switch ["--approve", "-a"] = _ := hall _ (.head _)
  have hchanges : c.switch ["--request-changes", "-r"] = _ := hall _ (.tail _ (.head _))
  have hcomment : c.switch ["--comment", "-c"] = _ := hall _ (.tail _ (.tail _ (.head _)))
  simp only [actionOf, happrove, hchanges, hcomment]
  simp only [verdictSwitches, List.mem_cons, Prod.mk.injEq, List.not_mem_nil, or_false] at hverdict
  rcases hverdict with ⟨rfl, rfl, rfl⟩ | ⟨rfl, rfl, rfl⟩ | ⟨rfl, rfl, rfl⟩
  · rfl
  · rfl
  · rfl

theorem review_of_given {body text : String}
    (hverdict : (verdict, action, switches) ∈ verdictSwitches) (hswitch : switch ∈ switches)
    (hbody : body ∈ ["-b", "--body"]) (h : Given switch word [(body, some text)] c.flags c.args) :
    review c r =
      if text = "" ∧ verdict ≠ .approved then r.misused (.bodyRequired action)
      else match readNumber word with
        | .error e => r.misused e
        | .ok n => r.addReview n r.config.author verdict ((some text).filter (· ≠ "")) := by
  obtain ⟨chosen, haction, hargs⟩ := actionOf_given hverdict hswitch (by simpa using hbody) h
  have htext : c.flagValue ["-b", "--body"] = some text := by
    refine Command.flagValue_of_get? hbody (h.get?_rest List.mem_cons_self) fun n hn hne =>
      h.get?_eq_none ?_
    have hswitch : n ≠ switch := by
      rintro rfl
      exact notMem_bodyFlags _ hverdict n ‹_› hn
    simp [hswitch, hne]
  have hblank : (((some text).filter (· ≠ "")).isNone && decide (verdict ≠ .approved)) = true
      ↔ text = "" ∧ verdict ≠ .approved := by
    by_cases hempty : text = "" <;> simp [hempty]
  cases hnumber : readNumber word <;>
    simp only [review, haction, htext, hargs, numberOrCurrent, hblank, hnumber]

theorem readNumber_eq_ok {n : UInt32} (h : number? word = some n) : readNumber word = .ok n := by
  rw [readNumber, h]

theorem number?_hash (word : String) : number? ("#" ++ word) = number? word := by
  simp [number?]

theorem number?_numberText (n : UInt32) : number? (numberText n) = some n := by
  have htext : (numberText n).toList = Nat.toDigits 10 n.toNat := Nat.toList_repr
  obtain ⟨d, ds, hds, hdigit, -⟩ := toDigits_eq_cons n.toNat
  have hhash : d ≠ '#' := by
    rintro rfl
    revert hdigit
    decide
  have hkept : (Nat.toDigits 10 n.toNat).dropWhile (· = '#') = Nat.toDigits 10 n.toNat := by
    simp [hds, hhash]
  rw [number?, htext, hkept, readNat?_toDigits n.toNat_lt, Option.map_some, UInt32.ofNat_toNat]

theorem isOption_of_mem_methodSwitches {method : MergeMethod}
    (hswitch : switch ∈ methodSwitches method) : IsOption switch := by
  revert switch
  cases method <;> decide

theorem isOption_of_mem_verdictSwitches :
    ∀ e ∈ verdictSwitches, ∀ s ∈ e.2.2, IsOption s := by
  decide

theorem isOption_of_mem_bodyFlags : ∀ s ∈ ["-b", "--body"], IsOption s := by
  decide

theorem addReview_filter_text (n : UInt32) (author text : String) (verdict : Verdict) :
    r.addReview n author verdict ((some text).filter (· ≠ ""))
      = r.addReview n author verdict (some text) := by
  simp only [Repo.addReview, Option.filter_filter, Bool.and_self]

section Lines

variable {line : String} (hword : isDashed word = false)
include hword

theorem run_merge {method : MergeMethod} (hswitch : switch ∈ methodSwitches method)
    (hline : PullGroups line "merge" [[word], [switch]]) :
    run r line = responded (match readNumber word with
      | .error e => returning (r.misused e)
      | .ok n => r.mergePull n method) := by
  obtain ⟨order, hperm, hline⟩ := hline
  have hgiven := given_pair (isOption_of_mem_methodSwitches hswitch) hword hperm
  rw [run_pull hline rfl, merge_of_given r hswitch hgiven]

theorem run_review {body text : String} (htext : isDashed text = false)
    (hverdict : (verdict, action, switches) ∈ verdictSwitches) (hswitch : switch ∈ switches)
    (hbody : body ∈ ["-b", "--body"])
    (hline : PullGroups line "review" [[word], [switch], [body, text]]) :
    run r line = answered (if text = "" ∧ verdict ≠ .approved then r.misused (.bodyRequired action)
      else match readNumber word with
        | .error e => r.misused e
        | .ok n => r.addReview n r.config.author verdict (some text)) := by
  obtain ⟨order, hperm, hline⟩ := hline
  have hne : switch ≠ body := by
    rintro rfl
    exact notMem_bodyFlags _ hverdict _ hswitch hbody
  have hgiven := given_triple (isOption_of_mem_verdictSwitches _ hverdict _ hswitch) hword
    (isOption_of_mem_bodyFlags _ hbody) htext hne hperm
  rw [run_pull hline rfl, Handler.ofAction, review_of_given r hverdict hswitch hbody hgiven]
  simp only [addReview_filter_text]
  rfl

end Lines

end Pull

/-- Wherever the switch stands, a merge and a review do the same, and they are of the pull request
whose number is typed. -/
theorem run_pull_orders (r : Repo) {word text : String} (hword : isDashed word = false)
    (htext : isDashed text = false) :
    (∀ method, ∀ switch ∈ Pull.methodSwitches method, ∀ line line',
      PullGroups line "merge" [[word], [switch]] → PullGroups line' "merge" [[word], [switch]] →
      run r line = run r line'
      ∧ ∀ n, Pull.number? word = some n → run r line = responded (r.mergePull n method))
    ∧ (∀ verdict action switches, (verdict, action, switches) ∈ Pull.verdictSwitches →
      ∀ switch ∈ switches, ∀ body ∈ ["-b", "--body"], ∀ line line',
      PullGroups line "review" [[word], [switch], [body, text]] →
      PullGroups line' "review" [[word], [switch], [body, text]] →
      run r line = run r line'
      ∧ ∀ n, Pull.number? word = some n → run r line = answered
        (if text = "" ∧ verdict ≠ .approved then r.misused (.bodyRequired action)
          else r.addReview n r.config.author verdict (some text)))
    ∧ ∀ n : UInt32, Pull.number? (numberText n) = some n
      ∧ Pull.number? ("#" ++ numberText n) = some n := by
  refine ⟨fun method switch hswitch line line' hline hline' => ?_,
    fun verdict action switches hverdict switch hswitch body hbody line line' hline hline' => ?_,
    fun n => ⟨Pull.number?_numberText n, ?_⟩⟩
  · rw [Pull.run_merge r hword hswitch hline, Pull.run_merge r hword hswitch hline']
    refine ⟨rfl, fun n hn => ?_⟩
    rw [Pull.readNumber_eq_ok hn]
  · rw [Pull.run_review r hword htext hverdict hswitch hbody hline,
      Pull.run_review r hword htext hverdict hswitch hbody hline']
    refine ⟨rfl, fun n hn => ?_⟩
    rw [Pull.readNumber_eq_ok hn]
  · rw [Pull.number?_hash, Pull.number?_numberText]

theorem run_pull_orders_swapped :
    let r := ["git switch -c notes", "git push", "gh pr create -t Notes"].foldl
      (fun r line => (run r line).1) (.deterministic .default)
    run r "gh pr merge 1 -s" = run r "gh pr merge -s 1"
    ∧ run r "gh pr merge -s 1" = responded (r.mergePull 1 .squash)
    ∧ run r "gh pr review -r 1 -b 'Needs tests'" = run r "gh pr review -b 'Needs tests' -r 1"
    ∧ run r "gh pr review -r 1 -b 'Needs tests'"
        = answered (r.addReview 1 r.config.author .changesRequested (some "Needs tests")) := by
  intro r
  obtain ⟨hmerges, hreviews, -⟩ := @run_pull_orders r "1" "Needs tests" rfl rfl
  have hmerge := hmerges .squash "-s" (by decide)
  have hreview := hreviews .changesRequested "request-changes" ["--request-changes", "-r"]
    (by decide) "-r" (by decide) "-b" (by decide)
  have hnumber : Pull.number? "1" = some 1 := by decide +kernel
  have hlast : PullGroups "gh pr merge 1 -s" "merge" [["1"], ["-s"]] :=
    ⟨[["1"], ["-s"]], .refl _, "gh", by decide +kernel, by decide +kernel⟩
  have hfirst : PullGroups "gh pr merge -s 1" "merge" [["1"], ["-s"]] :=
    ⟨[["-s"], ["1"]], .swap _ _ _, "gh", by decide +kernel, by decide +kernel⟩
  have hleading : PullGroups "gh pr review -r 1 -b 'Needs tests'" "review"
      [["1"], ["-r"], ["-b", "Needs tests"]] :=
    ⟨[["-r"], ["1"], ["-b", "Needs tests"]], .swap _ _ _, "gh", by decide +kernel,
      by decide +kernel⟩
  have htrailing : PullGroups "gh pr review -b 'Needs tests' -r 1" "review"
      [["1"], ["-r"], ["-b", "Needs tests"]] :=
    ⟨[["-b", "Needs tests"], ["-r"], ["1"]], by decide, "gh", by decide +kernel,
      by decide +kernel⟩
  refine ⟨(hmerge _ _ hlast hfirst).1, (hmerge _ _ hfirst hlast).2 1 hnumber,
    (hreview _ _ hleading htrailing).1, ?_⟩
  exact (hreview _ _ hleading htrailing).2 1 hnumber

end Console
end GitPractice
