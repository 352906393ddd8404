import GitPractice.Proofs.Answer
import GitPractice.Proofs.Replies
import GitPractice.Proofs.Restart

/-!
# Leaving a session

The shell and the session each look for a keyword that ends a session at the beginning of a line,
the one after unquoting and the other as it stands. As no command answers with the message that ends
a session, a line of which neither finds such a keyword leaves the session running, at every point
of what is written (`exit_not_forged`).
-/

namespace GitPractice

open Text (trim words wordsOf lower lowerAscii lowerAt lowerFrom lowerChars lowerChar isBlank)

namespace Console

open Shell

/-! ## Lines -/

/-- A command is told by the first word of its line. -/
theorem first_of_parse {line : String} {c : Command} (h : Command.parse line = .ok c) :
    ∃ first rest, splitWords line = .ok (first :: rest)
      ∧ (lower first ∈ exitWords ↔ c.tool = .internal ∧ c.name ∈ exitWords) := by
  by_cases htool : c.tool = .internal
  · obtain ⟨first, rest, hwords, hname⟩ := keyword_of_parse h htool
    exact ⟨first, rest, hwords, by simp [htool, hname]⟩
  · obtain ⟨first, name, rest, hwords, hfirst, -⟩ := ofTool_of_parse h htool
    refine ⟨first, name :: rest, hwords, ?_⟩
    have hnone : ∀ tool : Tool, tool ≠ .internal → tool.name ∉ exitWords := by
      rintro (_ | _ | _) hne
      · exact absurd rfl hne
      · decide
      · decide
    rw [hfirst]
    exact iff_of_false (hnone c.tool htool) fun hc => htool hc.1

/-- The shell finds a word that ends a session at the beginning of the line. -/
def Leaves (line : String) : Prop :=
  ∃ first rest, splitWords line = .ok (first :: rest) ∧ lower first ∈ exitWords

theorem isExit_run_iff {r : Repo} {line : String} :
    (∃ reply, (run r line).2 = .ok (some reply) ∧ reply.isExit = true)
      ↔ (∃ c, Command.parse line = .ok c) ∧ Leaves line := by
  cases hparse : Command.parse line with
  | error e => simp [run, hparse]
  | ok c =>
    have hrun : (run r line).2 = .ok (execute c r).2 := by simp only [run, hparse]
    obtain ⟨first, rest, hwords, hfirst⟩ := first_of_parse hparse
    have hshell : Leaves line ↔ lower first ∈ exitWords := by
      simp [Leaves, hwords]
    have hexit := isExit_execute_iff (c := c) (r := r)
    rw [Option.any_eq_true] at hexit
    simp [hrun, hexit, hshell, hfirst]

end Console

/-! ## Words that end a session -/

namespace Text

theorem toLower_of_not_ascii {c : Char} (h : ¬ c.toNat < 0x80) : c.toLower = c := by
  have hcode : ¬ (c.val ≥ 'A'.val ∧ c.val ≤ 'Z'.val) := by
    rintro ⟨-, hz⟩
    exact h (Nat.lt_of_le_of_lt (UInt32.le_iff_toNat_le.1 hz) (by decide))
  exact dif_neg hcode

theorem lowerChars_of_ascii {cs : List Char} (h : ∀ c ∈ cs, c.toNat < 0x80) :
    lowerChars cs = cs.map Char.toLower := by
  have hfrom (before : List Char) : lowerFrom before cs = cs.map Char.toLower := by
    induction cs generalizing before with
    | nil => rfl
    | cons c cs ih =>
      obtain ⟨hc, hcs⟩ := List.forall_mem_cons.1 h
      have hsigma : c ≠ 'Σ' := by
        rintro rfl
        revert hc
        decide
      have hdotted : c ≠ 'İ' := by
        rintro rfl
        revert hc
        decide
      rw [lowerFrom_cons, lowerAt, if_neg hsigma, if_neg hdotted, lowerChar, if_pos hc, ih hcs]
      rfl
  exact hfrom []

theorem ascii_of_toLower {c : Char} (h : c.toLower.toNat < 0x80) : c.toNat < 0x80 := by
  by_contra hc
  rw [toLower_of_not_ascii hc] at h
  exact hc h

theorem isBlank_toLower {c : Char} (h : c.toNat < 0x80) : isBlank c.toLower = isBlank c :=
  forall_ascii (P := fun c => isBlank c.toLower = isBlank c) (by decide) h

theorem wordsOf_of_not_blank {cs : List Char} (hne : cs ≠ [])
    (h : ∀ c ∈ cs, isBlank c = false) : wordsOf cs = [cs] := by
  induction cs with
  | nil => exact absurd rfl hne
  | cons c cs ih =>
    obtain ⟨hc, hcs⟩ := List.forall_mem_cons.1 h
    rcases cs with _ | ⟨d, cs⟩
    · simp [wordsOf, hc]
    · have hd : isBlank d = false := hcs d List.mem_cons_self
      rw [wordsOf_cons_cons (by simp [hc]), ih (List.cons_ne_nil d cs) hcs]
      simp [hd]

/-- A text that is an unspaced one up to the case of the letters A to Z is a word of its own. -/
theorem words_of_lowerAscii {s w : String} (h : lowerAscii s = w) (hne : w ≠ "")
    (hw : ∀ c ∈ w.toList, c.toNat < 0x80 ∧ isBlank c = false) :
    words s = [s] ∧ lower s = w := by
  have hlist : s.toList.map Char.toLower = w.toList := by
    rw [← h, lowerAscii, String.toList_map]
  have hlower : ∀ c ∈ s.toList, c.toLower ∈ w.toList := fun c hc =>
    hlist ▸ List.mem_map_of_mem hc
  have hascii : ∀ c ∈ s.toList, c.toNat < 0x80 := fun c hc =>
    ascii_of_toLower (hw _ (hlower c hc)).1
  have hblank : ∀ c ∈ s.toList, isBlank c = false := fun c hc => by
    rw [← isBlank_toLower (hascii c hc)]
    exact (hw _ (hlower c hc)).2
  have hsome : s.toList ≠ [] := by
    intro hnil
    rw [hnil] at hlist
    exact hne (String.toList_injective hlist.symm)
  constructor
  · rw [words, wordsOf_of_not_blank hsome hblank, List.map_singleton, String.ofList_toList]
  · rw [lower, lowerChars_of_ascii hascii, hlist, String.ofList_toList]

end Text

/-! ## Sessions -/

namespace Session

open Console (exitWords)
open Transcript

variable {s : Session} {text : String}

/-- The first word of the line ends a session, as it stands or as the shell finds it. -/
def Leaves (text : String) : Prop :=
  (∃ word ∈ (words text).head?, lower word ∈ exitWords) ∨ Console.Leaves text

theorem leaves_of_isQuit {input : String} (h : isQuit input = true) :
    ∃ word ∈ (words input).head?, lower word ∈ exitWords := by
  have hmem : lowerAscii input ∈ exitWords := by simpa [isQuit, exitWords] using h
  have hwords : ∀ w ∈ exitWords,
      w ≠ "" ∧ w.toList.all fun c => c.toNat < 0x80 && !isBlank c := by decide
  obtain ⟨hne, hplain⟩ := hwords _ hmem
  obtain ⟨hsingle, hlower⟩ := Text.words_of_lowerAscii rfl hne fun c hc => by
    simpa using List.all_eq_true.1 hplain c hc
  refine ⟨input, by rw [hsingle]; rfl, ?_⟩
  rw [hlower]
  exact hmem

theorem leaves_of_quit {word : String} (h : Keyword.ofWord? word = some .quit) :
    lower word ∈ exitWords := by
  have hmem := Console.mem_of_lookup h
  simpa [Keyword.names, exitWords] using hmem

theorem leaves_of_takenAsQuit (h : TakenAsQuit text) : Leaves text := by
  rcases h with hquit | ⟨word, hfirst, hword⟩
  · have hleaves := leaves_of_isQuit hquit
    rw [Text.words_trim] at hleaves
    exact .inl hleaves
  · rw [Text.words_trim] at hfirst
    exact .inl ⟨word, hfirst, leaves_of_quit hword⟩

theorem leaves_of_trim (h : Console.Leaves (trim text)) : Leaves text := by
  obtain ⟨first, rest, hwords, hfirst⟩ := h
  exact .inr ⟨first, rest, Shell.splitWords_of_trim hwords, hfirst⟩

/-- A line without a word that ends a session leaves it running, at every point of its output. -/
theorem running_handleLine [Regex.SizeLimit] (h : s.running = true) (hstays : ¬ Leaves text) :
    (s.handleLine text).Throughout fun t => t.running = true := by
  have hcall (s : Session) (r repo : Repo) (call : Course.Call) (_ : call.KeepsLessons)
      (hs : s.running = true) :
      { s with course := (s.course.call r call).1, repo := repo }.running = true := hs
  have hran (s : Session) (hs : s.running = true) :
      (s.execute (trim text)).Throughout fun t => t.running = true := by
    refine throughout_execute hcall hs fun reply hreply hexit => absurd ?_ hstays
    exact leaves_of_trim (Console.isExit_run_iff.1 ⟨reply, hreply, hexit⟩).2
  exact throughout_handleLine hcall h hran fun htaken =>
    absurd (leaves_of_takenAsQuit htaken) hstays

/-- No text that is typed gets a session to end but the words that are there for it. -/
theorem exit_not_forged [Regex.SizeLimit] :
    (∀ e : Refusal, e.message ≠ Reply.exitMessage)
    ∧ (∀ (r : Repo) (op : Operation) (reply : Reply), (r.perform op).2 = some reply →
      reply.message ≠ Reply.exitMessage)
    ∧ (∀ (c : Shell.Command) (r : Repo),
      (Console.execute c r).2.any Reply.isExit = true
        ↔ c.tool = .internal ∧ c.name ∈ ["quit", "exit"])
    ∧ (∀ (r : Repo) (line : String),
      (∃ reply, (Console.run r line).2 = .ok (some reply) ∧ reply.isExit = true)
        ↔ (∃ c, Shell.Command.parse line = .ok c)
          ∧ ∃ first rest, Shell.splitWords line = .ok (first :: rest)
            ∧ lower first ∈ ["quit", "exit"])
    ∧ ∀ (s : Session) (text : String), s.running = true →
      (∀ word ∈ (words text).head?, lower word ∉ ["quit", "exit"]) →
      (∀ first rest, Shell.splitWords text = .ok (first :: rest) →
        lower first ∉ ["quit", "exit"]) →
      (s.handleLine text).Throughout fun t => t.running = true := by
  refine ⟨fun e => e.beginsPlainly_message.ne_exitMessage,
    fun r op reply hreply => (r.plain_perform op reply hreply).message_ne,
    fun c r => Console.isExit_execute_iff, fun r line => Console.isExit_run_iff,
    fun s text hrunning hword hfirst => running_handleLine hrunning ?_⟩
  rintro (⟨word, hmem, hends⟩ | ⟨first, rest, hwords, hends⟩)
  · exact hword word hmem hends
  · exact hfirst first rest hwords hends

open scoped Regex.SizeLimit

/-- The keyword may be quoted. A branch with the name of the message ends nothing. -/
theorem exit_not_forged_named :
    (∃ reply, (Console.run (.deterministic .default) "'qu'it now").2 = .ok (some reply)
      ∧ reply.isExit = true)
    ∧ ((trial .freePractice).handleLine "git switch __EXIT__").Throughout
      fun t => t.running = true := by
  obtain ⟨-, -, -, hrun, hsession⟩ := exit_not_forged
  refine ⟨(hrun _ _).2 ⟨⟨_, rfl⟩, "quit", ["now"], rfl, by decide⟩, ?_⟩
  refine hsession _ _ rfl (by decide) fun first rest hwords => ?_
  have hsplit : Shell.splitWords "git switch __EXIT__" = .ok ["git", "switch", "__EXIT__"] := rfl
  rw [hsplit] at hwords
  cases hwords
  decide

end Session

end GitPractice
