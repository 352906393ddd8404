import Mathlib.Algebra.Ring.Parity
import Mathlib.Data.List.DropRight
import GitPractice.Proofs.Unclosed

/-!
# Trimming a line

A line is trimmed before its words are looked for, and a blank at its end may be escaped. What is
left of such a line ends in an odd number of backslashes (`EndsEscaping`), of which the last has
nothing more to escape. Any other line keeps its words, so its command is the one that they make
(`parse_trimmed`). Whether a backslash escapes is a matter of parity, since outside quotes
backslashes come in pairs (`endsEscaping_of_mode`).
-/

namespace GitPractice.Shell

open GitPractice.Text (trim isBlank)

/-- The text ends in an odd number of backslashes. -/
def EndsEscaping (cs : List Char) : Prop := Odd (cs.rtakeWhile (· == '\\')).length

instance (cs : List Char) : Decidable (EndsEscaping cs) := inferInstanceAs (Decidable (Odd _))

theorem not_endsEscaping_nil : ¬ EndsEscaping [] := by decide

theorem endsEscaping_backslash (cs : List Char) :
    EndsEscaping (cs ++ ['\\']) ↔ ¬ EndsEscaping cs := by
  rw [EndsEscaping, List.rtakeWhile_concat_pos _ _ _ (by decide), List.length_append,
    List.length_singleton, Nat.odd_add_one, EndsEscaping]

theorem not_endsEscaping_append {c : Char} (cs : List Char) (hc : c ≠ '\\') :
    ¬ EndsEscaping (cs ++ [c]) := by
  rw [EndsEscaping, List.rtakeWhile_concat_neg _ _ _ (by simpa using hc)]
  exact not_endsEscaping_nil

/-! ## Reading up to the trimmed blanks -/

namespace Scan

variable {s : Scan}

theorem inWord_scan (hin : s.InWord) (cs : List Char) : (scan s cs).InWord := by
  induction cs generalizing s with
  | nil => exact hin
  | cons c cs ih => exact ih (inWord_step hin c)

/-- Within quotes, backslashes need not come in pairs. -/
theorem endsEscaping_of_mode (hmode : s.mode = .bare) (cs : List Char) :
    ((scan s cs).mode = .bare → ¬ EndsEscaping cs)
      ∧ ∀ opened, (scan s cs).mode = .escaped opened → EndsEscaping cs := by
  induction cs using List.reverseRecOn with
  | nil => exact ⟨fun _ => not_endsEscaping_nil, fun opened h => by simp [hmode] at h⟩
  | append_singleton cs c ih =>
    obtain ⟨hbare, hescaped⟩ := ih
    have hin : (scan s cs).InWord := inWord_scan (.inl hmode) cs
    rw [scan_append, scan_cons, scan_nil]
    generalize scan s cs = t at hbare hescaped hin
    rcases step_cases hin c with ⟨hblank, hc, hstep⟩ | ⟨text, mode, hadds, hstep⟩
    · have hne : c ≠ '\\' := by
        rintro rfl
        revert hc
        decide
      rw [hstep]
      exact ⟨fun _ => not_endsEscaping_append cs hne, fun opened h => by simp [hblank] at h⟩
    · rw [hstep, add_mode]
      generalize hm : t.mode = m at hadds hbare hescaped
      cases hadds with
      | plain _ _ _ hback => exact ⟨fun _ => not_endsEscaping_append cs hback, nofun⟩
      | backslash =>
        exact ⟨nofun, fun _ _ => (endsEscaping_backslash cs).2 (hbare rfl)⟩
      | escaped opened =>
        refine ⟨fun _ => ?_, nofun⟩
        by_cases hc : c = '\\'
        · rw [hc, endsEscaping_backslash, not_not]
          exact hescaped opened rfl
        · exact not_endsEscaping_append cs hc
      | endSingle => exact ⟨fun _ => not_endsEscaping_append cs (by decide), nofun⟩
      | endDouble => exact ⟨fun _ => not_endsEscaping_append cs (by decide), nofun⟩
      | _ => exact ⟨nofun, nofun⟩

/-- Blanks end no quotes. -/
theorem mode_of_scan_blanks {trail : List Char} (hin : s.InWord) (htrail : Blanks trail)
    (h : (scan s trail).mode = .bare) :
    s.mode = .bare ∨ ∃ opened, s.mode = .escaped opened := by
  have hsingle : '\'' ∉ trail := fun hmem => by
    have hblank := htrail _ hmem
    revert hblank
    decide
  have hdouble {cs : List Char} (hcs : ∀ c ∈ cs, c ∈ trail ∨ c = '\\') : ¬ Closes cs := by
    rintro ⟨run, text, rest, -, rfl⟩
    rcases hcs '"' (by simp) with hmem | heq
    · have hblank := htrail _ hmem
      revert hblank
      decide
    · revert heq
      decide
  cases hmode : s.mode with
  | bare => exact .inl rfl
  | escaped opened => exact .inr ⟨opened, rfl⟩
  | single opened =>
    rw [scan_single_open hsingle hin hmode] at h
    cases h
  | double opened =>
    have hopen := scan_double_open hin (.inl ⟨hmode, hdouble fun c hc => .inl hc⟩)
    rw [h] at hopen
    simp at hopen
  | doubleEscaped opened =>
    have hopen := scan_double_open hin (.inr ⟨hmode, hdouble fun c hc => by
      rcases List.mem_cons.1 hc with rfl | hc
      · exact .inr rfl
      · exact .inl hc⟩)
    rw [h] at hopen
    simp at hopen

end Scan

/-! ## The words of a trimmed line -/

theorem Separated.head?_not_blank {cs : List Char} {texts : List (List Char)}
    (h : Separated cs texts) : ∀ c ∈ cs.head?, isBlank c = false := by
  cases h with
  | nil => nofun
  | word h | cons h _ _ _ =>
    obtain ⟨c, rest, rfl, hc⟩ := h.head
    rintro d ⟨⟩
    exact hc

theorem Line.of_blank {c : Char} {cs : List Char} {texts : List (List Char)}
    (hc : isBlank c = true) (h : Line (c :: cs) texts) : Line cs texts := by
  obtain ⟨_, trail, ⟨lead, body, hlead, hbody, rfl⟩, htrail, heq⟩ := h
  rcases lead with _ | ⟨d, lead⟩
  · have hhead := hbody.head?_not_blank
    rcases body with _ | ⟨d, body⟩
    · obtain rfl : trail = c :: cs := heq.symm
      exact ⟨[], cs, ⟨[], [], hlead, hbody, rfl⟩, (List.forall_mem_cons.1 htrail).2, rfl⟩
    · obtain ⟨rfl, -⟩ : c = d ∧ _ := List.cons.inj heq
      rw [hhead c rfl] at hc
      cases hc
  · obtain ⟨-, rfl⟩ : c = d ∧ cs = lead ++ body ++ trail := List.cons.inj heq
    exact ⟨lead ++ body, trail, ⟨lead, body, (List.forall_mem_cons.1 hlead).2, hbody, rfl⟩, htrail,
      rfl⟩

theorem Line.of_blanks_append {lead cs : List Char} {texts : List (List Char)}
    (hlead : Blanks lead) (h : Line (lead ++ cs) texts) : Line cs texts := by
  induction lead with
  | nil => exact h
  | cons c lead ih =>
    obtain ⟨hc, hlead⟩ := List.forall_mem_cons.1 hlead
    exact ih hlead (h.of_blank hc)

/-- If the shell finds the words of the line as it was typed, only a backslash that escapes the
first of the trimmed blanks can keep it from finding them in what is left. -/
theorem splitWords_trim {line : String} {words : List String} (h : splitWords line = .ok words) :
    (¬ EndsEscaping (trim line).toList → splitWords (trim line) = .ok words)
      ∧ (EndsEscaping (trim line).toList →
        ∃ place, tokenize (trim line) = .error ⟨.backslash, place⟩) := by
  obtain ⟨lead, trail, hlead, htrail, heq⟩ := toList_eq_trim line
  generalize trim line = trimmed at heq
  have hline : splitWords (.ofList (trimmed.toList ++ trail)) = .ok words := by
    rw [splitWords_eq_ok_iff, heq] at h
    rw [splitWords_eq_ok_iff, String.toList_ofList]
    exact h.of_blanks_append hlead
  rw [splitWords, tokenize, String.toList_ofList, scan_append] at hline
  rw [splitWords, tokenize]
  obtain ⟨hparity, hodd⟩ := Scan.endsEscaping_of_mode (s := .start) rfl trimmed.toList
  have hin : (scan .start trimmed.toList).InWord := Scan.inWord_scan (.inl rfl) _
  generalize scan .start trimmed.toList = s at hline hparity hodd hin
  obtain ⟨tokens, htokens, htexts⟩ : ∃ tokens, (scan s trail).finish = .ok tokens
      ∧ tokens.map Token.text = words := by
    cases hfinish : (scan s trail).finish with
    | error e =>
      rw [hfinish] at hline
      cases hline
    | ok tokens =>
      rw [hfinish] at hline
      exact ⟨tokens, rfl, Except.ok.inj hline⟩
  rcases Scan.mode_of_scan_blanks hin htrail (Scan.mode_of_finish htokens) with
    hmode | ⟨opened, hmode⟩
  · refine ⟨fun _ => ?_, fun hends => absurd hends (hparity hmode)⟩
    obtain ⟨hbare, -, hsame⟩ := Scan.scan_blanks htrail hmode
    rw [Scan.finish_of_bare hbare] at htokens
    cases htokens
    rw [Scan.finish_of_bare hmode]
    exact congrArg Except.ok (hsame.symm.trans htexts)
  · refine ⟨fun hends => absurd (hodd opened hmode) hends, fun _ => ⟨⟨opened, s.pos⟩, ?_⟩⟩
    rw [Scan.finish, hmode]

theorem exists_tokenize_error_iff {line : String} :
    (∃ e, tokenize line = .error e) ↔ ∀ words, splitWords line ≠ .ok words := by
  rw [splitWords]
  cases tokenize line <;> simp [Except.map]

theorem exists_tokenize_trim_error_iff {line : String} :
    (∃ e, tokenize (trim line) = .error e)
      ↔ (∃ e, tokenize line = .error e) ∨ EndsEscaping (trim line).toList := by
  constructor
  · intro herror
    rw [exists_tokenize_error_iff] at herror
    by_cases hends : EndsEscaping (trim line).toList
    · exact .inr hends
    · refine .inl (exists_tokenize_error_iff.2 fun words hwords => ?_)
      exact herror words ((splitWords_trim hwords).1 hends)
  · rintro (herror | hends)
    · rw [exists_tokenize_error_iff] at herror ⊢
      exact fun words hwords => herror words (splitWords_of_trim hwords)
    · by_contra hnone
      rw [exists_tokenize_error_iff, not_forall_not] at hnone
      obtain ⟨words, hwords⟩ := hnone
      obtain ⟨place, herror⟩ := (splitWords_trim (splitWords_of_trim hwords)).2 hends
      exact exists_tokenize_error_iff.1 ⟨_, herror⟩ words hwords

/-- Trimming keeps the words of a line unless it takes away an escaped blank, and nothing else makes
a line unreadable that was readable before. -/
theorem parse_trimmed (line : String) :
    (∀ first rest, splitWords line = .ok (first :: rest) →
      (¬ EndsEscaping (trim line).toList →
        Command.parse line = Command.classify (trim line) (first :: rest))
      ∧ (EndsEscaping (trim line).toList →
        ∃ place, Command.parse line = .error (.badWord ⟨.backslash, place⟩)))
    ∧ ((∃ e, Command.parse line = .error (.badWord e))
      ↔ (∃ e, tokenize line = .error e) ∨ EndsEscaping (trim line).toList) := by
  constructor
  · intro first rest h
    obtain ⟨hkept, hbroken⟩ := splitWords_trim h
    refine ⟨fun hends => Command.parse_of_splitWords (hkept hends), fun hends => ?_⟩
    obtain ⟨place, hplace⟩ := hbroken hends
    exact ⟨place, Command.parse_eq_badWord_iff.2 hplace⟩
  · simp only [Command.parse_eq_badWord_iff]
    exact exists_tokenize_trim_error_iff

/-- An escaped blank inside, two backslashes and a quoted blank at the end of what is left. -/
theorem parse_trimmed_paired :
    Command.parse "\tgit add a\\ b\\\\ "
      = Command.classify "git add a\\ b\\\\" ["git", "add", "a b\\"]
    ∧ Command.parse " git add ' ' "
      = Command.classify "git add ' '" ["git", "add", " "] := by
  have hpaired : splitWords "\tgit add a\\ b\\\\ " = .ok ["git", "add", "a b\\"] := by rfl
  have hquoted : splitWords " git add ' ' " = .ok ["git", "add", " "] := by rfl
  exact ⟨((parse_trimmed _).1 _ _ hpaired).1 (by decide +kernel),
    ((parse_trimmed _).1 _ _ hquoted).1 (by decide +kernel)⟩

/-- The blank belongs to the last word of the line, and the command is not found without it. -/
theorem parse_escaped_blank :
    (∃ tokens, tokenize "git add a\\ " = .ok tokens
      ∧ tokens.map Token.text = ["git", "add", "a "])
    ∧ Command.parse "git add a\\ " = .error (.badWord ⟨.backslash, 9, 10⟩)
    ∧ Command.parse "git add a\\ "
      ≠ Command.classify (trim "git add a\\ ") ["git", "add", "a "] := by
  have hparse : Command.parse "git add a\\ " = .error (.badWord ⟨.backslash, 9, 10⟩) := by
    rw [Command.parse_eq_badWord_iff]
    rfl
  refine ⟨⟨_, rfl, rfl⟩, hparse, ?_⟩
  rw [hparse]
  exact (Command.classify_ne_badWord _ _ _).symm

end GitPractice.Shell
