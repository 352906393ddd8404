import GitPractice.Console.Run
import GitPractice.Proofs.LineWords
import GitPractice.Proofs.Quoting

/-!
# Lines typed word by word

This is the way from words to the command that a line of them spells. A line is typed word by word,
each word in one of its spellings, with a space between any two (`Typed`). Trimming takes nothing
off such a line and the shell finds those words in it, so it parses as they are classified
(`Typed.parse`), and a `git` line is answered by the handler of its command (`run_git`).
-/

namespace GitPractice

namespace Shell

open Text (trim lower isBlank joinWith)

/-! ## Spellings -/

/-- The spelling is read as the text. It may hold blanks, but the last character is none: a blank
at the end of a line is trimmed, even behind a backslash. -/
structure Spells (spelling text : String) : Prop where
  word : Word spelling.toList text.toList
  last : ∀ c ∈ spelling.toList.getLast?, isBlank c = false

/-- The line consists of these words, each in one of its spellings. -/
def Typed (line : String) (words : List String) : Prop :=
  ∃ spelled : List (String × String), (∀ w ∈ spelled, Spells w.1 w.2)
    ∧ joinWith " " (spelled.map Prod.fst) = line ∧ spelled.map Prod.snd = words

/-- Every text has a spelling, in fact two. -/
theorem spells_spell (q : Quote) (text : String) : Spells (q.spell text) text where
  word := word_spell q text
  last := by
    rw [Quote.spell, String.toList_ofList, ← List.cons_append, List.getLast?_concat]
    intro c hc
    cases hc
    cases q with
    | single => decide
    | double => decide

/-- The character has no meaning of its own to the shell. -/
def isOrdinary (c : Char) : Bool := !(isBlank c || c == '\'' || c == '"' || c == '\\')

/-- The word can be typed as it is. -/
def isPlain (word : String) : Bool := word != "" && word.toList.all isOrdinary

theorem piece_ordinary {c : Char} (h : isOrdinary c = true) : Piece [c] [c] := by
  simp only [isOrdinary, Bool.not_eq_true', Bool.or_eq_false_iff, beq_eq_false_iff_ne] at h
  obtain ⟨⟨⟨hblank, hsingle⟩, hdouble⟩, hback⟩ := h
  exact .plain hblank hsingle hdouble hback

theorem pieces_ordinary {cs : List Char} (h : ∀ c ∈ cs, isOrdinary c = true) : Pieces cs cs := by
  induction cs with
  | nil => exact .nil
  | cons c cs ih =>
    obtain ⟨hc, hcs⟩ := List.forall_mem_cons.1 h
    exact .cons (piece_ordinary hc) (ih hcs)

theorem spells_plain {word : String} (h : isPlain word = true) : Spells word word := by
  rw [isPlain, Bool.and_eq_true, List.all_eq_true] at h
  obtain ⟨hne, hordinary⟩ := h
  constructor
  · cases hcs : word.toList with
    | nil =>
      rw [String.toList_eq_nil_iff.1 hcs] at hne
      cases hne
    | cons c cs =>
      rw [hcs] at hordinary
      obtain ⟨hc, hcs⟩ := List.forall_mem_cons.1 hordinary
      exact .mk (piece_ordinary hc) (pieces_ordinary hcs)
  · intro c hc
    have hc := hordinary c (List.mem_of_getLast? hc)
    simp only [isOrdinary, Bool.not_eq_true', Bool.or_eq_false_iff] at hc
    exact hc.1.1.1

/-! ## Lines -/

theorem trim_eq_self {line : String} (hhead : ∀ c ∈ line.toList.head?, isBlank c = false)
    (hlast : ∀ c ∈ line.toList.getLast?, isBlank c = false) : trim line = line := by
  have hkeep {cs : List Char} (h : ∀ c ∈ cs.head?, isBlank c = false) :
      cs.dropWhile isBlank = cs := by
    cases cs with
    | nil => rfl
    | cons c cs => rw [List.dropWhile_cons_of_neg (by rw [h c rfl]; decide)]
  rw [trim, Text.trimChars, Text.trimStartChars, hkeep hhead, Text.trimEndChars, hkeep,
    List.reverse_reverse, String.ofList_toList]
  rwa [List.head?_reverse]

theorem joinWith_begins (s : String) (ss : List String) :
    s.toList <+: (joinWith " " (s :: ss)).toList := by
  cases ss with
  | nil => exact List.prefix_rfl
  | cons t ss => simp [joinWith]

theorem joinWith_ends {ss : List String} (hne : ss ≠ []) :
    ∃ s ∈ ss, s.toList <:+ (joinWith " " ss).toList := by
  induction ss with
  | nil => exact absurd rfl hne
  | cons s ss ih =>
    cases ss with
    | nil => exact ⟨s, List.mem_cons_self, List.suffix_rfl⟩
    | cons t ss =>
      obtain ⟨u, hu, hends⟩ := ih (List.cons_ne_nil t ss)
      refine ⟨u, List.mem_cons_of_mem s hu, ?_⟩
      rw [joinWith, String.toList_append]
      exact hends.trans (List.suffix_append _ _)

theorem trim_joinWith {words : List (String × String)} (h : ∀ w ∈ words, Spells w.1 w.2) :
    trim (joinWith " " (words.map Prod.fst)) = joinWith " " (words.map Prod.fst) := by
  rcases words with _ | ⟨w, words⟩
  · rfl
  apply trim_eq_self
  · obtain ⟨c, rest, hw, hc⟩ := (h w List.mem_cons_self).word.head
    obtain ⟨more, heq⟩ := joinWith_begins w.1 (words.map Prod.fst)
    rw [List.map_cons, ← heq, hw]
    intro d hd
    cases hd
    exact hc
  · have hne : (w :: words).map Prod.fst ≠ [] := List.cons_ne_nil _ _
    obtain ⟨s, hs, front, heq⟩ := joinWith_ends hne
    obtain ⟨v, hv, rfl⟩ := List.mem_map.1 hs
    obtain ⟨c, rest, hcs, -⟩ := (h v hv).word.head
    have hlast := (h v hv).last
    rw [← heq, List.getLast?_append]
    rw [hcs] at hlast ⊢
    rwa [Option.or_of_isSome (by simp)]

theorem Typed.trim {line : String} {words : List String} (h : Typed line words) :
    Text.trim line = line := by
  obtain ⟨spelled, hspelled, rfl, rfl⟩ := h
  exact trim_joinWith hspelled

theorem Typed.splitWords {line : String} {words : List String} (h : Typed line words) :
    splitWords line = .ok words := by
  obtain ⟨spelled, hspelled, rfl, rfl⟩ := h
  rw [splitWords_eq_ok_iff, List.map_map]
  exact (separated_joinWith fun w hw => (hspelled w hw).word).line

theorem Typed.parse {line first : String} {rest : List String} (h : Typed line (first :: rest)) :
    Command.parse line = Command.classify line (first :: rest) := by
  have hwords := h.splitWords
  rw [← h.trim] at hwords
  rw [Command.parse_of_splitWords hwords, h.trim]

/-- A spelling without quotes if there is one, else one in single quotes. -/
def spelling (word : String) : String :=
  if isPlain word then word else Quote.single.spell word

theorem spells_spelling (word : String) : Spells (spelling word) word := by
  unfold spelling
  split_ifs with hplain
  · exact spells_plain hplain
  · exact spells_spell .single word

/-- Any words can be typed. -/
theorem typed_spelling {line : String} {words : List String}
    (h : joinWith " " (words.map spelling) = line) : Typed line words := by
  refine ⟨words.map fun w => (spelling w, w), ?_, by simpa [Function.comp_def] using h,
    by simp [Function.comp_def]⟩
  intro w hw
  obtain ⟨v, -, rfl⟩ := List.mem_map.1 hw
  exact spells_spelling v

theorem typed_plain {words : List String} (h : ∀ w ∈ words, isPlain w = true) :
    Typed (joinWith " " words) words := by
  have hsame : words.map spelling = words :=
    (List.map_congr_left fun w hw => if_pos (h w hw)).trans (List.map_id words)
  exact typed_spelling (congrArg (joinWith " ") hsame)

/-! ## Commands -/

namespace Command

variable {c : Command} {names : List String}

theorem flagValue_of_get? {flag : String} {value : Option String} (hflag : flag ∈ names)
    (hget : c.flags.get? flag = some value)
    (hothers : ∀ n ∈ names, n ≠ flag → c.flags.get? n = none) : c.flagValue names = value := by
  cases hfound : c.flagValue names with
  | none =>
    have hnone := List.findSome?_eq_none_iff.1 hfound flag hflag
    simpa [hget, eq_comm] using hnone
  | some v =>
    obtain ⟨n, hn, hv⟩ := List.exists_of_findSome?_eq_some hfound
    by_cases hsame : n = flag
    · rw [hsame, hget] at hv
      exact hv.symm
    · rw [hothers n hn hsame] at hv
      cases hv

/-- A switch that is given under one of its names. -/
theorem switch_of_get? {flag : String} {value : Option String} (hflag : flag ∈ names)
    (hget : c.flags.get? flag = some value)
    (hothers : ∀ n ∈ names, n ≠ flag → c.flags.get? n = none) :
    c.switch names = ⟨true, value⟩ := by
  have hset : c.hasFlag names = true :=
    List.any_eq_true.2 ⟨flag, hflag, by simp [OrderedMap.contains, hget]⟩
  rw [switch, hset, flagValue_of_get? hflag hget hothers]

/-- A switch that is not given. -/
theorem switch_off (h : ∀ n ∈ names, c.flags.get? n = none) : c.switch names = .off := by
  have hset : c.hasFlag names = false :=
    List.any_eq_false.2 fun n hn => by simp [OrderedMap.contains, h n hn]
  have hvalue : c.flagValue names = none :=
    List.findSome?_eq_none_iff.2 fun n hn => by rw [h n hn, Option.join_none]
  rw [switch, hset, hvalue, Switch.off]

theorem switch_one {flag : String} {value : Option String} (h : c.flags = .ofList [(flag, value)])
    (hflag : flag ∈ names) : c.switch names = ⟨true, value⟩ := by
  have hget (n : String) : c.flags.get? n = if flag = n then some value else none := by
    rw [h]
    exact OrderedMap.get?_insert ..
  refine switch_of_get? hflag (by rw [hget, if_pos rfl]) fun n _ hne => ?_
  rw [hget, if_neg (Ne.symm hne)]

end Command

theorem Typed.parse_tool {line name : String} {words : List String} {tool : Tool}
    (h : Typed line (tool.name :: name :: words)) (htool : tool ≠ .internal) :
    Command.parse line = .ok (Command.ofTool tool line name words) := by
  rw [h.parse, Command.classify]
  cases tool with
  | internal => exact absurd rfl htool
  | git => rw [show lower Tool.git.name = "git" by decide]; rfl
  | gh => rw [show lower Tool.gh.name = "gh" by decide]; rfl

theorem Typed.parse_git {line name : String} {words args : List String} {flags : Flags}
    (h : Typed line ("git" :: name :: words)) (hsplit : splitFlags words = (flags, args)) :
    Command.parse line = .ok ⟨.git, name, none, args, flags, line⟩ := by
  have hparse : Command.parse line = .ok (Command.ofTool .git line name words) :=
    h.parse_tool (by decide)
  have hof : Command.ofTool .git line name words
      = ⟨.git, name, none, (splitFlags words).2, (splitFlags words).1, line⟩ := rfl
  rw [hparse, hof, hsplit]

end Shell

namespace Console

open Shell

/-- The outcome of a line that is a command. -/
def responded (out : Repo × Response) : Repo × Except ParseError Response := (out.1, .ok out.2)

/-- The outcome of a line that is a command and comes to an end. -/
def answered (out : Repo × Reply) : Repo × Except ParseError Response := responded (returning out)

theorem run_git {line name : String} {words args : List String} {flags : Flags} {h : Handler}
    (htyped : Typed line ("git" :: name :: words)) (hsplit : splitFlags words = (flags, args))
    (hhandler : gitHandler name = .ok h) (r : Repo) :
    run r line = responded (h ⟨.git, name, none, args, flags, line⟩ r) := by
  simp only [run, htyped.parse_git hsplit, execute, handlerOf, hhandler, responded]

end Console
end GitPractice
