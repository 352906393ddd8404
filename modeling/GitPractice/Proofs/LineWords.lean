import Mathlib.Data.List.TakeWhile
import GitPractice.Shell.Command
import GitPractice.Proofs.Cutting
import GitPractice.Proofs.WordGrammar

/-!
# The words behind a command

A command is read off words of the line, and this leads back from the command to the line: each
positional word and each flag is a word of it, and a flag's value is the next word or in the same
one (`isInfix_or_mem_of_flag`). The blanks that are trimmed off a line are in none of its words
(`splitWords_of_trim`). A command of `git` or `gh` is what the words behind the first one tell
(`ofTool_of_parse`).
-/

namespace GitPractice.Shell

open GitPractice.Text (trim lower isBlank)

/-! ## Trimming -/

theorem splitWords_eq_ok_iff (line : String) (texts : List String) :
    splitWords line = .ok texts ↔ Line line.toList (texts.map String.toList) := by
  rw [← tokenize_eq_ok_iff, splitWords]
  cases tokenize line <;> simp [Except.map]

theorem Line.padded {lead cs trail : List Char} {texts : List (List Char)} (hlead : Blanks lead)
    (h : Line cs texts) (htrail : Blanks trail) : Line (lead ++ (cs ++ trail)) texts := by
  obtain ⟨_, gap, ⟨before, body, hbefore, hbody, rfl⟩, hgap, rfl⟩ := h
  refine ⟨lead ++ before ++ body, gap ++ trail, ⟨lead ++ before, body, ?_, hbody, rfl⟩, ?_,
    by simp⟩
  · exact List.forall_mem_append.2 ⟨hlead, hbefore⟩
  · exact List.forall_mem_append.2 ⟨hgap, htrail⟩

theorem blanks_takeWhile (cs : List Char) : Blanks (cs.takeWhile isBlank) :=
  fun _ hc => List.mem_takeWhile_imp hc

theorem toList_eq_trim (s : String) :
    ∃ lead trail, Blanks lead ∧ Blanks trail ∧ s.toList = lead ++ ((trim s).toList ++ trail) := by
  have hstart (cs : List Char) : cs = cs.takeWhile isBlank ++ Text.trimStartChars cs :=
    (List.takeWhile_append_dropWhile ..).symm
  have hend (cs : List Char) :
      cs = Text.trimEndChars cs ++ (cs.reverse.takeWhile isBlank).reverse := by
    rw [Text.trimEndChars, ← List.reverse_append, List.takeWhile_append_dropWhile,
      List.reverse_reverse]
  refine ⟨_, ((Text.trimStartChars s.toList).reverse.takeWhile isBlank).reverse,
    blanks_takeWhile s.toList, fun c hc => blanks_takeWhile _ c (List.mem_reverse.1 hc), ?_⟩
  · rw [trim, String.toList_ofList, Text.trimChars, ← hend]
    exact hstart s.toList

theorem splitWords_of_trim {line : String} {texts : List String}
    (h : splitWords (trim line) = .ok texts) : splitWords line = .ok texts := by
  rw [splitWords_eq_ok_iff] at h ⊢
  obtain ⟨lead, trail, hlead, htrail, heq⟩ := toList_eq_trim line
  rw [heq]
  exact h.padded hlead htrail

theorem Command.parse_of_splitWords {line first : String} {rest : List String}
    (h : splitWords (trim line) = .ok (first :: rest)) :
    Command.parse line = Command.classify (trim line) (first :: rest) := by
  have hne : trim line ≠ "" := by
    intro hempty
    rw [hempty] at h
    cases h
  rw [Command.parse, if_neg hne, h]

/-! ## Flags and positional words -/

/-- What makes the words of a segment such a segment. -/
def Segment.Proper : Segment → Prop
  | .assigned name value => assignment? (name ++ "=" ++ value) = some (name, value)
  | .valued name value => assignment? name = none ∧ isFlag name = true ∧ isDashed value = false
  | .lone name => assignment? name = none ∧ isFlag name = true
  | .positional word => assignment? word = none ∧ isFlag word = false

theorem Segment.Fits.proper {rest : List String} {s : Segment} (h : s.Fits rest) : s.Proper := by
  cases s with
  | assigned name value => exact assignment?_append h.1 h.2 value
  | valued name value => exact ⟨assignment?_eq_none_iff.2 h.1.2, h.1.1, h.2⟩
  | lone name => exact ⟨assignment?_eq_none_iff.2 h.1.2, h.1.1⟩
  | positional word => exact ⟨assignment?_of_not_flag h, h⟩

theorem proper_of_mem_segments (ws : List String) : ∀ s ∈ segments ws, s.Proper := by
  intro s hs
  obtain ⟨rest, hfits⟩ := (allFit_segments ws).fits hs
  exact hfits.proper

theorem isInfix_spell {ws : List String} {s : Segment} (h : s ∈ segments ws) : s.spell <:+: ws := by
  obtain ⟨before, after, heq⟩ := List.append_of_mem h
  have hws := spell_segments ws
  rw [heq, List.flatMap_append, List.flatMap_cons, ← List.append_assoc] at hws
  exact ⟨_, _, hws⟩

theorem mem_of_positional {ws : List String} {w : String} (h : w ∈ (splitFlags ws).2) :
    w ∈ ws := by
  obtain ⟨s, hs, hw⟩ := List.mem_filterMap.1 h
  cases s with
  | positional word =>
    cases hw
    exact (isInfix_spell hs).subset List.mem_cons_self
  | _ => cases hw

theorem isInfix_or_mem_of_flag {ws : List String} {name value : String}
    (h : (splitFlags ws).1.get? name = some (some value)) :
    [name, value] <:+: ws ∨ name ++ "=" ++ value ∈ ws := by
  have hgiven : (splitFlags ws).1.All
      fun n v => (n, v) ∈ (segments ws).filterMap Segment.flag? :=
    OrderedMap.all_ofList fun _ he => he
  obtain ⟨s, hs, hflag⟩ := List.mem_filterMap.1 (hgiven name (some value) h)
  cases s with
  | assigned n v =>
    cases hflag
    exact .inr ((isInfix_spell hs).subset List.mem_cons_self)
  | valued n v =>
    cases hflag
    exact .inl (isInfix_spell hs)
  | _ => cases hflag

/-- A word in the form of a flag is one, as it is never taken as a value. -/
theorem contains_of_mem {ws : List String} {w : String} (h : w ∈ ws) (hnone : assignment? w = none)
    (hflag : isFlag w = true) : (splitFlags ws).1.contains w = true := by
  rw [← spell_segments ws] at h
  obtain ⟨s, hs, hw⟩ := List.mem_flatMap.1 h
  have hproper := proper_of_mem_segments ws s hs
  have hgiven : ∃ v, s.flag? = some (w, v) := by
    cases s with
    | assigned n v =>
      rw [List.mem_singleton.1 hw, hproper] at hnone
      cases hnone
    | valued n v =>
      rcases List.mem_pair.1 hw with rfl | rfl
      · exact ⟨some v, rfl⟩
      · rw [isFlag, hproper.2.2] at hflag
        cases hflag
    | lone n =>
      rw [List.mem_singleton.1 hw]
      exact ⟨none, rfl⟩
    | positional v =>
      rw [List.mem_singleton.1 hw, hproper.2] at hflag
      cases hflag
  obtain ⟨v, hv⟩ := hgiven
  rw [OrderedMap.contains_iff, splitFlags, OrderedMap.mem_keys_ofList]
  exact List.mem_map.2 ⟨(w, v), List.mem_filterMap.2 ⟨s, hs, hv⟩, rfl⟩

/-! ## Lines that call a tool -/

theorem ofTool_tool (tool : Tool) (raw name : String) (rest : List String) :
    (Command.ofTool tool raw name rest).tool = tool := by
  unfold Command.ofTool
  split <;> rfl

theorem ofTool_of_ne {tool : Tool} {name : String} (h : ¬ (tool = .gh ∧ name = "pr"))
    (raw : String) (rest : List String) : Command.ofTool tool raw name rest
      = ⟨tool, name, none, (splitFlags rest).2, (splitFlags rest).1, raw⟩ := by
  unfold Command.ofTool
  split
  · exact absurd ⟨rfl, rfl⟩ h
  · rfl

theorem toolNamed?_eq_some {head : String} {tool : Tool} (h : Command.toolNamed? head = some tool) :
    head = tool.name := by
  unfold Command.toolNamed? at h
  split_ifs at h with hgit hgh
  · cases h
    exact hgit
  · cases h
    exact hgh

theorem classify_of_parse {line : String} {c : Command} (h : Command.parse line = .ok c) :
    ∃ first rest, splitWords line = .ok (first :: rest)
      ∧ Command.classify (trim line) (first :: rest) = .ok c := by
  simp only [Command.parse] at h
  split_ifs at h
  split at h
  · cases h
  rename_i words hwords
  rcases words with _ | ⟨first, rest⟩
  · cases h
  exact ⟨first, rest, splitWords_of_trim hwords, h⟩

theorem ofTool_of_parse {line : String} {c : Command} (h : Command.parse line = .ok c)
    (htool : c.tool ≠ .internal) :
    ∃ first name rest, splitWords line = .ok (first :: name :: rest) ∧ lower first = c.tool.name
      ∧ c = Command.ofTool c.tool (trim line) name rest := by
  obtain ⟨first, rest, hwords, h⟩ := classify_of_parse h
  simp only [Command.classify] at h
  split_ifs at h
  · cases h
    exact absurd rfl htool
  split at h
  · cases h
  rename_i tool hhead
  rcases rest with _ | ⟨name, rest⟩
  · cases h
  cases h
  rw [ofTool_tool]
  exact ⟨first, name, rest, hwords, toolNamed?_eq_some hhead, rfl⟩

theorem toolNamed?_ne_internal (head : String) :
    Command.toolNamed? head ≠ some .internal := by
  unfold Command.toolNamed?
  split_ifs <;> nofun

theorem keyword_of_parse {line : String} {c : Command} (h : Command.parse line = .ok c)
    (htool : c.tool = .internal) :
    ∃ first rest, splitWords line = .ok (first :: rest) ∧ c.name = lower first := by
  obtain ⟨first, rest, hwords, h⟩ := classify_of_parse h
  refine ⟨first, rest, hwords, ?_⟩
  simp only [Command.classify] at h
  split_ifs at h
  · cases h
    rfl
  split at h
  · cases h
  rename_i tool hhead
  rcases rest with _ | ⟨name, rest⟩
  · cases h
  cases h
  rw [ofTool_tool] at htool
  exact absurd (htool ▸ hhead) (toolNamed?_ne_internal _)

/-- The line calls the `git` command of this name, with these words after the name. -/
def GitLine (line name : String) (args : List String) : Prop :=
  ∃ first, splitWords line = .ok (first :: name :: args) ∧ lower first = "git"

theorem gitLine_of_parse {line : String} {c : Command} (h : Command.parse line = .ok c)
    (htool : c.tool = .git) :
    ∃ args, GitLine line c.name args ∧ splitFlags args = (c.flags, c.args) := by
  obtain ⟨first, name, args, hwords, hfirst, hc⟩ := ofTool_of_parse h (by simp [htool])
  rw [htool] at hfirst hc
  rw [hc]
  exact ⟨args, ⟨first, hwords, hfirst⟩, rfl⟩

end GitPractice.Shell
