import GitPractice.Proofs.Dispatch
import GitPractice.Proofs.Frame
import GitPractice.Proofs.LineWords

/-!
# Pending changes are conserved

A file with a change that is not committed stays so, until it is part of a new commit or its change
is given up by a line that names it; and only `git add` brings in a file, again by its name
(`run_conserves`).

Between the staged and the working list files move freely, so what counts is membership in the two
together (`pending`), and there a repeated name does no harm.
-/

namespace GitPractice

namespace State

variable {s t : State} {f : String}

/-- The files with changes that are not committed. -/
def pending (s : State) : List String := s.staged.map StagedChange.file ++ s.working

theorem mem_pending : f ∈ s.pending ↔ f ∈ s.staged.map StagedChange.file ∨ f ∈ s.working :=
  List.mem_append

/-! ## Moving files -/

theorem mem_stageAll_staged :
    f ∈ s.stageAll.staged.map StagedChange.file ↔ f ∈ s.pending := by
  rw [mem_pending, stageAll]
  generalize s.staged = staged
  induction s.working generalizing staged with
  | nil => simp
  | cons w working ih =>
    rw [List.foldl_cons, ih, List.mem_cons]
    split_ifs with hw
    · have hstaged : w ∈ staged.map StagedChange.file := by simpa [List.any_eq_true] using hw
      constructor
      · exact fun h => h.imp_right .inr
      · rintro (h | rfl | h)
        · exact .inl h
        · exact .inl hstaged
        · exact .inr h
    · rw [List.map_append, List.mem_append, or_assoc]
      simp

theorem mem_pending_stageAll : f ∈ s.stageAll.pending ↔ f ∈ s.pending := by
  rw [mem_pending, mem_stageAll_staged]
  simp [stageAll]

theorem mem_pending_stage {path : String} :
    f ∈ (s.stage path).pending ↔ f ∈ s.pending ∨ f = path := by
  have hstaged : f ∈ (s.stage path).staged.map StagedChange.file
      ↔ f ∈ s.staged.map StagedChange.file ∨ f = path := by
    by_cases hpath : s.isStaged path = true
    · have hmem := isStaged_iff.1 hpath
      rw [stage, hpath, if_pos rfl]
      exact ⟨.inl, fun h => h.elim id fun h => h ▸ hmem⟩
    · rw [stage, if_neg hpath, List.map_append, List.mem_append, List.map_singleton,
        List.mem_singleton]
  rw [mem_pending, mem_pending, hstaged]
  by_cases hf : f = path
  · exact iff_of_true (.inl (.inr hf)) (.inr hf)
  · have hworking : f ∈ (s.stage path).working ↔ f ∈ s.working := List.mem_erase_of_ne hf
    rw [hworking, or_iff_left hf, or_iff_left hf]

theorem mem_pending_added {path : String} :
    f ∈ (s.added path).pending ↔ f ∈ s.pending ∨ f = path ∧ path ∉ Repo.everything := by
  unfold added
  split_ifs with hall
  · rw [mem_pending_stageAll]
    simp [hall]
  · rw [mem_pending_stage]
    simp [hall]

theorem mem_pending_foldl_added {paths : List String} :
    f ∈ (paths.foldl added s).pending ↔ f ∈ s.pending ∨ f ∈ paths ∧ f ∉ Repo.everything := by
  induction paths generalizing s with
  | nil => simp
  | cons p paths ih =>
    rw [List.foldl_cons, ih, mem_pending_added, List.mem_cons, or_assoc, or_and_right]
    refine or_congr_right (or_congr_left (and_congr_right ?_))
    rintro rfl
    rfl

theorem mem_pending_unstage {path : String} :
    f ∈ (s.unstage path).pending ↔ f ∈ s.pending := by
  by_cases hpath : s.isStaged path = true
  · have hworking : f ∈ (s.unstage path).working ↔ f ∈ s.working ∨ f = path := by
      rw [unstage, if_pos hpath]
      by_cases hpending : s.isPending path = true
      · rw [if_pos hpending]
        have hmem := isPending_iff.1 hpending
        exact ⟨.inl, fun h => h.elim id fun h => h ▸ hmem⟩
      · rw [if_neg hpending, List.mem_append, List.mem_singleton]
    rw [mem_pending, mem_pending, hworking]
    by_cases hf : f = path
    · exact iff_of_true (.inr (.inr hf)) (.inl (hf ▸ isStaged_iff.1 hpath))
    · have hstaged : f ∈ (s.unstage path).staged.map StagedChange.file
          ↔ f ∈ s.staged.map StagedChange.file := by
        rw [unstage, if_pos hpath, List.mem_map, List.mem_map]
        refine exists_congr fun a => and_congr_left fun ha => ?_
        exact List.mem_eraseP_of_neg (by simp [ha, hf])
      rw [hstaged, or_iff_left hf]
  · rw [unstage, if_neg hpath]

theorem mem_pending_foldl_unstage {paths : List String} :
    f ∈ (paths.foldl unstage s).pending ↔ f ∈ s.pending := by
  induction paths generalizing s with
  | nil => rfl
  | cons p paths ih => rw [List.foldl_cons, ih, mem_pending_unstage]

/-! ## Operations -/

/-- From one state to the other a pending file stays one, is in a new commit, or is dropped, and
only those that are named become pending. -/
structure Conserves (dropped named : String → Prop) (s t : State) : Prop where
  kept : ∀ f ∈ s.pending, f ∈ t.pending
    ∨ (∃ c, c.id ∉ s.commits.keys ∧ t.commits.get? c.id = some c ∧ f ∈ c.files) ∨ dropped f
  known : ∀ f ∈ t.pending, f ∈ s.pending ∨ named f

variable {dropped named : String → Prop}

theorem conserves_of_mem (h : ∀ f, f ∈ t.pending ↔ f ∈ s.pending) :
    s.Conserves dropped named t :=
  ⟨fun f hf => .inl ((h f).2 hf), fun f hf => .inl ((h f).1 hf)⟩

theorem conserves_of_lists (hstaged : t.staged = s.staged) (hworking : t.working = s.working) :
    s.Conserves dropped named t :=
  conserves_of_mem fun f => by rw [pending, pending, hstaged, hworking]

theorem Conserves.imp {dropped' named' : String → Prop} (h : s.Conserves dropped named t)
    (hdropped : ∀ f, dropped f → dropped' f) (hnamed : ∀ f, named f → named' f) :
    s.Conserves dropped' named' t :=
  ⟨fun f hf => (h.kept f hf).imp_right (.imp_right (hdropped f)),
    fun f hf => (h.known f hf).imp_right (hnamed f)⟩

theorem mem_pending_indexed {all : Bool} : f ∈ (s.indexed all).pending ↔ f ∈ s.pending := by
  cases all with
  | true => exact mem_pending_stageAll
  | false => rfl

end State

/-- The operation gives up the changes to a file. -/
def Operation.Drops (op : Operation) (f : String) : Prop := ∃ paths, op = .discard paths ∧ f ∈ paths

/-- The operation brings in a file. -/
def Operation.Brings (op : Operation) (f : String) : Prop := op = .add f ∧ f ∉ Repo.everything

namespace Repo

variable {r r' : Repo}

/-- A commit has all files that were staged, and those that it stages itself. -/
theorem conserves_commit {drawn : String × Fingerprints} (hdrawn : r.nextDraw = some drawn)
    {message : String} {all : Bool} {parent : CommitId} {dropped named : String → Prop} :
    r.state.Conserves dropped named
      ((r.emptied all).commitAs drawn message parent
        ((r.state.indexed all).staged.map StagedChange.file)).state := by
  rw [commitAs_state]
  constructor
  · intro f hf
    -- Whether or not all are staged first, the pending files are the same.
    rcases State.mem_pending.1 (State.mem_pending_indexed.2 hf) with hstaged | hworking
    · refine .inr (.inl ⟨_, ?_, (OrderedMap.get?_insert ..).trans (if_pos rfl), hstaged⟩)
      exact drawn_notMem hdrawn
    · exact .inl (State.mem_pending.2 (.inr hworking))
  · intro f hf
    exact .inl (State.mem_pending_indexed.1 (State.mem_pending.2 (.inr hf)))

theorem conserves_effect {op : Operation} (heffect : r.Effect op r') :
    r.state.Conserves op.Drops op.Brings r'.state := by
  have hwithin := within_effect heffect
  cases heffect with
  | add path =>
    refine ⟨fun f hf => .inl (State.mem_pending_added.2 (.inl hf)), fun f hf => ?_⟩
    refine (State.mem_pending_added.1 hf).imp_right ?_
    rintro ⟨rfl, hpath⟩
    exact ⟨rfl, hpath⟩
  | unstage hstaged => exact State.conserves_of_mem fun f => State.mem_pending_foldl_unstage
  | @discard paths hpending =>
    constructor
    · intro f hf
      by_cases hpath : f ∈ paths
      · exact .inr (.inr ⟨paths, rfl, hpath⟩)
      · left
        simpa [State.mem_pending, hpath] using hf
    · intro f hf
      left
      simp only [State.mem_pending, List.mem_filter] at hf ⊢
      exact hf.imp_right And.left
  | commit hmessage hparent hfiles hdrawn => exact conserves_commit hdrawn
  | _ =>
    exact State.conserves_of_lists (hwithin .staged (by simp [Operation.reach]))
      (hwithin .working (by simp [Operation.reach]))

theorem conserves_waits {op : Operation} (hwaits : r.Waits op r') :
    r.state.Conserves op.Drops op.Brings r'.state := by
  cases hwaits with
  | commitAll message => exact State.conserves_of_mem fun f => State.mem_pending_stageAll
  | _ => exact State.conserves_of_lists rfl rfl

theorem conserves_perform (op : Operation) :
    r.state.Conserves op.Drops op.Brings (r.perform op).1.state := by
  rcases r.perform_cases op with hrefused | ⟨heffect, -⟩ | ⟨hwaits, -⟩
  · rw [hrefused.repo_eq]
    exact State.conserves_of_lists rfl rfl
  · exact conserves_effect heffect
  · exact conserves_waits hwaits

end Repo

/-! ## Lines -/

namespace Console

open Shell

/-- The line adds a file by its name. -/
def Adds (line file : String) : Prop := ∃ args, GitLine line "add" args ∧ file ∈ args

/-- The line gives up the changes to a file, by its name. -/
inductive Discards (line file : String) : Prop where
  | restored {args : List String} (h : GitLine line "restore" args) (hfile : file ∈ args)
      (hlong : "--staged" ∉ args) (hshort : "-S" ∉ args)
  | checkedOut {args : List String} (h : GitLine line "checkout" args)
      (hfile : ["--", file] <:+: args)
  | assigned {args : List String} (h : GitLine line "checkout" args) (hfile : "--=" ++ file ∈ args)

variable {line : String} {c : Command} {f : String}

theorem gitLine_of_isGit {name : String} (hparse : Command.parse line = .ok c)
    (hname : IsGit c name) :
    ∃ args, GitLine line name args ∧ splitFlags args = (c.flags, c.args) := by
  obtain ⟨htool, rfl⟩ := hname
  exact gitLine_of_parse hparse htool

theorem discards_of_drops (hparse : Command.parse line = .ok c) {op : Operation}
    (hcalls : Calls c op) (h : op.Drops f) : Discards line f := by
  obtain ⟨paths, rfl, hf⟩ := h
  cases hcalls with
  | restore hname hoff =>
    -- Neither switch was given, so neither stands among the words.
    obtain ⟨args, hline, hsplit⟩ := gitLine_of_isGit hparse hname
    have hgiven {w : String} (hw : w ∈ ["--staged", "-S"]) (hnone : assignment? w = none)
        (hflag : isFlag w = true) : w ∉ args := by
      intro hmem
      have hcontains := contains_of_mem hmem hnone hflag
      rw [hsplit] at hcontains
      rw [Command.hasFlag, List.any_eq_false] at hoff
      exact hoff w hw hcontains
    refine .restored hline ?_ (hgiven (by simp) (by decide) (by decide))
      (hgiven (by simp) (by decide) (by decide))
    exact mem_of_positional (by rw [hsplit]; exact hf)
  | checkoutPath hname hpath =>
    obtain ⟨args, hline, hsplit⟩ := gitLine_of_isGit hparse hname
    cases List.mem_singleton.1 hf
    have hvalue : (splitFlags args).1.get? "--" = some (some f) := by
      rw [hsplit]
      simpa [Command.flagValue, Option.join_eq_some_iff] using hpath
    rcases isInfix_or_mem_of_flag hvalue with hnext | hsame
    · exact .checkedOut hline hnext
    · exact .assigned hline hsame

theorem not_brings (hcalls : Calls c op) : ¬ op.Brings f := by
  rintro ⟨rfl, hf⟩
  cases hcalls
  exact hf (by decide)

theorem adds_of_mem (hparse : Command.parse line = .ok c) (hname : IsGit c "add")
    (hf : f ∈ c.args) : Adds line f := by
  obtain ⟨args, hline, hsplit⟩ := gitLine_of_isGit hparse hname
  exact ⟨args, hline, mem_of_positional (by rw [hsplit]; exact hf)⟩

theorem conserves_amounts {r : Repo} {out : Repo × Response} (h : LineAmounts line r out) :
    r.state.Conserves (Discards line) (Adds line) out.1.state := by
  obtain ⟨c, hparse, h⟩ := h
  cases h with
  | seen reply => exact State.conserves_of_lists rfl rfl
  | performed hcalls hresponse =>
    exact (Repo.conserves_perform _).imp (fun f hf => discards_of_drops hparse hcalls hf)
      fun f hf => absurd hf (not_brings hcalls)
  | staged hname =>
    refine ⟨fun f hf => .inl (State.mem_pending_foldl_added.2 (.inl hf)), fun f hf => ?_⟩
    exact (State.mem_pending_foldl_added.1 hf).imp_right fun h => adds_of_mem hparse hname h.1

theorem run_conserves (r : Repo) (line : String) :
    r.state.Conserves (Discards line) (Adds line) (run r line).1.state := by
  rcases run_cases r line with ⟨e, hrun⟩ | ⟨out, hout, hrun⟩
  · rw [hrun]
    exact State.conserves_of_lists rfl rfl
  · rw [hrun]
    exact conserves_amounts hout

/-- The flag `--` takes a value behind an equals sign as any long flag does. -/
theorem run_drops_assigned :
    let r := (Repo.deterministic .default).edit "a.txt"
    let line := "git checkout --=a.txt"
    "a.txt" ∈ r.state.pending ∧ "a.txt" ∉ (run r line).1.state.pending
      ∧ (run r line).1.state.commits = r.state.commits
      ∧ splitWords line = .ok ["git", "checkout", "--=a.txt"] := by
  intro r line
  have hscan : scan .start line.toList
      = ⟨21, [⟨"checkout", ⟨4, 12⟩⟩, ⟨"git", ⟨0, 3⟩⟩], some ("--=a.txt", 13), .bare⟩ := by
    decide +kernel
  refine ⟨by decide, by decide +kernel, by decide +kernel, ?_⟩
  rw [splitWords, tokenize, hscan]
  rfl

end Console

end GitPractice
