import GitPractice.Proofs.Entries
import GitPractice.Proofs.JsonText
import GitPractice.Repo.SnapshotRecord

/-!
# Snapshots in JSON

Whatever a snapshot holds, sound or not, it is read back from its document (`ofJson?_toJson`).
Each way of writing a value has a reader that undoes it (`list_spelled`, `map_spelled`,
`optional_text`); a field that is left out has a default, which is the value that was left out.
-/

namespace GitPractice

/-! ## Values and fields -/

namespace Record

variable {α : Type} {value : Datum → Option α} {spell : α → Datum}

@[simp] theorem required_some (d : Datum) : required value (some d) = value d := rfl

@[simp] theorem orElse_some (default : α) (d : Datum) :
    orElse default value (some d) = value d := rfl

@[simp] theorem text_text (s : String) : text (.text s) = some s := rfl

theorem list_spelled {l : List α} (h : ∀ a ∈ l, value (spell a) = some a) :
    list value (.list (l.map spell)) = some l := by
  induction l with
  | nil => rfl
  | cons a l ih =>
    have hl := ih fun b hb => h b (List.mem_cons_of_mem _ hb)
    rw [list] at hl
    simp [list, h a List.mem_cons_self, hl]

theorem list_texts (l : List String) : list text (.texts l) = some l :=
  list_spelled fun _ _ => rfl

theorem map_spelled (h : ∀ a, value (spell a) = some a) (m : OrderedMap String α) :
    map value (.table (m.entries.map fun e => (e.1, spell e.2))) = some m := by
  have hentries : (m.entries.map fun e => (e.1, spell e.2)).mapM
      (fun e => (value e.2).map (e.1, ·)) = some m.entries := by
    induction m.entries with
    | nil => rfl
    | cons e es ih => simp [h, ih]
  rw [map, hentries, Option.map_some, OrderedMap.ofList_entries]

theorem optional_optionalText (o : Option String) :
    Record.optional text (some (.optionalText o)) = some o := by
  cases o <;> rfl

theorem optional_text (o : Option String) :
    Record.optional text (o.map .text) = some o := by
  cases o <;> rfl

theorem word64_toNat (n : UInt64) : word64 (.integer n.toNat) = some n := by
  have hn : (n.toNat : Int) < UInt64.size := by exact_mod_cast n.toNat_lt
  rw [word64, if_pos]
  · rw [Int.toNat_natCast, UInt64.ofNat_toNat]
  · simpa using hn

theorem optional_word64 (o : Option UInt64) :
    Record.optional word64 (o.map fun n => .integer n.toNat) = some o := by
  cases o with
  | none => rfl
  | some n =>
    rw [Option.map_some, Record.optional, word64_toNat]
    · rfl
    · exact fun h => by cases h

end Record

/-! ## The records -/

open Record (fields valueUnder list_texts optional_text optional_optionalText optional_word64)

theorem StagedChange.ofDatum_toDatum (c : StagedChange) : ofDatum .json c.toDatum = some c := by
  obtain ⟨file, kind⟩ := c
  cases kind <;> rfl

theorem BranchRecord.ofDatum_toDatum (r : BranchRecord) : ofDatum .json r.toDatum = some r := by
  simp [ofDatum, toDatum, fields, valueUnder, optional_optionalText]

theorem CommitRecord.fields_toDatum (r : CommitRecord) :
    fields .json [["id", "sha"], ["message"], ["parent_id", "parent_sha"], ["files_changed"],
      ["author"], ["timestamp_ms"]] r.toDatum
      = some [some (.text r.id), some (.text r.message), some (.optionalText r.parent),
          some (.texts r.files), r.author.map .text,
          r.timestamp.map fun t => .integer t.toNat] := by
  obtain ⟨id, message, parent, files, author, timestamp⟩ := r
  cases author <;> cases timestamp <;> simp [toDatum, fields, valueUnder]

theorem CommitRecord.ofDatum_toDatum (r : CommitRecord) : ofDatum .json r.toDatum = some r := by
  rw [ofDatum, CommitRecord.fields_toDatum]
  simp [list_texts, optional_text, optional_optionalText, optional_word64]

theorem Snapshot.fields_toDatum (s : Snapshot) :
    fields .json [["commits"], ["branches"], ["remote_branches"], ["head"], ["staged_changes"],
      ["working_changes"]] s.toDatum
      = some [some (commitsDatum s.commits), some (branchesDatum s.branches),
          if s.remoteBranches.isEmpty then none else some (branchesDatum s.remoteBranches),
          some (.text s.head), some (.list (s.staged.map StagedChange.toDatum)),
          some (.texts s.working)] := by
  unfold toDatum
  split_ifs <;> simp [fields, valueUnder]

theorem Snapshot.ofDatum_toDatum (s : Snapshot) : ofDatum .json s.toDatum = some s := by
  have hcommits : Record.map (CommitRecord.ofDatum .json) (commitsDatum s.commits)
      = some s.commits := Record.map_spelled CommitRecord.ofDatum_toDatum s.commits
  have hbranches : Record.map (BranchRecord.ofDatum .json) (branchesDatum s.branches)
      = some s.branches := Record.map_spelled BranchRecord.ofDatum_toDatum s.branches
  have hremote : Record.orElse .empty (Record.map (BranchRecord.ofDatum .json))
      (if s.remoteBranches.isEmpty then none else some (branchesDatum s.remoteBranches))
      = some s.remoteBranches := by
    split_ifs with hempty
    · rw [Record.orElse, ← OrderedMap.ofList_entries s.remoteBranches,
        List.isEmpty_iff.1 hempty]
      rfl
    · exact Record.map_spelled BranchRecord.ofDatum_toDatum s.remoteBranches
  have hstaged := Record.list_spelled (l := s.staged) fun c _ => StagedChange.ofDatum_toDatum c
  rw [ofDatum, fields_toDatum]
  simp [hcommits, hbranches, hremote, hstaged, list_texts]


/-! ## The document -/

open Datum (Written)

theorem Datum.written_texts (l : List String) : (texts l).Written := by
  refine .list fun d hd => ?_
  obtain ⟨s, -, rfl⟩ := List.mem_map.1 hd
  exact .text s

theorem Datum.written_optionalText (o : Option String) : (optionalText o).Written := by
  cases o with
  | none => exact .null
  | some s => exact .text s

theorem StagedChange.written_toDatum (c : StagedChange) : c.toDatum.Written := by
  refine .table fun e he => ?_
  simp only [List.mem_cons, List.not_mem_nil, or_false] at he
  rcases he with rfl | rfl <;> exact .text _

theorem BranchRecord.written_toDatum (r : BranchRecord) : r.toDatum.Written := by
  refine .table fun e he => ?_
  simp only [List.mem_cons, List.not_mem_nil, or_false] at he
  rcases he with rfl | rfl | rfl
  · exact .text _
  · exact .text _
  · exact Datum.written_optionalText _

theorem CommitRecord.written_toDatum (r : CommitRecord) : r.toDatum.Written := by
  refine .table fun e he => ?_
  simp only [List.mem_append, List.mem_cons, List.not_mem_nil, or_false, List.mem_map] at he
  rcases he with ((rfl | rfl | rfl | rfl) | ⟨a, -, rfl⟩) | ⟨t, -, rfl⟩
  · exact .text _
  · exact .text _
  · exact Datum.written_optionalText _
  · exact Datum.written_texts _
  · exact .text _
  · exact .integer _

namespace Snapshot

theorem written_commitsDatum (m : OrderedMap String CommitRecord) : (commitsDatum m).Written := by
  refine .table fun e he => ?_
  obtain ⟨r, -, rfl⟩ := List.mem_map.1 he
  exact r.2.written_toDatum

theorem written_branchesDatum (m : OrderedMap String BranchRecord) :
    (branchesDatum m).Written := by
  refine .table fun e he => ?_
  obtain ⟨r, -, rfl⟩ := List.mem_map.1 he
  exact r.2.written_toDatum

theorem written_toDatum (s : Snapshot) : s.toDatum.Written := by
  have hstaged : (Datum.list (s.staged.map StagedChange.toDatum)).Written := by
    refine .list fun d hd => ?_
    obtain ⟨c, -, rfl⟩ := List.mem_map.1 hd
    exact c.written_toDatum
  refine .table fun e he => ?_
  simp only [List.mem_append, List.mem_cons, List.not_mem_nil, or_false] at he
  rcases he with ((rfl | rfl) | he) | rfl | rfl | rfl
  · exact written_commitsDatum _
  · exact written_branchesDatum _
  · split_ifs at he with hempty
    · cases he
    · rw [List.mem_singleton.1 he]
      exact written_branchesDatum _
  · exact .text _
  · exact hstaged
  · exact Datum.written_texts _

theorem ofJson?_toJson (s : Snapshot) : ofJson? s.toJson = some s := by
  rw [ofJson?, toJson, Json.read_pretty s.written_toDatum, Option.bind_some, s.ofDatum_toDatum]

end Snapshot

end GitPractice
