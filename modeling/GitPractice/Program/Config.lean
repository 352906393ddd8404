import GitPractice.Record
import GitPractice.Repo.Basic
import GitPractice.Toml.Reader

/-!
# Settings

A settings file may name the author, the address of the remote, and a directory of lessons. It holds
nothing else: an unknown field is an error, as it is likely to be a misspelt one.
-/

namespace GitPractice.Program

open Record

structure Config where
  author : Option String
  remoteUrl : Option String
  lessonsDir : Option String
  deriving DecidableEq, Repr

namespace Config

def default : Config := ⟨none, none, none⟩

def repoSection (d : Datum) : Option (Option String × Option String) := do
  match ← closedFields .toml [["author"], ["remote_url"]] d with
  | [author, url] => some (← optional text author, ← optional text url)
  | _ => none

def lessonsSection (d : Datum) : Option (Option String) := do
  match ← closedFields .toml [["dir"]] d with
  | [dir] => optional text dir
  | _ => none

def ofDatum (d : Datum) : Option Config := do
  match ← closedFields .toml [["repo"], ["lessons"]] d with
  | [repo, lessons] =>
    let (author, url) ← orElse (none, none) repoSection repo
    let dir ← orElse none lessonsSection lessons
    some ⟨author, url, dir⟩
  | _ => none

/-- The settings that a text writes. -/
def read? (s : String) : Option Config := (Toml.read s).bind ofDatum

/-- The settings of repositories, with the usual ones where none are given. -/
def repoConfig (c : Config) : RepoConfig :=
  ⟨c.author.getD RepoConfig.default.author, c.remoteUrl.getD RepoConfig.default.remoteUrl⟩

end Config

end GitPractice.Program
