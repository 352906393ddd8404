import GitPractice.Date
import GitPractice.Main
import GitPractice.Proofs.Dispatch
import GitPractice.Proofs.Snapshot
import GitPractice.Proofs.WellFormed
import GitPractice.Proofs.Failure
import GitPractice.Proofs.Growth
import GitPractice.Proofs.RoundTrip
import GitPractice.Proofs.SnapshotText
import GitPractice.Proofs.Quoting
import GitPractice.Proofs.Turn
import GitPractice.Proofs.Conservation
import GitPractice.Proofs.Numbering
import GitPractice.Proofs.Lifecycle
import GitPractice.Proofs.Ancestry
import GitPractice.Proofs.Progress
import GitPractice.Proofs.Checked
import GitPractice.Proofs.Answer
import GitPractice.Proofs.Forgetting
import GitPractice.Proofs.Restart
import GitPractice.Proofs.Records
import GitPractice.Proofs.Confinement
import GitPractice.Proofs.SwallowedWords
import GitPractice.Proofs.Canonical
import GitPractice.Proofs.Unclosed
import GitPractice.Proofs.Unstaging
import GitPractice.Proofs.Committing
import GitPractice.Proofs.Drawing
import GitPractice.Proofs.Publishing
import GitPractice.Proofs.Lineage
import GitPractice.Proofs.Reviewing
import GitPractice.Proofs.Judging
import GitPractice.Proofs.Matching
import GitPractice.Proofs.Remainder
import GitPractice.Proofs.Followed
import GitPractice.Proofs.FollowedClass
import GitPractice.Proofs.FollowedPattern
import GitPractice.Proofs.Anchoring
import GitPractice.Proofs.Compound
import GitPractice.Proofs.Verbatim
import GitPractice.Proofs.Safeguards
import GitPractice.Proofs.NameOrder
import GitPractice.Proofs.References
import GitPractice.Proofs.Trimming
import GitPractice.Proofs.SwitchOrder
import GitPractice.Proofs.Replies
import GitPractice.Proofs.Leaving
