import GitPractice.Proofs.Lifecycle

/-!
# Reviews

A pull request holds one list of reviews, in which a reviewer may stand several times: a request
adds an entry for each reviewer, and what a reviewer says goes into the first entry of that reviewer,
or to the end (`PullRequest.Upserts`). Nothing else touches the list, and nothing takes an approval
back. So the reviews and the approval of a pull request are what the events since its opening make
them, one after the other (`reviews_since_opened`), whatever becomes of the pull request otherwise.
-/

namespace GitPractice

namespace Review

/-- What a reviewer says; an empty comment counts as none. -/
def recorded (reviewer : String) (verdict : Verdict) (comment : Option String) : Review :=
  ⟨reviewer, verdict, if comment = some "" then none else comment⟩

def requested (reviewer : String) : Review := ⟨reviewer, .pending, none⟩

theorem recorded_eq (reviewer : String) (verdict : Verdict) (comment : Option String) :
    recorded reviewer verdict comment = ⟨reviewer, verdict, comment.filter (· ≠ "")⟩ := by
  rcases comment with _ | text
  · rfl
  · by_cases h : text = "" <;> simp [recorded, Option.filter, h]

end Review

/-! ## One entry -/

namespace PullRequest

/-- The first entry of the reviewer is replaced, or there was none and one is added at the end. -/
inductive Upserts (review : Review) : List Review → List Review → Prop where
  | replaced {before after : List Review} {old : Review}
      (hbefore : ∀ x ∈ before, x.reviewer ≠ review.reviewer)
      (hold : old.reviewer = review.reviewer) :
      Upserts review (before ++ old :: after) (before ++ review :: after)
  | added {reviews : List Review} (hnone : ∀ x ∈ reviews, x.reviewer ≠ review.reviewer) :
      Upserts review reviews (reviews ++ [review])

variable {review : Review} {reviews reviews' : List Review}

theorem Upserts.cons {r : Review} (hr : r.reviewer ≠ review.reviewer)
    (h : Upserts review reviews reviews') : Upserts review (r :: reviews) (r :: reviews') := by
  cases h with
  | @replaced before after old hbefore hold =>
    rw [← List.cons_append, ← List.cons_append]
    exact .replaced (List.forall_mem_cons.2 ⟨hr, hbefore⟩) hold
  | added hnone => exact .added (List.forall_mem_cons.2 ⟨hr, hnone⟩)

theorem upserts_upsertReview (review : Review) :
    ∀ reviews, Upserts review reviews (upsertReview review reviews)
  | [] => .added nofun
  | r :: rest => by
    rw [upsertReview]
    split_ifs with hr
    · exact @Upserts.replaced review [] rest r nofun hr
    · exact (upserts_upsertReview review rest).cons hr

/-- The entries of the others are the same, in the same order. -/
theorem Upserts.filter_eq (h : Upserts review reviews reviews') :
    reviews'.filter (·.reviewer ≠ review.reviewer)
      = reviews.filter (·.reviewer ≠ review.reviewer) := by
  cases h with
  | replaced hbefore hold => simp [List.filter_append, hold]
  | added hnone => simp [List.filter_append]

theorem filter_requested (reviews : List Review) (reviewers : List String) :
    (reviews ++ reviewers.map Review.requested).filter (·.reviewer ∉ reviewers)
      = reviews.filter (·.reviewer ∉ reviewers) := by
  have hnone : (reviewers.map Review.requested).filter (·.reviewer ∉ reviewers) = [] := by
    simp [List.filter_eq_nil_iff, Review.requested]
  rw [List.filter_append, hnone, List.append_nil]

end PullRequest

/-! ## One operation -/

namespace Repo

/-- The repository with another record of a pull request. -/
def withPull (r : Repo) (number : UInt32) (p : PullRequest) : Repo :=
  { r with state.pullRequests := r.state.pullRequests.insert number p }

variable {r : Repo} {number : UInt32} {p : PullRequest}

theorem addReview_of_get? (hp : r.state.pullRequests.get? number = some p) (reviewer : String)
    (verdict : Verdict) (comment : Option String) :
    (r.addReview number reviewer verdict comment).2.success = true
      ∧ (r.addReview number reviewer verdict comment).1
        = r.withPull number (p.addReview (.recorded reviewer verdict comment)) := by
  have hthere := OrderedMap.contains_iff.2 (OrderedMap.mem_keys_of_get? hp)
  rw [addReview, if_pos hthere, Review.recorded_eq]
  refine ⟨rfl, ?_⟩
  simp only [State.modifyPull, OrderedMap.modify_eq_insert hp]
  rfl

theorem requestReview_of_get? (hp : r.state.pullRequests.get? number = some p)
    (reviewers : List String) :
    (r.requestReview number reviewers).2.success = true
      ∧ (r.requestReview number reviewers).1 = r.withPull number (p.request reviewers) := by
  have hthere := OrderedMap.contains_iff.2 (OrderedMap.mem_keys_of_get? hp)
  rw [requestReview, if_pos hthere]
  refine ⟨rfl, ?_⟩
  simp only [State.modifyPull, OrderedMap.modify_eq_insert hp]
  rfl

end Repo

/-! ## One event -/

namespace Event

/-- What an event makes of the reviews of a pull request. -/
def reviewing (number : UInt32) (reviews : List Review) : Event → List Review
  | .performed (.addReview n reviewer verdict comment) =>
    if n = number then PullRequest.upsertReview (.recorded reviewer verdict comment) reviews
    else reviews
  | .performed (.requestReview n reviewers) =>
    if n = number then reviews ++ reviewers.map Review.requested else reviews
  | _ => reviews

/-- The event is a review that approves the pull request. -/
def Approves (number : UInt32) (e : Event) : Prop :=
  ∃ reviewer comment, e = .performed (.addReview number reviewer .approved comment)

variable {number : UInt32} {op : Operation}

/-- What is neither a review nor a request leaves the reviews as they are. -/
theorem reviewing_of_revision?_none (h : op.revision? = none) (reviews : List Review) :
    reviewing number reviews (.performed op) = reviews
      ∧ ¬ Approves number (.performed op) := by
  constructor
  · cases op <;> first | rfl | cases h
  · rintro ⟨reviewer, comment, he⟩
    cases he
    cases h

theorem reviewing_of_revision? {n : UInt32} {f : PullRequest → PullRequest}
    (h : op.revision? = some (n, f)) (p : PullRequest) :
    (if n = number then f p else p).reviews = reviewing number p.reviews (.performed op)
      ∧ ((if n = number then f p else p).approved = true
        ↔ p.approved = true ∨ Approves number (.performed op)) := by
  cases op <;> simp only [Operation.revision?, Option.some.injEq, Prod.mk.injEq, reduceCtorEq] at h
  all_goals obtain ⟨rfl, rfl⟩ := h
  case mergePull => split_ifs <;> simp [reviewing, Approves]
  case closePull => split_ifs <;> simp [reviewing, Approves]
  case requestReview n reviewers =>
    by_cases hn : n = number
    · simp [reviewing, Approves, hn, PullRequest.request, Review.requested]
    · simp [reviewing, Approves, hn]
  case addReview n reviewer verdict comment =>
    by_cases hn : n = number
    · simp [reviewing, Approves, hn, PullRequest.addReview, Review.recorded_eq]
    · simp [reviewing, Approves, hn]

end Event

namespace Repo

variable {r : Repo} {number : UInt32} {p q : PullRequest} {e : Event}

/-- Reviews and requests are not refused where there is a pull request. -/
theorem reviewing_of_refused {op : Operation} (hp : r.state.pullRequests.get? number = some p)
    (hfailed : (r.perform op).2.failed = true) :
    Event.reviewing number p.reviews (.performed op) = p.reviews
      ∧ ¬ Event.Approves number (.performed op) := by
  have hsuccess := Response.succeeded_of_failed hfailed
  rcases hrevision : op.revision? with _ | ⟨n, f⟩
  · exact Event.reviewing_of_revision?_none hrevision p.reviews
  · by_cases hn : n = number
    · subst hn
      cases op <;>
        simp only [Operation.revision?, Option.some.injEq, Prod.mk.injEq, reduceCtorEq]
          at hrevision
      all_goals obtain ⟨rfl, -⟩ := hrevision
      case mergePull => simp [Event.reviewing, Event.Approves]
      case closePull => simp [Event.reviewing, Event.Approves]
      case requestReview n reviewers =>
        cases (requestReview_of_get? hp reviewers).1.symm.trans hsuccess
      case addReview n reviewer verdict comment =>
        cases (addReview_of_get? hp reviewer verdict comment).1.symm.trans hsuccess
    · have hreviews := (@Event.reviewing_of_revision? number op n f hrevision p).1
      rw [if_neg hn] at hreviews
      refine ⟨hreviews.symm, fun happroves => ?_⟩
      obtain ⟨reviewer, comment, he⟩ := happroves
      cases he
      exact hn (Prod.mk.inj (Option.some.inj hrevision)).1.symm

/-- Unless an event gives its number anew, it changes a pull request's reviews as it says. -/
theorem reviewing_after (himport : e.isImport = false) (hgiven : number ∉ r.given [] e)
    (hq : (r.after e).state.pullRequests.get? number = some q) :
    ∃ p, r.state.pullRequests.get? number = some p ∧ q.reviews = e.reviewing number p.reviews
      ∧ (q.approved = true ↔ p.approved = true ∨ e.Approves number) := by
  have hhappens := r.happens_after e
  generalize r.after e = r' at hhappens hq
  have hidle (hreviews : ∀ reviews, e.reviewing number reviews = reviews)
      (happroves : ¬ e.Approves number) (hq : r.state.pullRequests.get? number = some q) :
      ∃ p, r.state.pullRequests.get? number = some p ∧ q.reviews = e.reviewing number p.reviews
        ∧ (q.approved = true ↔ p.approved = true ∨ e.Approves number) :=
    ⟨q, hq, (hreviews q.reviews).symm, by simp [happroves]⟩
  cases hhappens with
  | refused hfailed =>
    obtain ⟨hreviews, happroves⟩ := reviewing_of_refused hq hfailed
    exact ⟨q, hq, hreviews.symm, by simp [happroves]⟩
  | heldUp hwaits hnone =>
    rw [(samePulls_of_waits hwaits).1] at hq
    cases hwaits with
    | _ => exact hidle (fun _ => rfl) (by simp [Event.Approves]) hq
  | @performed op _ heffect hsuccess =>
    cases pullEffect_of_effect heffect with
    | kept hnew hnone hsame =>
      rw [hsame.1] at hq
      exact hidle (fun reviews => (Event.reviewing_of_revision?_none hnone reviews).1)
        (Event.reviewing_of_revision?_none hnone []).2 hq
    | opened hfree hpulls hnext =>
      rw [hpulls, OrderedMap.get?_insert] at hq
      split_ifs at hq with hnumber
      · simp [given, Operation.isProposal, hsuccess, hnumber] at hgiven
      · exact hidle (fun _ => rfl) (by simp [Event.Approves]) hq
    | revised hnew hrevision hpulls hnext =>
      rw [hpulls] at hq
      obtain ⟨p, hp, rfl⟩ := OrderedMap.get?_modify_eq_some hq
      exact ⟨p, hp, Event.reviewing_of_revision? hrevision p⟩
  | imported hsound => cases himport
  | rejected hfault => cases himport
  | editedAgain hlisted => exact hidle (fun _ => rfl) (by simp [Event.Approves]) hq
  | edited hnew => exact hidle (fun _ => rfl) (by simp [Event.Approves]) hq
  | movedOn ids now => exact hidle (fun _ => rfl) (by simp [Event.Approves]) hq

/-- A pull request is opened with no reviews and no approval. -/
theorem opened_after (hgiven : number ∈ r.given [] e)
    (hq : (r.after e).state.pullRequests.get? number = some q) :
    r.given [] e = [number] ∧ q.reviews = [] ∧ q.approved = false := by
  have hchange := r.pullChange_after [] e
  generalize r.given [] e = numbers at hchange hgiven
  cases hchange with
  | kept hsame => cases hgiven
  | revised hrevision hpulls hnext => cases hgiven
  | cleared hpulls hnext => cases hgiven
  | opened hfree hpulls hnext =>
    rw [List.nil_append, List.mem_singleton] at hgiven
    subst hgiven
    rw [hpulls, OrderedMap.get?_insert, if_pos rfl, Option.some.injEq] at hq
    subst hq
    exact ⟨rfl, rfl, rfl⟩

/-! ## A run -/

/-- The reviews of a pull request are what the events after its opening have made them, and it is
approved if one of these was an approval. -/
theorem reviewing_afterAll (hempty : r.state.pullRequests = .empty) {events : List Event}
    (himports : ∀ e ∈ events, e.isImport = false)
    (hp : (r.afterAll events).state.pullRequests.get? number = some p) :
    ∃ past opening since, events = past ++ opening :: since
      ∧ (r.afterAll past).given [] opening = [number]
      ∧ number ∉ ((r.afterAll past).after opening).givenAll [] since
      ∧ p.reviews = since.foldl (Event.reviewing number) []
      ∧ (p.approved = true ↔ ∃ e ∈ since, e.Approves number) := by
  induction events using List.reverseRecOn generalizing p with
  | nil =>
    change r.state.pullRequests.get? number = some p at hp
    rw [hempty] at hp
    cases hp
  | append_singleton events e ih =>
    have hafter : r.afterAll (events ++ [e]) = (r.afterAll events).after e := by
      rw [afterAll, List.foldl_append]
      rfl
    rw [hafter] at hp
    by_cases hgiven : number ∈ (r.afterAll events).given [] e
    · -- The number is given anew: what came before was about another pull request.
      obtain ⟨hopened, hreviews, happroved⟩ := opened_after hgiven hp
      exact ⟨events, e, [], rfl, hopened, List.not_mem_nil, hreviews, by simp [happroved]⟩
    · have himport := himports e (by simp)
      obtain ⟨q, hq, hreviews, happroved⟩ := reviewing_after himport hgiven hp
      obtain ⟨past, opening, since, rfl, hopening, hsince, hreviews', happroved'⟩ :=
        ih (fun e' he' => himports e' (List.mem_append_left _ he')) hq
      refine ⟨past, opening, since ++ [e], by simp, hopening, ?_, ?_, ?_⟩
      · have hstate : ((r.afterAll past).after opening).afterAll since
            = r.afterAll (past ++ opening :: since) := by
          simp only [afterAll, List.foldl_append, List.foldl_cons]
        rw [givenAll_append, hstate, givenAll, givenAll, given_eq_append himport,
          List.mem_append, not_or]
        exact ⟨hsince, hgiven⟩
      · rw [hreviews, hreviews', List.foldl_append, List.foldl_cons, List.foldl_nil]
      · rw [happroved, happroved']
        simp [or_and_right, exists_or]

/-- In a run without import a pull request is approved if and only if there was an approval since it
was opened; its reviews are those the events since then have left. What a reviewer says replaces the
first entry of that reviewer or is added at the end, a request adds an entry for each reviewer, and
no entry of anyone else is touched. -/
theorem reviews_since_opened (config : RepoConfig) (ids : Fingerprints) (now : UInt64)
    {events : List Event} (himports : ∀ e ∈ events, e.isImport = false) {number : UInt32}
    {p : PullRequest}
    (hp : ((fresh config ids now).afterAll events).state.pullRequests.get? number = some p) :
    let r := (fresh config ids now).afterAll events
    (∃ past opening since, events = past ++ opening :: since
      ∧ ((fresh config ids now).afterAll past).given [] opening = [number]
      ∧ number ∉ (((fresh config ids now).afterAll past).after opening).givenAll [] since
      ∧ (p.approved = true ↔ ∃ reviewer comment,
        .performed (.addReview number reviewer .approved comment) ∈ since)
      ∧ p.reviews = since.foldl (Event.reviewing number) [])
    ∧ (∀ reviewer verdict comment, ∃ reviews,
      PullRequest.Upserts (.recorded reviewer verdict comment) p.reviews reviews
      ∧ reviews.filter (·.reviewer ≠ reviewer) = p.reviews.filter (·.reviewer ≠ reviewer)
      ∧ (r.addReview number reviewer verdict comment).2.success = true
      ∧ (r.addReview number reviewer verdict comment).1 = r.withPull number
        { p with reviews := reviews, approved := p.approved || verdict = .approved })
    ∧ ∀ reviewers,
      (p.reviews ++ reviewers.map Review.requested).filter (·.reviewer ∉ reviewers)
        = p.reviews.filter (·.reviewer ∉ reviewers)
      ∧ (r.requestReview number reviewers).2.success = true
      ∧ (r.requestReview number reviewers).1 = r.withPull number
        { p with reviews := p.reviews ++ reviewers.map Review.requested } := by
  intro r
  refine ⟨?_, fun reviewer verdict comment => ?_, fun reviewers => ?_⟩
  · obtain ⟨past, opening, since, hevents, hopening, hsince, hreviews, happroved⟩ :=
      reviewing_afterAll (r := fresh config ids now) rfl himports hp
    refine ⟨past, opening, since, hevents, hopening, hsince, ?_, hreviews⟩
    rw [happroved]
    simp only [Event.Approves]
    constructor
    · rintro ⟨e, he, reviewer, comment, rfl⟩
      exact ⟨reviewer, comment, he⟩
    · rintro ⟨reviewer, comment, he⟩
      exact ⟨_, he, reviewer, comment, rfl⟩
  · have hupserts := PullRequest.upserts_upsertReview (.recorded reviewer verdict comment) p.reviews
    obtain ⟨hsuccess, hrepo⟩ := addReview_of_get? hp reviewer verdict comment
    exact ⟨_, hupserts, hupserts.filter_eq, hsuccess, hrepo⟩
  · obtain ⟨hsuccess, hrepo⟩ := requestReview_of_get? hp reviewers
    exact ⟨PullRequest.filter_requested p.reviews reviewers, hsuccess, hrepo⟩

/-- A proposal is approved; then the approval is taken back, reviews are asked for once more, and the
proposal is closed. -/
def reconsidered : List Event :=
  proposed ++ [.performed (.requestReview 1 ["ann", "bob", "ann"]),
    .performed (.addReview 1 "ann" .approved (some "")),
    .performed (.addReview 1 "cleo" .commented (some "Long")),
    .performed (.addReview 1 "ann" .changesRequested (some "Too long")),
    .performed (.requestReview 1 ["cleo"]), .performed (.closePull 1)]

theorem reviews_since_opened_reconsidered :
    let r := (fresh .default (.numbered 'c') pinnedTime).afterAll reconsidered
    (∀ e ∈ reconsidered, e.isImport = false) ∧ ∃ p, r.state.pullRequests.get? 1 = some p
      ∧ p.approved = true
      ∧ p.reviews = [⟨"ann", .changesRequested, some "Too long"⟩, ⟨"bob", .pending, none⟩,
        ⟨"ann", .pending, none⟩, ⟨"cleo", .commented, some "Long"⟩, ⟨"cleo", .pending, none⟩]
      ∧ (∃ past opening since, reconsidered = past ++ opening :: since
        ∧ ∃ reviewer comment, .performed (.addReview 1 reviewer .approved comment) ∈ since)
      ∧ ∃ reviews, PullRequest.Upserts ⟨"bob", .approved, none⟩ p.reviews reviews
        ∧ (r.addReview 1 "bob" .approved (some "")).1
          = r.withPull 1 { p with reviews := reviews, approved := true } := by
  intro r
  have himports : ∀ e ∈ reconsidered, e.isImport = false := by
    simp [reconsidered, proposed, Event.isImport]
  have hthere : 1 ∈ r.state.pullRequests.keys := by decide +kernel
  obtain ⟨p, hp⟩ := OrderedMap.mem_keys_iff.1 hthere
  have hrecord : (r.state.pullRequests.get? 1).map (fun p => (p.approved, p.reviews))
      = some (true, [⟨"ann", .changesRequested, some "Too long"⟩, ⟨"bob", .pending, none⟩,
        ⟨"ann", .pending, none⟩, ⟨"cleo", .commented, some "Long"⟩,
        ⟨"cleo", .pending, none⟩]) := by
    decide +kernel
  rw [hp, Option.map_some, Option.some.injEq, Prod.mk.injEq] at hrecord
  obtain ⟨happroved, hreviews⟩ := hrecord
  obtain ⟨⟨past, opening, since, hevents, -, -, hiff, -⟩, hadd, -⟩ :=
    reviews_since_opened .default (.numbered 'c') pinnedTime himports hp
  obtain ⟨reviews, hupserts, -, -, hrepo⟩ := hadd "bob" .approved (some "")
  refine ⟨himports, p, hp, happroved, hreviews, ⟨past, opening, since, hevents, hiff.1 happroved⟩,
    reviews, hupserts, ?_⟩
  rw [happroved] at hrepo
  exact hrepo

end Repo

end GitPractice
