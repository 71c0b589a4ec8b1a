import CommitStore.Proofs.Effects
import CommitStore.Proofs.Replaying
set_option autoImplicit false

/-!
# Sweeps that fail

A sweep can fail in three places. If the visible commits cannot be found, or the references cannot be
listed, the sweep ends before its first deletion. If a deletion is refused, the sweep has already
deleted the dangling references before the refused one; because the dangling names are known in order
before the first of them is deleted, these are exactly the dangling names before the first refused
one (`Sweep.StopsAt`).

A sweep that a repository makes is undone in each of these cases: the session is as if its open
transaction had been rolled back, and of the sweep only the line that announced it is left.

The search for dangling references goes on for ever at tags that lead back to where they came from.
A sweep that searches such references raises nothing, because it does not return; so what is said of
a refused deletion is for tables whose tags end (`Tables.TagsEnd`). After calls of a repository they
always do (`run_tagsEnd` in `Proofs/ObjectGraph`).
-/

namespace CommitStore

open CommitStore.Action

/-! ## 1. A deletion that is refused -/

namespace Tables

/-- Removing references adds to the journal. -/
theorem journal_removeRefs (t : Tables) (names : List RefName) (now : Instant) :
    t.journal <+: (t.removeRefs names now).journal := by
  induction names generalizing t with
  | nil => exact List.prefix_rfl
  | cons name rest ih =>
    have hone : t.journal <+: (t.removeRef name none now).journal := by
      unfold removeRef
      cases t.refs.get? name with
      | none => exact List.prefix_rfl
      | some old => exact List.prefix_append _ _
    exact hone.trans (ih (t.removeRef name none now))

end Tables

/-- The error of a deletion that the store refuses. -/
def Sweep.refusedDeletion (name : RefName) : Error :=
  .storeAccess "delete reference" (some name) (.stated "injected failure")

namespace Sweep

/-- Deletions go on up to the first one that is refused. -/
theorem deleteAll_refused (gone rest : List RefName) {first : RefName} {s : Session} (h : s.IsOpen)
    (hgone : ∀ name ∈ gone, name ∉ s.refusals.deletions)
    (hfirst : first ∈ s.refusals.deletions) :
    (deleteAll (gone ++ first :: rest)).runOn s =
      (.error (refusedDeletion first), s.onTables (s.working.removeRefs gone s.now)) := by
  induction gone generalizing s with
  | nil =>
    rw [List.nil_append, deleteAll]
    refine runOn_bind_of_error ?_ _
    rw [RefStore.delete_runOn h, if_pos hfirst]
    rfl
  | cons name others ih =>
    have hallowed : name ∉ s.refusals.deletions := hgone name List.mem_cons_self
    have hdelete : (RefStore.delete name).runOn s =
        (.ok (), s.onTables (s.working.removeRef name none s.now)) := by
      rw [RefStore.delete_runOn h, if_neg hallowed]
    rw [List.cons_append, deleteAll, runOn_bind_of_ok hdelete]
    exact ih (h.onTables _) (fun other hother => hgone other (List.mem_cons_of_mem _ hother)) hfirst

/-- What a sweep leaves that stops at a deletion: the dangling references before that name are gone,
and everything else is as it was. -/
structure StopsAt (root : String) (visible : List Oid) (first : RefName) (s s' : Session) :
    Prop where
  dangles : Dangles s.working root visible first
  refused : first ∈ s.refusals.deletions
  least : ∀ name, Dangles s.working root visible name → name ∈ s.refusals.deletions →
    name = first ∨ Text.before first name = true
  gone : ∀ name, Dangles s.working root visible name → Text.before name first = true →
    s'.working.refs.get? name = none
  kept : ∀ name, ¬ (Dangles s.working root visible name ∧ Text.before name first = true) →
    s'.working.refs.get? name = s.working.refs.get? name
  objects : s'.working.objects = s.working.objects
  journal : s.working.journal <+: s'.working.journal
  log : s'.working.events = s.working.events ∧ s'.working.transactions = s.working.transactions
  mergeBases : s'.working.mergeBases = s.working.mergeBases
  rest : s' = s.onTables s'.working

/-- In a sorted list, what stands before a name are the names before it. -/
theorem mem_gone_iff {gone rest : List RefName} {first : RefName}
    (hsorted : (gone ++ first :: rest).Pairwise fun a b => Text.before a b = true)
    (name : RefName) :
    name ∈ gone ↔ name ∈ gone ++ first :: rest ∧ Text.before name first = true := by
  obtain ⟨_, hlater, hacross⟩ := List.pairwise_append.mp hsorted
  have hrest := (List.pairwise_cons.mp hlater).1
  constructor
  · intro hgone
    exact ⟨List.mem_append_left _ hgone, hacross name hgone first List.mem_cons_self⟩
  · rintro ⟨hmem, hbefore⟩
    rcases List.mem_append.mp hmem with hgone | hlater
    · exact hgone
    · rcases List.mem_cons.mp hlater with rfl | hafter
      · rw [Text.not_before_self] at hbefore
        cases hbefore
      · have hself := Text.before_trans hbefore (hrest name hafter)
        rw [Text.not_before_self] at hself
        cases hself

/-- Where a dangling name is refused, the deletions of a sweep stop at the first such name. -/
theorem deleteAll_stopsAt (root : String) (visible : List Oid) {s : Session} (h : s.IsOpen)
    {name : RefName} (hrefused : name ∈ s.refusals.deletions)
    (hdangles : Dangles s.working root visible name) :
    ∃ first s', (deleteAll (classify s.working root visible
        s.working.refs.references).dangling).runOn s = (.error (refusedDeletion first), s') ∧
      StopsAt root visible first s s' := by
  have hmem := mem_dangling_iff s.working root visible
  have hsorted := dangling_sorted s.working root visible
  generalize (classify s.working root visible s.working.refs.references).dangling = dangling
    at hmem hsorted ⊢
  obtain ⟨first, hfind⟩ : ∃ first, dangling.find? (fun name => decide (name ∈ s.refusals.deletions))
      = some first := by
    rw [← Option.isSome_iff_exists, List.find?_isSome]
    exact ⟨name, (hmem name).mpr hdangles, decide_eq_true hrefused⟩
  obtain ⟨hfirst, gone, rest, rfl, hgone⟩ := List.find?_eq_some_iff_append.mp hfind
  have hfirst : first ∈ s.refusals.deletions := of_decide_eq_true hfirst
  have hallowed : ∀ name ∈ gone, name ∉ s.refusals.deletions := by
    intro name hname
    simpa using hgone name hname
  have hgoneIff : ∀ name, name ∈ gone ↔
      Dangles s.working root visible name ∧ Text.before name first = true := by
    intro name
    rw [mem_gone_iff hsorted, hmem]
  obtain ⟨hobjects, hevents, htransactions, hbases, _⟩ := s.working.removeRefs_frame gone s.now
  refine ⟨first, _, deleteAll_refused gone rest h hallowed hfirst, ?_⟩
  refine ⟨?_, hfirst, ?_, ?_, ?_, hobjects, ?_, ⟨hevents, htransactions⟩, hbases, rfl⟩
  · exact (hmem first).mp (List.mem_append_right _ List.mem_cons_self)
  · intro other hother hrefused
    rcases List.mem_append.mp ((hmem other).mpr hother) with hbefore | hlater
    · exact absurd hrefused (hallowed other hbefore)
    · rcases List.mem_cons.mp hlater with hsame | hafter
      · exact Or.inl hsame
      · have hlater := (List.pairwise_append.mp hsorted).2.1
        exact Or.inr ((List.pairwise_cons.mp hlater).1 other hafter)
  · intro other hother hbefore
    rw [Session.onTables_working, Tables.removeRefs_get?,
      if_pos ((hgoneIff other).mpr ⟨hother, hbefore⟩)]
  · intro other hnot
    rw [Session.onTables_working, Tables.removeRefs_get?,
      if_neg fun hother => hnot ((hgoneIff other).mp hother)]
  · exact s.working.journal_removeRefs gone s.now

/-! ## 2. Where a sweep ends -/

section

variable {root : String} {line : Option String} {visibility : Action (List Oid)} {s s₁ : Session}

theorem run_of_visible {visible : List Oid}
    (hvisible : visibility.runOn (s.announced line) = (.ok visible, s₁)) :
    (run root line visibility).runOn s =
      (do
        let findings ← find root visible
        deleteAll findings.dangling
        pure ⟨findings.scanned, findings.skipped, findings.dangling⟩ : Action Outcome).runOn s₁ := by
  rw [run_announced]
  refine runOn_bind_of_ok ?_ _
  rw [runOn_tryCatch, hvisible]

theorem run_of_listing_error {visible : List Oid} {e : Error} {s₂ : Session}
    (hvisible : visibility.runOn (s.announced line) = (.ok visible, s₁))
    (hlist : RefStore.list.runOn s₁ = (.error e, s₂)) :
    (run root line visibility).runOn s = (.error e, s₁) := by
  obtain rfl := RefStore.looks_list.eq_of_runOn hlist
  rw [run_of_visible hvisible, find]
  exact runOn_bind_of_error (runOn_bind_of_error hlist _) _

/-- Only an open session whose references can be listed gets past the listing. -/
theorem isOpen_of_list {refs : List Reference} {s₂ : Session}
    (hlist : RefStore.list.runOn s₁ = (.ok refs, s₂)) :
    s₁.IsOpen ∧ s₁.refusals.listing = false := by
  by_cases hopen : s₁.IsOpen
  · refine ⟨hopen, ?_⟩
    rw [RefStore.list_runOn hopen] at hlist
    cases hlisting : s₁.refusals.listing with
    | false => rfl
    | true =>
      rw [hlisting] at hlist
      cases hlist
  · obtain ⟨e, _, hstall, _⟩ := RefStore.stalls_list hopen
    rw [hstall] at hlist
    cases hlist

theorem run_of_refused {visible : List Oid}
    (hvisible : visibility.runOn (s.announced line) = (.ok visible, s₁)) (h : s₁.IsOpen)
    (hlisting : s₁.refusals.listing = false) {name : RefName}
    (hrefused : name ∈ s₁.refusals.deletions) (hdangles : Dangles s₁.working root visible name) :
    ∃ first s', (run root line visibility).runOn s = (.error (refusedDeletion first), s') ∧
      StopsAt root visible first s₁ s' := by
  obtain ⟨first, s', hdelete, hstops⟩ := deleteAll_stopsAt root visible h hrefused hdangles
  refine ⟨first, s', ?_, hstops⟩
  rw [run_of_visible hvisible, runOn_bind_of_ok (find_runOn h hlisting root visible)]
  exact runOn_bind_of_error hdelete _

/-- Deletions change the tables of an open session and nothing else, whether they end or stop. -/
theorem deleteAll_session (names : List RefName) {s : Session} (h : s.IsOpen) :
    ∃ t, ((deleteAll names).runOn s).2 = s.onTables t := by
  induction names generalizing s with
  | nil => exact ⟨s.working, rfl⟩
  | cons name rest ih =>
    rw [deleteAll, runOn_bind, RefStore.delete_runOn h]
    by_cases hrefused : name ∈ s.refusals.deletions
    · rw [if_pos hrefused]
      exact ⟨s.working, rfl⟩
    · rw [if_neg hrefused]
      exact ih (h.onTables _)

/-- However a sweep ends, it leaves the session as the visible commits were found in it, apart from
the tables of the open transaction. -/
theorem run_session (root : String) (line : Option String) (visibility : Action (List Oid))
    (s : Session) :
    ∃ t, ((run root line visibility).runOn s).2 =
      (visibility.runOn (s.announced line)).2.onTables t := by
  rcases hvisible : visibility.runOn (s.announced line) with ⟨e | visible, s₁⟩
  · rw [run_of_visibility_error hvisible]
    exact ⟨s₁.working, rfl⟩
  · rcases hlist : RefStore.list.runOn s₁ with ⟨e | refs, s₂⟩
    · rw [run_of_listing_error hvisible hlist]
      exact ⟨s₁.working, rfl⟩
    · obtain ⟨hopen, hlisting⟩ := isOpen_of_list hlist
      rw [run_of_visible hvisible, runOn_bind_of_ok (find_runOn hopen hlisting root visible)]
      obtain ⟨t, hdeleted⟩ := deleteAll_session
        (classify s₁.working root visible s₁.working.refs.references).dangling hopen
      refine ⟨t, ?_⟩
      rw [← hdeleted, runOn_bind]
      rcases (deleteAll _).runOn s₁ with ⟨_ | _, s'⟩ <;> rfl

end

end Sweep

/-! ## 3. Sweeps of a repository -/

namespace Action

variable {α : Type}

/-- An action that stalls and changes nothing fails and changes nothing. -/
theorem Stalls.error_of_looks {x : Action α} {s : Session} (h : Stalls x s) (hx : Looks x) :
    ∃ e, x.runOn s = (.error e, s) := by
  obtain ⟨e, s', hrun, _⟩ := h
  obtain rfl := hx.eq_of_runOn hrun
  exact ⟨e, hrun⟩

end Action

namespace Repository

variable {config : Config} {s : Session}

theorem looks_replay : Looks EventLog.replay := by
  refine (looks_read _).bind fun rows => ?_
  cases EventLog.replayRows rows
  · exact looks_throw _
  · exact looks_pure _

/-- The visible commits can be found exactly if the session is open and every row of its log can be
replayed; where they cannot, the session stays as it is. -/
theorem visible_cases (config : Config) (s : Session) :
    (s.IsOpen ∧ (∀ row ∈ s.working.events, row.Replayable) ∧
      ∃ found cache, (visible config).runOn s =
        (.ok found, s.onTables { s.working with mergeBases := cache })) ∨
    (¬ (s.IsOpen ∧ ∀ row ∈ s.working.events, row.Replayable) ∧
      ∃ e, (visible config).runOn s = (.error e, s)) := by
  by_cases hopen : s.IsOpen
  · have hrows := EventLog.exists_replayRows_eq_ok_iff s.working.events
    cases hreplay : EventLog.replayRows s.working.events with
    | ok r =>
      rw [hreplay] at hrows
      exact Or.inl ⟨hopen, hrows.mp ⟨r, rfl⟩, _, _, visible_runOn config hopen hreplay⟩
    | error e =>
      rw [hreplay] at hrows
      refine Or.inr ⟨?_, e, visible_refused config hopen hreplay⟩
      rintro ⟨_, hall⟩
      obtain ⟨r, hr⟩ := hrows.mpr hall
      cases hr
  · refine Or.inr ⟨fun h => hopen h.1, ?_⟩
    have hstalls : Stalls EventLog.replay s := (stalls_read hopen _).bind _
    obtain ⟨e, hreplay⟩ := hstalls.error_of_looks looks_replay
    exact ⟨e, runOn_bind_of_error hreplay _⟩

end Repository

/-! ## 4. Failing closed -/

/-- A sweep writes its line once and before anything else, deletes nothing if the visible commits
cannot be found or the references cannot be listed, and stops at the first dangling name that cannot
be deleted, where the tags that it takes off end. -/
structure Sweep.FailsClosed (root line : String) (visibility : Action (List Oid)) (s : Session) :
    Prop where
  lineFirst : (run root (some line) visibility).runOn s =
    (run root none visibility).runOn (s.announced (some line))
  lineOnce : ((run root (some line) visibility).runOn s).2.sink =
    (visibility.runOn (s.announced (some line))).2.sink
  onVisibility : ∀ e s₁, visibility.runOn (s.announced (some line)) = (.error e, s₁) →
    (run root (some line) visibility).runOn s = (.error (.visibility e), s₁)
  onListing : ∀ visible s₁ e s₂,
    visibility.runOn (s.announced (some line)) = (.ok visible, s₁) →
    RefStore.list.runOn s₁ = (.error e, s₂) →
    (run root (some line) visibility).runOn s = (.error e, s₁)
  onDeletion : ∀ visible s₁ refs s₂,
    visibility.runOn (s.announced (some line)) = (.ok visible, s₁) →
    RefStore.list.runOn s₁ = (.ok refs, s₂) →
    s₁.working.TagsEnd →
    (∃ name ∈ s₁.refusals.deletions, Dangles s₁.working root visible name) →
    ∃ first s', (run root (some line) visibility).runOn s = (.error (refusedDeletion first), s') ∧
      StopsAt root visible first s₁ s'

/-- A sweep of a repository fails wherever one of its parts fails, and a failed one leaves the store
as it was last committed, with nothing in the open transaction. -/
structure Repository.SweepFailsClosed (config : Config) (announces : Bool) (s : Session) :
    Prop where
  undone : ∀ e s', (sweep config announces).runOn s = (.error e, s') →
    s' = (s.announced (announcement config announces)).rolledBack ∧
      s'.committed = s.committed ∧ s'.working = s.committed
  onVisibility : ∀ e s₁,
    (visible config).runOn (s.announced (announcement config announces)) = (.error e, s₁) →
    ∃ s', (sweep config announces).runOn s = (.error (.visibility e), s')
  onLog : (∃ row ∈ s.working.events, ¬ row.Replayable) →
    ∃ e s', (sweep config announces).runOn s = (.error (.visibility e), s')
  onListing : ∀ found s₁ e s₂,
    (visible config).runOn (s.announced (announcement config announces)) = (.ok found, s₁) →
    RefStore.list.runOn s₁ = (.error e, s₂) →
    ∃ s', (sweep config announces).runOn s = (.error e, s')
  onDeletion : ∀ found s₁ refs s₂,
    (visible config).runOn (s.announced (announcement config announces)) = (.ok found, s₁) →
    RefStore.list.runOn s₁ = (.ok refs, s₂) →
    s.working.TagsEnd →
    (∃ name ∈ s.refusals.deletions, Sweep.Dangles s.working config.pinRoot found name) →
    ∃ first s', (sweep config announces).runOn s = (.error (Sweep.refusedDeletion first), s') ∧
      first ∈ s.refusals.deletions ∧ Sweep.Dangles s.working config.pinRoot found first

namespace Sweep

theorem failsClosed (root line : String) (visibility : Action (List Oid)) (s : Session) :
    FailsClosed root line visibility s where
  lineFirst := rfl
  lineOnce := by
    obtain ⟨t, hrun⟩ := run_session root (some line) visibility s
    rw [hrun]
    rfl
  onVisibility e s₁ hvisible := run_of_visibility_error hvisible
  onListing visible s₁ e s₂ hvisible hlist := run_of_listing_error hvisible hlist
  onDeletion := by
    rintro visible s₁ refs s₂ hvisible hlist _ ⟨name, hrefused, hdangles⟩
    obtain ⟨hopen, hlisting⟩ := isOpen_of_list hlist
    exact run_of_refused hvisible hopen hlisting hrefused hdangles

end Sweep

namespace Repository

variable {config : Config} {announces : Bool} {s : Session}

/-- Finding the visible commits, or failing to, changes no more than the cache of merge bases. -/
theorem visible_session (config : Config) (s : Session) :
    ∃ cache, ((visible config).runOn s).2 =
      s.onTables { s.working with mergeBases := cache } := by
  rcases visible_cases config s with ⟨_, _, found, cache, hrun⟩ | ⟨_, e, hrun⟩
  · exact ⟨cache, by rw [hrun]⟩
  · exact ⟨s.working.mergeBases, by rw [hrun]; rfl⟩

/-- However the sweep of a repository fails, it is undone. -/
theorem sweep_undone {e : Error} {s' : Session}
    (hrun : (sweep config announces).runOn s = (.error e, s')) :
    s' = (s.announced (announcement config announces)).rolledBack := by
  obtain ⟨t, hsession⟩ :=
    Sweep.run_session config.pinRoot (announcement config announces) (visible config) s
  obtain ⟨cache, hvisible⟩ :=
    visible_session config (s.announced (announcement config announces))
  rcases hswept : (Sweep.run config.pinRoot (announcement config announces)
    (visible config)).runOn s with ⟨e₁ | outcome, s₁⟩
  · rw [sweep_of_run_error hswept] at hrun
    cases hrun
    rw [hswept, hvisible] at hsession
    rw [show s₁ = _ from hsession]
    rfl
  · rw [sweep_eq_ok_iff.mpr ⟨s₁, hswept, rfl⟩] at hrun
    cases hrun

theorem sweepFailsClosed (config : Config) (announces : Bool) (s : Session) :
    SweepFailsClosed config announces s where
  undone := by
    intro e s' hrun
    have hundone := sweep_undone hrun
    refine ⟨hundone, ?_, ?_⟩
    · rw [hundone]
      exact s.announced_committed _
    · rw [hundone]
      exact s.announced_committed _
  onVisibility e s₁ hvisible := ⟨_, sweep_of_run_error (Sweep.run_of_visibility_error hvisible)⟩
  onLog := by
    rintro ⟨row, hrow, hnot⟩
    rcases visible_cases config (s.announced (announcement config announces)) with
      ⟨_, hall, _⟩ | ⟨_, e, hvisible⟩
    · rw [s.announced_working] at hall
      exact absurd (hall row hrow) hnot
    · exact ⟨e, _, sweep_of_run_error (Sweep.run_of_visibility_error hvisible)⟩
  onListing found s₁ e s₂ hvisible hlist :=
    ⟨_, sweep_of_run_error (Sweep.run_of_listing_error hvisible hlist)⟩
  onDeletion := by
    rintro found s₁ refs s₂ hvisible hlist _ ⟨name, hrefused, hdangles⟩
    obtain ⟨hopen, hlisting⟩ := Sweep.isOpen_of_list hlist
    obtain ⟨cache, hsession⟩ :=
      visible_session config (s.announced (announcement config announces))
    rw [hvisible] at hsession
    obtain rfl : s₁ = _ := hsession
    -- What dangles depends on references and objects only, and those are as they were.
    have hsame : ∀ name, Sweep.Dangles
        { (s.announced (announcement config announces)).working with mergeBases := cache }
        config.pinRoot found name ↔ Sweep.Dangles s.working config.pinRoot found name := by
      intro name
      rw [s.announced_working]
      exact Iff.rfl
    rw [← s.announced_refusals (announcement config announces)] at hrefused
    obtain ⟨first, s', hrun, hstops⟩ :=
      Sweep.run_of_refused hvisible hopen hlisting hrefused ((hsame name).mpr hdangles)
    refine ⟨first, _, sweep_of_run_error hrun, ?_, (hsame first).mp hstops.dangles⟩
    rw [← s.announced_refusals (announcement config announces)]
    exact hstops.refused

/-- **Sweeps fail closed**, and the sweep of a repository does all of its work or none of it. -/
theorem sweep_failsClosed (config : Config) (announces : Bool) (root line : String)
    (visibility : Action (List Oid)) (s : Session) :
    Sweep.FailsClosed root line visibility s ∧ SweepFailsClosed config announces s :=
  ⟨Sweep.failsClosed root line visibility s, sweepFailsClosed config announces s⟩

/-- Where the second of three dangling references cannot be deleted, only the first one goes, and
where a row of the log has an unknown kind, the sweep of the repository is undone. -/
theorem sweep_failsClosed_crowded :
    let refusing : Session := { Session.start Sweep.crowdedTables false default with
      refusals := { deletions := ["refs/branchless/b", "refs/branchless/ab"] } }
    let strange : Session := Session.start { Sweep.crowdedTables with
      events := [⟨{}, 1, 1, "strange", default⟩] } false default
    (∃ s', (Sweep.run "refs/branchless" (some "line") (pure ["b"])).runOn refusing =
        (.error (Sweep.refusedDeletion "refs/branchless/ab"), s') ∧
      s'.working.refs.get? "refs/branchless/aa" = none ∧
      s'.working.refs.get? "refs/branchless/ac" = some (.direct "t") ∧
      s'.sink = "line\n") ∧
    ∃ e s', (sweep {} true).runOn strange = (.error (.visibility e), s') ∧
      s'.working = strange.committed := by
  intro refusing strange
  constructor
  · have hcore := (sweep_failsClosed {} true "refs/branchless" "line" (pure ["b"]) refusing).1
    have hdangles : ∀ name, Sweep.Dangles Sweep.crowdedTables "refs/branchless" ["b"] name ↔
        name ∈ ["refs/branchless/aa", "refs/branchless/ab", "refs/branchless/ac"] := by
      intro name
      rw [← Sweep.mem_dangling_iff]
      have hdangling : (Sweep.classify Sweep.crowdedTables "refs/branchless" ["b"]
          Sweep.crowdedTables.refs.references).dangling =
          ["refs/branchless/aa", "refs/branchless/ab", "refs/branchless/ac"] := by
        decide +kernel
      rw [hdangling]
    obtain ⟨first, s', hrun, hstops⟩ := hcore.onDeletion ["b"] _ _ _ rfl
      (RefStore.list_runOn (s := refusing.announced (some "line")) ⟨rfl, rfl⟩)
      (by decide +kernel) ⟨"refs/branchless/ab", by decide, (hdangles _).mpr (by decide)⟩
    have hfirst : first = "refs/branchless/ab" := by
      have hmem := (hdangles first).mp hstops.dangles
      have hrefused : first ∈ ["refs/branchless/b", "refs/branchless/ab"] := hstops.refused
      simp only [List.mem_cons, List.not_mem_nil, or_false] at hmem hrefused
      rcases hrefused with rfl | rfl
      · simp at hmem
      · rfl
    subst hfirst
    refine ⟨s', hrun, ?_, ?_, ?_⟩
    · exact hstops.gone _ ((hdangles _).mpr (by decide)) (by decide)
    · rw [hstops.kept _ fun h => absurd h.2 (by decide)]
      decide +kernel
    · have honce := hcore.lineOnce
      rw [hrun] at honce
      exact honce.trans (by decide)
  · have hfacade := (sweep_failsClosed {} true "" "" (pure []) strange).2
    have hunknown : ¬ (⟨{}, 1, 1, "strange", default⟩ : EventRow).Replayable := by
      rintro ⟨event, hevent, _⟩
      cases hevent
    obtain ⟨e, s', hrun⟩ := hfacade.onLog ⟨_, List.mem_cons_self, hunknown⟩
    exact ⟨e, s', hrun, (hfacade.undone _ _ hrun).2.2⟩

end Repository
end CommitStore
