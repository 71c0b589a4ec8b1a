import CommitStore.Proofs.Resolution
import CommitStore.Proofs.StoreActions
import CommitStore.Sweep
set_option autoImplicit false

/-!
# What a sweep deletes

A sweep classifies all references against the visible commits and then deletes the dangling ones.
Each deletion changes the table that the references were classified in: a symbolic reference can lose
the reference that it goes through. So two things have to be shown apart, that the deleted names are
the ones that dangled before the sweep, and that none dangles after it. The second holds because a
smaller table leads nothing anywhere new (`LeadsTo.of_le`): what dangles after the sweep dangled
before it, and was deleted.

`run_eq_ok_iff` takes a completed sweep apart for any way to find the visible commits;
`run_exact` is the statement for a given set of them.
-/

namespace CommitStore

open CommitStore.Action

/-! ## 1. Removing references -/

namespace Tables

theorem removeRef_get? (t : Tables) (name : RefName) (message : Option String) (now : Instant)
    (other : RefName) :
    (t.removeRef name message now).refs.get? other =
      if other = name then none else t.refs.get? other := by
  cases hget : t.refs.get? name with
  | none =>
    rw [removeRef, hget]
    by_cases h : other = name
    · rw [if_pos h, h, hget]
    · rw [if_neg h]
  | some old =>
    rw [removeRef, hget]
    exact t.refs.get?_erase name other

/-- Removing a reference changes the references and their journal only. -/
theorem removeRef_frame (t : Tables) (name : RefName) (message : Option String) (now : Instant) :
    let t' := t.removeRef name message now
    t'.objects = t.objects ∧ t'.events = t.events ∧ t'.transactions = t.transactions ∧
      t'.mergeBases = t.mergeBases ∧ t'.schemaVersion = t.schemaVersion := by
  unfold removeRef
  cases t.refs.get? name <;> exact ⟨rfl, rfl, rfl, rfl, rfl⟩

theorem removeRef_le {t : Tables} {name other : RefName} {message : Option String} {now : Instant}
    {p : Pointer} (h : (t.removeRef name message now).refs.get? other = some p) :
    t.refs.get? other = some p := by
  rw [removeRef_get?] at h
  split at h
  · cases h
  · exact h

/-- The tables without some references. -/
def removeRefs (t : Tables) (names : List RefName) (now : Instant) : Tables :=
  names.foldl (fun t name => t.removeRef name none now) t

theorem removeRefs_get? (names : List RefName) (now : Instant) (other : RefName) (t : Tables) :
    (t.removeRefs names now).refs.get? other =
      if other ∈ names then none else t.refs.get? other := by
  induction names generalizing t with
  | nil => rfl
  | cons name rest ih =>
    rw [removeRefs, List.foldl_cons, ← removeRefs, ih, removeRef_get?]
    by_cases hrest : other ∈ rest <;> by_cases hname : other = name <;> simp [hrest, hname]

theorem removeRefs_frame (names : List RefName) (now : Instant) (t : Tables) :
    let t' := t.removeRefs names now
    t'.objects = t.objects ∧ t'.events = t.events ∧ t'.transactions = t.transactions ∧
      t'.mergeBases = t.mergeBases ∧ t'.schemaVersion = t.schemaVersion := by
  induction names generalizing t with
  | nil => exact ⟨rfl, rfl, rfl, rfl, rfl⟩
  | cons name rest ih =>
    obtain ⟨hobjects, hevents, htransactions, hbases, hschema⟩ := t.removeRef_frame name none now
    obtain ⟨hobjects', hevents', htransactions', hbases', hschema'⟩ :=
      ih (t.removeRef name none now)
    exact ⟨hobjects'.trans hobjects, hevents'.trans hevents, htransactions'.trans htransactions,
      hbases'.trans hbases, hschema'.trans hschema⟩

theorem removeRefs_le {t : Tables} {names : List RefName} {now : Instant} {name : RefName}
    {p : Pointer} (h : (t.removeRefs names now).refs.get? name = some p) :
    t.refs.get? name = some p := by
  rw [removeRefs_get?] at h
  split at h
  · cases h
  · exact h

end Tables

/-! ## 2. What dangles -/

namespace Sweep

/-- A name is reserved, and its reference leads to a commit that is not visible. -/
def Dangles (t : Tables) (root : String) (visible : List Oid) (name : RefName) : Prop :=
  Reserved.isReserved root name = true ∧
    ∃ p commit, t.refs.get? name = some p ∧ LeadsTo t (p.named name) commit ∧ commit ∉ visible

/-- A reference that points directly at an object dangles if its name is reserved and the object
leads to a commit that is not visible. -/
theorem dangles_direct_iff {t : Tables} {name : RefName} {oid : Oid}
    (hget : t.refs.get? name = some (.direct oid)) (root : String) (visible : List Oid) :
    Dangles t root visible name ↔ Reserved.isReserved root name = true ∧
      ∃ commit, t.objects.PeelsTo oid commit ∧ commit ∉ visible := by
  refine and_congr_right fun _ => ?_
  constructor
  · rintro ⟨p, commit, hp, ⟨found, hresolve, hpeels⟩, hnot⟩
    have hsame : some p = some (.direct oid) := hp.symm.trans hget
    cases hsame
    cases hresolve
    exact ⟨commit, hpeels, hnot⟩
  · rintro ⟨commit, hpeels, hnot⟩
    exact ⟨.direct oid, commit, hget, ⟨oid, rfl, hpeels⟩, hnot⟩

theorem isDangling_iff (t : Tables) (root : String) (visible : List Oid) (r : Reference) :
    isDangling t root visible r = true ↔
      Reserved.isReserved root r.name = true ∧ ∃ commit, LeadsTo t r commit ∧ commit ∉ visible := by
  simp only [isDangling, Bool.and_eq_true, Option.any_eq_true, Bool.not_eq_true',
    List.contains_eq_mem, decide_eq_false_iff_not, Pin.commitOf?_eq_some_iff]

theorem mem_dangling_iff (t : Tables) (root : String) (visible : List Oid) (name : RefName) :
    name ∈ (classify t root visible t.refs.references).dangling ↔ Dangles t root visible name := by
  simp only [classify, List.mem_map, List.mem_filter, isDangling_iff, RefTable.mem_references_iff]
  constructor
  · rintro ⟨r, ⟨hget, hreserved, commit, hleads, hnot⟩, rfl⟩
    exact ⟨hreserved, r.toPointer, commit, hget, hleads, hnot⟩
  · rintro ⟨hreserved, p, commit, hget, hleads, hnot⟩
    exact ⟨p.named name, ⟨hget, hreserved, commit, hleads, hnot⟩, rfl⟩

/-- The dangling names come in the order of the table, each once. -/
theorem dangling_sorted (t : Tables) (root : String) (visible : List Oid) :
    (classify t root visible t.refs.references).dangling.Pairwise
      fun a b => Text.before a b = true := by
  have hnames : t.refs.references.Pairwise fun a b => Text.before a.name b.name = true := by
    rw [RefTable.references, List.pairwise_map]
    exact t.refs.sorted
  exact (hnames.filter _).map _ fun _ _ h => h

theorem skipped_eq (t : Tables) (root : String) (visible : List Oid) (refs : List Reference) :
    (classify t root visible refs).skipped =
      (refs.filter fun r => decide (¬ ∃ commit, LeadsTo t r commit)).length := by
  have hsame : (fun r => (Pin.commitOf? t r).isNone) =
      fun r => decide (¬ ∃ commit, LeadsTo t r commit) := by
    funext r
    rw [← decide_not_eq_isNone t r]
  show (refs.filter _).length = _
  rw [hsame]
where
  decide_not_eq_isNone (t : Tables) (r : Reference) :
      decide (¬ ∃ commit, LeadsTo t r commit) = (Pin.commitOf? t r).isNone := by
    rw [← Option.not_isSome, Bool.eq_iff_iff]
    simp [← Pin.commitOf?_isSome_iff]

/-- After the dangling references are removed, none dangles. -/
theorem not_dangles_removeRefs (t : Tables) (root : String) (visible : List Oid) (now : Instant)
    (name : RefName) :
    ¬ Dangles (t.removeRefs (classify t root visible t.refs.references).dangling now) root visible
      name := by
  rintro ⟨hreserved, p, commit, hget, hleads, hnot⟩
  have hbefore : Dangles t root visible name :=
    ⟨hreserved, p, commit, Tables.removeRefs_le hget,
      hleads.of_le (fun _ _ => Tables.removeRefs_le) (t.removeRefs_frame _ now).1, hnot⟩
  rw [Tables.removeRefs_get?, if_pos ((mem_dangling_iff t root visible name).mpr hbefore)] at hget
  cases hget

end Sweep

/-! ## 3. A completed sweep -/

/-- The session after a sweep has been announced. -/
def Session.announced (s : Session) : Option String → Session
  | none => s
  | some line => { s with sink := s.sink ++ line ++ "\n" }

theorem Session.announced_working (s : Session) (line : Option String) :
    (s.announced line).working = s.working := by
  cases line <;> rfl

theorem Session.announced_committed (s : Session) (line : Option String) :
    (s.announced line).committed = s.committed := by
  cases line <;> rfl

theorem Session.announced_refusals (s : Session) (line : Option String) :
    (s.announced line).refusals = s.refusals := by
  cases line <;> rfl

theorem Session.announced_now (s : Session) (line : Option String) :
    (s.announced line).now = s.now := by
  cases line <;> rfl

theorem Session.isOpen_announced (s : Session) (line : Option String) :
    (s.announced line).IsOpen ↔ s.IsOpen := by
  cases line <;> exact Iff.rfl

namespace Sweep

theorem deleteAll_eq_ok_iff (names : List RefName) {s s' : Session} (h : s.IsOpen) :
    (deleteAll names).runOn s = (.ok (), s') ↔
      (∀ name ∈ names, name ∉ s.refusals.deletions) ∧
        s' = s.onTables (s.working.removeRefs names s.now) := by
  induction names generalizing s with
  | nil =>
    simp only [deleteAll, runOn_pure, Prod.mk.injEq, true_and, List.not_mem_nil, false_implies,
      implies_true]
    exact ⟨Eq.symm, Eq.symm⟩
  | cons name rest ih =>
    rw [deleteAll, runOn_bind, RefStore.delete_runOn h]
    by_cases hrefused : name ∈ s.refusals.deletions
    · simp [hrefused]
    · rw [if_neg hrefused]
      dsimp only
      rw [ih ((s.isOpen_onTables _).mpr h)]
      simp [hrefused, Tables.removeRefs]

/-- A sweep starts by announcing itself. -/
theorem run_announced (root : String) (line : Option String) (visibility : Action (List Oid))
    (s : Session) :
    (run root line visibility).runOn s =
      (do
        let visible ← tryCatch visibility fun e => throw (.visibility e)
        let findings ← find root visible
        deleteAll findings.dangling
        pure ⟨findings.scanned, findings.skipped, findings.dangling⟩ : Action Outcome).runOn
          (s.announced line) := by
  cases line <;> rfl

theorem run_of_visibility_error {root : String} {line : Option String}
    {visibility : Action (List Oid)} {s s₁ : Session} {e : Error}
    (hvisible : visibility.runOn (s.announced line) = (.error e, s₁)) :
    (run root line visibility).runOn s = (.error (.visibility e), s₁) := by
  rw [run_announced]
  refine runOn_bind_of_error ?_ _
  rw [runOn_tryCatch, hvisible]
  rfl

theorem find_runOn {s : Session} (h : s.IsOpen) (hlisting : s.refusals.listing = false)
    (root : String) (visible : List Oid) :
    (find root visible).runOn s =
      (.ok (classify s.working root visible s.working.refs.references), s) := by
  have hlist := RefStore.list_runOn h
  rw [hlisting] at hlist
  rw [find, runOn_bind_of_ok hlist]
  exact runOn_read h _

/-- A sweep completes when the visible commits are found, the references can be listed, and every
dangling one of them can be deleted. -/
theorem run_eq_ok_iff {root : String} {line : Option String} {visibility : Action (List Oid)}
    {s s' : Session} {outcome : Outcome} :
    (run root line visibility).runOn s = (.ok outcome, s') ↔
      ∃ visible s₁, visibility.runOn (s.announced line) = (.ok visible, s₁) ∧ s₁.IsOpen ∧
        s₁.refusals.listing = false ∧
        let findings := classify s₁.working root visible s₁.working.refs.references
        (∀ name ∈ findings.dangling, name ∉ s₁.refusals.deletions) ∧
          outcome = ⟨findings.scanned, findings.skipped, findings.dangling⟩ ∧
          s' = s₁.onTables (s₁.working.removeRefs findings.dangling s₁.now) := by
  rw [run_announced, runOn_bind_eq_ok_iff]
  refine exists_congr fun visible => exists_congr fun s₁ => ?_
  have hvisible : (tryCatch visibility fun e => throw (.visibility e)).runOn (s.announced line) =
      (.ok visible, s₁) ↔ visibility.runOn (s.announced line) = (.ok visible, s₁) := by
    rw [runOn_tryCatch]
    rcases visibility.runOn (s.announced line) with ⟨_ | _, _⟩ <;> simp
  rw [hvisible]
  refine and_congr_right fun _ => ?_
  by_cases hopen : s₁.IsOpen
  · cases hlisting : s₁.refusals.listing with
    | true => simp [runOn_bind, find, RefStore.list_runOn hopen, hlisting]
    | false =>
      rw [runOn_bind_of_ok (find_runOn hopen hlisting root visible), runOn_bind_eq_ok_iff]
      simp only [deleteAll_eq_ok_iff _ hopen, runOn_pure, Prod.mk.injEq, Except.ok.injEq, hopen,
        true_and]
      constructor
      · rintro ⟨_, s₂, ⟨hallowed, rfl⟩, rfl, rfl⟩
        exact ⟨hallowed, rfl, rfl⟩
      · rintro ⟨hallowed, rfl, rfl⟩
        exact ⟨(), _, ⟨hallowed, rfl⟩, rfl, rfl⟩
  · -- A session that is not open does not get past the listing.
    obtain ⟨e, s₂, hstall, _⟩ : Stalls (find root visible) s₁ :=
      (RefStore.stalls_list hopen).bind _
    rw [runOn_bind, hstall]
    simp [hopen]

/-- On an open session a sweep completes if the references can be listed and what dangles can be
deleted. -/
theorem run_completes {root : String} {visible : List Oid} {s : Session} (hopen : s.IsOpen)
    (hlisting : s.refusals.listing = false)
    (hdeletes : ∀ name, Dangles s.working root visible name → name ∉ s.refusals.deletions)
    (line : Option String) :
    ∃ outcome, (run root line (pure visible)).runOn s =
        (.ok outcome, (s.announced line).onTables (s.working.removeRefs outcome.deleted s.now)) ∧
      ∀ name, name ∈ outcome.deleted ↔ Dangles s.working root visible name := by
  have hdangles := mem_dangling_iff s.working root visible
  have hworking := s.announced_working line
  have hrefusals := s.announced_refusals line
  refine ⟨_, run_eq_ok_iff.mpr ⟨visible, s.announced line, rfl,
    (s.isOpen_announced line).mpr hopen, ?_, ?_, rfl, ?_⟩, ?_⟩
  · rw [hrefusals]
    exact hlisting
  · rw [hworking, hrefusals]
    exact fun name hmem => hdeletes name ((hdangles name).mp hmem)
  · rw [hworking, s.announced_now line]
  · rw [hworking]
    exact hdangles

/-- Where nothing dangles a sweep completes, if the references can be listed, and changes nothing. -/
theorem run_of_none_dangling {root : String} {visible : List Oid} {s : Session} (hopen : s.IsOpen)
    (hlisting : s.refusals.listing = false)
    (hnone : ∀ name, ¬ Dangles s.working root visible name) (line : Option String) :
    ∃ outcome s', (run root line (pure visible)).runOn s = (.ok outcome, s') ∧
      outcome.deleted = [] ∧ s'.working = s.working := by
  obtain ⟨outcome, hrun, hdeleted⟩ :=
    run_completes hopen hlisting (fun name hdangles => absurd hdangles (hnone name)) line
  have hempty : outcome.deleted = [] :=
    List.eq_nil_iff_forall_not_mem.mpr fun name hmem => hnone name ((hdeleted name).mp hmem)
  rw [hempty] at hrun
  exact ⟨outcome, _, hrun, hempty, rfl⟩

/-- **A sweep deletes exactly what dangles.** A completed sweep for a set of visible commits deletes
the reserved references that lead to another commit, and leaves every other reference as it is; it
answers their names in order, how many references there were, and how many of them lead to no commit.
After it nothing dangles, and a second sweep deletes nothing. -/
theorem run_exact (root : String) (line : Option String) (visible : List Oid) (s s' : Session)
    (outcome : Outcome)
    (h : (run root line (pure visible)).runOn s = (.ok outcome, s')) :
    let t := s.working
    let t' := s'.working
    (∀ name, Dangles t root visible name → t'.refs.get? name = none) ∧
      (∀ name, ¬ Dangles t root visible name → t'.refs.get? name = t.refs.get? name) ∧
      (∀ name, name ∈ outcome.deleted ↔ Dangles t root visible name) ∧
      outcome.deleted.Pairwise (fun a b => Text.before a b = true) ∧
      outcome.scanned = t.refs.entries.length ∧
      outcome.skipped =
        (t.refs.references.filter fun r => decide (¬ ∃ commit, LeadsTo t r commit)).length ∧
      (∀ name p commit, Reserved.isReserved root name = true → t'.refs.get? name = some p →
        LeadsTo t' (p.named name) commit → commit ∈ visible) ∧
      ∀ line', ∃ outcome' s'', (run root line' (pure visible)).runOn s' = (.ok outcome', s'') ∧
        outcome'.deleted = [] ∧ s''.working = t' := by
  obtain ⟨_, _, hvisible, hopen, hlisting, _, rfl, hs'⟩ := run_eq_ok_iff.mp h
  rw [runOn_pure] at hvisible
  cases hvisible
  intro t t'
  have htables : t' = t.removeRefs (classify t root visible t.refs.references).dangling
      (s.announced line).now := by
    show s'.working = _
    rw [hs', Session.onTables_working, s.announced_working line]
  have hdeleted : ∀ name, name ∈ (classify t root visible t.refs.references).dangling ↔
      Dangles t root visible name := mem_dangling_iff t root visible
  have hnone : ∀ name, ¬ Dangles t' root visible name := by
    rw [htables]
    exact not_dangles_removeRefs t root visible _
  rw [s.announced_working line]
  refine ⟨?_, ?_, hdeleted, dangling_sorted t root visible, ?_, skipped_eq t root visible _, ?_, ?_⟩
  · intro name hdangles
    rw [htables, Tables.removeRefs_get?, if_pos ((hdeleted name).mpr hdangles)]
  · intro name hdangles
    rw [htables, Tables.removeRefs_get?, if_neg fun hmem => hdangles ((hdeleted name).mp hmem)]
  · exact List.length_map _
  · intro name p commit hreserved hget hleads
    refine Decidable.byContradiction fun hnot => ?_
    exact hnone name ⟨hreserved, p, commit, hget, hleads, hnot⟩
  · exact run_of_none_dangling (hs' ▸ hopen) (hs' ▸ hlisting) hnone

/-- Two commits, an annotated tag of the first one, and references of every shape. -/
def crowdedTables : Tables :=
  let row (oid : Oid) (kind : ObjectKind) (target : Option Oid) : StoredObject :=
    { oid, kind, target, createdAt := default }
  let objects := ((ObjectStore.empty.insert (row "a" .commit none)).insert (row "b" .commit none)
    ).insert (row "t" .tag (some "a"))
  let refs : RefTable := [("HEAD", Pointer.toName "refs/heads/main"),
    ("refs/branchless/aa", .direct "a"), ("refs/branchless/ab", .toName "refs/branchless/aa"),
    ("refs/branchless/ac", .direct "t"), ("refs/branchless/ad", ⟨none, none⟩),
    ("refs/branchless/b", .direct "b"), ("refs/tags/a", .direct "a")].foldl
      (fun m entry => m.insert entry.1 entry.2) NameMap.empty
  { Tables.empty with objects, refs }

/-- A sweep of these tables that keeps the second commit deletes the pin of the first one, the
reference to that pin, and the pin of its tag. -/
theorem run_exact_crowded :
    ∃ outcome s', (run "refs/branchless" none (pure ["b"])).runOn
        (Session.start crowdedTables false default) = (.ok outcome, s') ∧
      outcome = ⟨7, 2, ["refs/branchless/aa", "refs/branchless/ab", "refs/branchless/ac"]⟩ ∧
      Dangles crowdedTables "refs/branchless" ["b"] "refs/branchless/ab" ∧
      s'.working.refs.get? "refs/branchless/ab" = none := by
  have hanswer : ((run "refs/branchless" none (pure ["b"])).runOn
      (Session.start crowdedTables false default)).1.toOption =
      some ⟨7, 2, ["refs/branchless/aa", "refs/branchless/ab", "refs/branchless/ac"]⟩ := by
    decide +kernel
  rcases hrun : (run "refs/branchless" none (pure ["b"])).runOn
    (Session.start crowdedTables false default) with ⟨_ | outcome, s'⟩
  · rw [hrun] at hanswer
    cases hanswer
  · rw [hrun] at hanswer
    have houtcome := Option.some.inj hanswer
    obtain ⟨hdeleted, _, hmem, _⟩ := run_exact "refs/branchless" none ["b"] _ _ _ hrun
    have hdangles : Dangles crowdedTables "refs/branchless" ["b"] "refs/branchless/ab" := by
      refine (hmem _).mp ?_
      rw [houtcome]
      decide
    exact ⟨outcome, s', rfl, houtcome, hdangles, hdeleted _ hdangles⟩

end Sweep
end CommitStore
