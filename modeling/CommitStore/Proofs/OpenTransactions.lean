import CommitStore.Proofs.CacheAnswers
import CommitStore.Proofs.OpenHistories
set_option autoImplicit false

/-!
# What calls leave in the open transaction

A call that writes commits as its last step, so after one that completes the open transaction holds
nothing (`Settles`). A call that reads adds rows to the cache of merge bases and nothing else,
whether it completes or fails (`Asks`); the next call that writes commits them.

What is left are the calls that write and fail. They may leave objects and events behind, but no
reference: a tag is refused before its reference is written, and the pin of what `unhide` and
`replace` have recorded is their only reference. A commit moves the head before it is pinned, and
under an accepted root its pin is not refused. So after every history the references of the open
transaction are those of the store (`run_refsSettled`), and no rollback ever moves a reference.
-/

namespace CommitStore

open CommitStore.Action
open CommitStore.Repository

/-! ## 1. Calls that commit -/

/-- A call that changes the store when it completes. -/
def Call.writes : Call → Bool
  | .commit _ _ | .createBlob _ | .createTag _ _ _ | .createBranch _ _ _ | .deleteBranch _
  | .checkout _ | .hide _ | .unhide _ | .replace _ _ | .pin _ | .sweep _ => true
  | .getCommit _ | .log _ | .resolveCommit _ | .branches | .events | .visible | .listPins | .head
  | .describe | .close => false

namespace Action

variable {α β : Type}

/-- Where an action completes, the open transaction holds nothing afterwards. -/
def Settles (x : Action α) : Prop :=
  ∀ s a s', x.runOn s = (.ok a, s') → s'.working = s'.committed

theorem settles_commit : Settles Action.commit := by
  intro s a s' hrun
  have hcommit : Action.commit.runOn s =
      if s.broken then (.error (.database .pendingRollback), s) else (.ok (), s.committing) := rfl
  rw [hcommit] at hrun
  split at hrun
  · cases hrun
  · cases hrun
    rfl

/-- It is enough that the last step settles. -/
theorem Settles.of_last {x : Action α} {f : α → Action β} (h : ∀ a, Settles (f a)) :
    Settles (x >>= f) := by
  intro s b s' hrun
  obtain ⟨a, s₁, _, hlast⟩ := runOn_bind_eq_ok_iff.mp hrun
  exact h a s₁ b s' hlast

theorem Settles.map {x : Action α} (h : Settles x) (f : α → β) :
    Settles (x >>= fun a => pure (f a)) := by
  intro s b s' hrun
  obtain ⟨a, _, hx, hpure⟩ := runOn_bind_eq_ok_iff.mp hrun
  cases hpure
  exact h s a _ hx

end Action

namespace Repository

variable (config : Config)

theorem settles_commitCall (message : String) (parents : Option (List Oid)) :
    Settles (commit config message parents) := by
  unfold commit
  -- The steps before it are different with parents and without, but the last one is to commit.
  cases parents with
  | some given =>
    iterate 10 refine Settles.of_last fun _ => ?_
    exact settles_commit.map _
  | none =>
    iterate 11 refine Settles.of_last fun _ => ?_
    exact settles_commit.map _

theorem settles_createBlob (data : String) : Settles (createBlob data) := by
  unfold createBlob
  refine .of_last fun _ => .of_last fun _ => ?_
  exact settles_commit.map _

theorem settles_createTag (name : String) (target : Oid) (message : Option String) :
    Settles (createTag name target message) := by
  unfold createTag
  refine .of_last fun stored => ?_
  dsimp only
  split
  · refine .of_last fun _ => .of_last fun _ => .of_last fun _ => ?_
    exact settles_commit.map _
  · refine .of_last fun _ => .of_last fun _ => .of_last fun _ => .of_last fun _ => ?_
    exact settles_commit.map _

theorem settles_createBranch (name : String) (source : Option Oid) (attaches : Bool) :
    Settles (createBranch name source attaches) :=
  .of_last fun _ => settles_commit.map _

theorem settles_deleteBranch (name : String) : Settles (deleteBranch name) := by
  unfold deleteBranch
  refine .of_last fun _ => .of_last fun _ => .of_last fun _ => ?_
  exact settles_commit.map _

theorem settles_checkout (target : String) : Settles (checkout target) := by
  unfold checkout
  refine .of_last fun tip => ?_
  cases tip with
  | some oid =>
    refine .of_last fun _ => .of_last fun _ => ?_
    exact settles_commit.map _
  | none =>
    refine .of_last fun _ => .of_last fun _ => .of_last fun _ => ?_
    exact settles_commit.map _

theorem settles_sweep (announces : Bool) : Settles (sweep config announces) :=
  .of_last fun _ => settles_commit.map _

theorem settles_pin (oid : Oid) : Settles (pin config oid) := .of_last fun _ => settles_commit.map _

theorem settles_hide (oid : Oid) : Settles (hide config oid) := by
  unfold hide
  refine .of_last fun _ => .of_last fun _ => .of_last fun _ => ?_
  split
  · exact .of_last fun _ => (settles_sweep config false).map _
  · exact settles_commit.map _

theorem settles_unhide (oid : Oid) : Settles (unhide config oid) := by
  unfold unhide
  refine .of_last fun _ => .of_last fun _ => .of_last fun _ => ?_
  exact (settles_pin config oid).map _

theorem settles_replace (old new : Oid) : Settles (replace config old new) := by
  unfold replace
  refine .of_last fun _ => .of_last fun _ => .of_last fun _ => .of_last fun _ => ?_
  exact (settles_pin config new).map _

/-- **A call that writes and completes leaves nothing uncommitted.** -/
theorem perform_settles {call : Call} (hwrites : call.writes = true) :
    Settles (perform config call) := by
  cases call with
  | commit message parents => exact (settles_commitCall config message parents).map _
  | createBlob data => exact (settles_createBlob data).map _
  | createTag name target message => exact (settles_createTag name target message).map _
  | createBranch name source attaches => exact (settles_createBranch name source attaches).map _
  | deleteBranch name => exact (settles_deleteBranch name).map _
  | checkout target => exact (settles_checkout target).map _
  | hide oid => exact (settles_hide config oid).map _
  | unhide oid => exact (settles_unhide config oid).map _
  | replace old new => exact (settles_replace config old new).map _
  | pin oid => exact (settles_pin config oid).map _
  | sweep announces => exact (settles_sweep config announces).map _
  | getCommit | log | resolveCommit | branches | events | visible | listPins | head | describe
  | close => cases hwrites

end Repository

/-! ## 2. Calls that read -/

theorem MergeBaseCache.record_of_row?_none {cache : MergeBaseCache} {lhs rhs : Oid}
    (h : cache.row? lhs rhs = none) (base : Option Oid) :
    cache.record lhs rhs base = cache ++ [⟨lhs, rhs, base⟩] := by
  induction cache with
  | nil => rfl
  | cons row rest ih =>
    rw [row?_cons] at h
    by_cases hkey : row.lhs = lhs ∧ row.rhs = rhs
    · rw [if_pos hkey] at h
      cases h
    · rw [if_neg hkey] at h
      rw [record, if_neg hkey, ih h]
      rfl

/-- A question leaves the rows that were there and adds one at most. -/
theorem Ancestry.prefix_mergeBase (g : Ancestry) (cache : MergeBaseCache) (a b : Oid) :
    cache <+: (g.mergeBase cache a b).2 := by
  by_cases hab : a = b
  · have hsame : (g.mergeBase cache a b).2 = cache := by rw [mergeBase, if_pos hab]
    simp only [hsame, List.prefix_rfl]
  · rw [mergeBase_of_ne g cache hab]
    cases hrow : cache.row? (ordered a b).1 (ordered a b).2 with
    | some row => exact List.prefix_rfl
    | none =>
      dsimp only
      rw [MergeBaseCache.record_of_row?_none hrow]
      exact List.prefix_append _ _

theorem VisibleSet.prefix_remember (g : Ancestry) (cache : MergeBaseCache) (main : Option Oid)
    (visited : List Oid) : cache <+: remember g cache main visited := by
  cases main with
  | none => exact List.prefix_rfl
  | some main =>
    rw [remember]
    induction visited generalizing cache with
    | nil => exact List.prefix_rfl
    | cons oid rest ih => exact (g.prefix_mergeBase cache oid main).trans (ih _)

namespace Action

variable {α β : Type}

/-- An action leaves nothing behind but rows in the cache of merge bases. -/
def Asks (x : Action α) : Prop :=
  ∀ s, ∃ rows, (x.runOn s).2 = s.onTables (s.working.withCache (s.working.mergeBases ++ rows))

theorem Asks.of_looks {x : Action α} (h : Looks x) : Asks x := by
  intro s
  refine ⟨[], ?_⟩
  rw [h s, List.append_nil]
  rfl

theorem Asks.bind {x : Action α} (hx : Asks x) {f : α → Action β} (hf : ∀ a, Asks (f a)) :
    Asks (x >>= f) := by
  intro s
  obtain ⟨rows, hs⟩ := hx s
  rw [runOn_bind]
  rcases hrun : x.runOn s with ⟨e | a, s₁⟩ <;> rw [hrun] at hs
  · exact ⟨rows, hs⟩
  · obtain ⟨more, hs'⟩ := hf a s₁
    refine ⟨rows ++ more, hs'.trans ?_⟩
    rw [show s₁ = _ from hs, ← List.append_assoc]
    rfl

end Action

namespace Repository

variable (config : Config)

theorem asks_visible : Asks (visible config) := by
  intro s
  by_cases hopen : s.IsOpen
  · cases hreplay : EventLog.replayRows s.working.events with
    | error e =>
      rw [visible_refused config hopen hreplay]
      exact Asks.of_looks (looks_pure ()) s
    | ok r =>
      rw [visible_runOn config hopen hreplay]
      obtain ⟨rows, hrows⟩ := VisibleSet.prefix_remember s.working.objects.ancestry
        s.working.mergeBases (EventLog.rootsOf s.working config.mainBranch r.active).main
        (VisibleSet.walk s.working.objects.ancestry s.working.mergeBases
          s.working.objects.contains (EventLog.rootsOf s.working config.mainBranch r.active))
      refine ⟨rows, ?_⟩
      rw [hrows]
      rfl
  · have hstalls : Stalls EventLog.replay s := (stalls_read hopen _).bind _
    obtain ⟨e, hreplay⟩ := hstalls.error_of_looks looks_replay
    rw [show (visible config).runOn s = (.error e, s) from runOn_bind_of_error hreplay _]
    exact Asks.of_looks (looks_pure ()) s

theorem asks_listPins : Asks (listPins config) :=
  (asks_visible config).bind fun _ =>
    .of_looks (RefStore.looks_list.bind fun _ => looks_read _)

/-- **A call that reads adds rows to the cache of merge bases and nothing else.** -/
theorem perform_asks {call : Call} (hreads : call.writes = false) (hclose : call ≠ .close) :
    Asks (perform config call) := by
  have hlooks {α : Type} {x : Action α} (hx : Looks x) (f : α → Reply) :
      Asks (x >>= fun a => pure (f a)) := .of_looks (hx.bind fun _ => looks_pure _)
  cases call with
  | getCommit oid => exact hlooks (looks_read _) _
  | log limit => exact hlooks (RefStore.looks_head.bind fun _ => looks_read _) _
  | resolveCommit name => exact hlooks (looks_resolveCommit name) _
  | branches => exact hlooks RefStore.looks_branches _
  | events => exact hlooks looks_rows _
  | visible => exact (asks_visible config).bind fun _ => .of_looks (looks_pure _)
  | listPins => exact (asks_listPins config).bind fun _ => .of_looks (looks_pure _)
  | head => exact hlooks looks_headState _
  | describe => exact hlooks looks_describe _
  | close => exact absurd rfl hclose
  | commit | createBlob | createTag | createBranch | deleteBranch | checkout | hide | unhide
  | replace | pin | sweep => cases hreads

end Repository

/-! ## 3. References -/

/-- The open transaction holds no change of a reference. -/
def Session.RefsSettled (s : Session) : Prop := s.working.refs = s.committed.refs

namespace Session.RefsSettled

variable {s s' : Session}

theorem of_eq (h : s'.working = s'.committed) : s'.RefsSettled := congrArg Tables.refs h

/-- The references of an open transaction may stay or be undone. -/
theorem of_stalls {α : Type} {x : Action α} {e : Error} (h : s.RefsSettled) (hx : Stalls x s)
    (hrun : x.runOn s = (.error e, s')) : s'.RefsSettled := by
  obtain ⟨_, _, hstall, hcommitted, hworking, _⟩ := hx
  rw [hrun] at hstall
  cases hstall
  rcases hworking with hworking | hworking <;> rw [RefsSettled, hworking, hcommitted]
  exact h

theorem onTables {t : Tables} (h : s.RefsSettled) (hrefs : t.refs = s.working.refs) :
    (s.onTables t).RefsSettled := hrefs.trans h

end Session.RefsSettled

namespace Repository

variable {config : Config} {s s' : Session} {e : Error}

/-- What a failed call leaves behind is no reference, unless the call is a commit. -/
theorem LeftBehind.refs_eq {call : Call} {t : Tables} (h : LeftBehind config s call t)
    (hcall : ∀ message parents, call ≠ .commit message parents) : t.refs = s.working.refs := by
  cases h with
  | tag => rfl
  | commit message parents => exact absurd rfl (hcall message parents)
  | unhide => exact (Tables.logged_frame _ _ _ _).1
  | replace => exact (Tables.logged_frame _ _ _ _).1

theorem AfterFailure.refsSettled {call : Call} (h : AfterFailure config s call s')
    (hs : s.RefsSettled) (hcall : ∀ message parents, call ≠ .commit message parents) :
    s'.RefsSettled := by
  rcases h with ⟨hworking, hcommitted⟩ | ⟨t, hleft, rfl⟩
  · rw [Session.RefsSettled, hworking, hcommitted]
    exact hs
  · exact hs.onTables (hleft.refs_eq hcall)

/-- A commit that fails has not moved the head, because its pin is not refused. -/
theorem commit_error_refsSettled (h : s.IsOpen) (hs : s.RefsSettled)
    (hroot : Config.AcceptedRoot config.pinRoot) (hnames : s.refusals.names = false)
    {message : String} {parents : Option (List Oid)}
    (hrun : (commit config message parents).runOn s = (.error e, s')) : s'.RefsSettled := by
  rw [commit_parentsOf h, commit_some_runOn h] at hrun
  dsimp only at hrun
  cases hfirst : firstNoCommit? s.working (parentsOf s.working parents) with
  | some missing =>
    rw [hfirst] at hrun
    cases hrun
    exact hs
  | none =>
    rw [hfirst] at hrun
    dsimp only at hrun
    cases hsave : s.working.withCommit? (parentsOf s.working parents) message s.now with
    | none =>
      rw [hsave] at hrun
      cases hrun
      exact .of_eq rfl
    | some t =>
      rw [hsave] at hrun
      obtain ⟨_, hpin⟩ := pinOpen_commit_error (h.onTables _) hrun
      rw [Session.onTables_working, Tables.moved_objects] at hpin
      obtain ⟨hreserved, hvalid⟩ :=
        Reserved.pinName_accepted hroot (Sha256.isHex_hexOfText (ObjectId.textOf .commit _))
      exact absurd ⟨hreserved, hvalid, hnames⟩ (hpin (Tables.contains_of_withCommit? hsave))

/-- Hiding is committed before it sweeps, and a sweep that fails is undone. -/
theorem hide_error_refsSettled (h : s.IsOpen) (hs : s.RefsSettled) {oid : Oid}
    (hrun : (hide config oid).runOn s = (.error e, s')) : s'.RefsSettled := by
  by_cases hsweeps : config.sweepsOnHide = true
  · rw [hide_runOn h, if_pos hsweeps] at hrun
    split at hrun
    · obtain rfl := sweep_undone (runOn_map_eq_error_iff.mp hrun)
      exact .of_eq rfl
    · cases hrun
      exact hs
  · rw [hide_error h (by simpa using hsweeps) hrun]
    exact hs

/-- A call that writes and fails leaves no reference behind. -/
theorem error_refsSettled (hroot : Config.AcceptedRoot config.pinRoot)
    (hnames : s.refusals.names = false) {call : Call} (hwrites : call.writes = true)
    (hs : s.RefsSettled) (hrun : (perform config call).runOn s = (.error e, s')) :
    s'.RefsSettled := by
  by_cases h : s.IsOpen
  · cases call with
    | commit message parents =>
      exact commit_error_refsSettled h hs hroot hnames (runOn_map_eq_error_iff.mp hrun)
    | createBlob data =>
      have hfailed := runOn_map_eq_error_iff.mp hrun
      rw [createBlob_runOn h] at hfailed
      cases hfailed
    | createTag name target message =>
      have hafter : AfterFailure config s _ s' :=
        createTag_error h (runOn_map_eq_error_iff.mp hrun)
      exact hafter.refsSettled hs (by simp)
    | createBranch name source attaches =>
      obtain rfl := createBranch_error h (runOn_map_eq_error_iff.mp hrun)
      exact hs
    | deleteBranch name =>
      obtain rfl := deleteBranch_error h (runOn_map_eq_error_iff.mp hrun)
      exact hs
    | checkout target =>
      obtain rfl := checkout_error h (runOn_map_eq_error_iff.mp hrun)
      exact hs
    | hide oid => exact hide_error_refsSettled h hs (runOn_map_eq_error_iff.mp hrun)
    | unhide oid =>
      have hafter : AfterFailure config s _ s' := unhide_error h (runOn_map_eq_error_iff.mp hrun)
      exact hafter.refsSettled hs (by simp)
    | replace old new =>
      have hafter : AfterFailure config s _ s' := replace_error h (runOn_map_eq_error_iff.mp hrun)
      exact hafter.refsSettled hs (by simp)
    | pin oid =>
      obtain ⟨rfl, _⟩ := pin_error h (runOn_map_eq_error_iff.mp hrun)
      exact hs
    | sweep announces =>
      obtain rfl := sweep_undone (runOn_map_eq_error_iff.mp hrun)
      exact .of_eq rfl
    | getCommit | log | resolveCommit | branches | events | visible | listPins | head | describe
    | close => cases hwrites
  · refine hs.of_stalls (perform_stalls h ?_ ?_) hrun <;> rintro rfl <;> cases hwrites

/-- **A call leaves no change of a reference uncommitted.** -/
theorem perform_refsSettled (hroot : Config.AcceptedRoot config.pinRoot)
    (hnames : s.refusals.names = false) (call : Call) (hs : s.RefsSettled) :
    ((perform config call).runOn s).2.RefsSettled := by
  by_cases hclose : call = .close
  · subst hclose
    show (if s.closed then s else { s.rolledBack with closed := true } : Session).RefsSettled
    split
    · exact hs
    · exact .of_eq rfl
  cases hwrites : call.writes with
  | false =>
    obtain ⟨rows, hasked⟩ := perform_asks config hwrites hclose s
    rw [hasked]
    exact hs.onTables rfl
  | true =>
    rcases hrun : (perform config call).runOn s with ⟨e | a, s'⟩
    · exact error_refsSettled hroot hnames hwrites hs hrun
    · exact .of_eq (perform_settles config hwrites s a s' hrun)

/-- **After every history the references of the open transaction are those of the store.** -/
theorem run_refsSettled (hroot : Config.AcceptedRoot config.pinRoot)
    (history : List (Instant × Call)) (hrefusals : s.refusals = {}) (hs : s.RefsSettled) :
    (run config history s).2.RefsSettled := by
  induction history generalizing s with
  | nil => exact hs
  | cons step rest ih =>
    obtain ⟨now, call⟩ := step
    have hmoves : MovesTo config (fun _ => True) (fun _ _ => True) (at_ s now)
        ((perform config call).runOn (at_ s now)).2 :=
      perform_movesTo call hrefusals (fun _ _ => trivial) trivial
    have hnames : (at_ s now).refusals.names = false := by
      rw [show (at_ s now).refusals = {} from hrefusals]
    rw [run_cons]
    exact ih (hmoves.2.trans hrefusals) (perform_refsSettled hroot hnames call hs)

end Repository
end CommitStore
