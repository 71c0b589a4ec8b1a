import CommitStore.Proofs.CachedBases
import CommitStore.Proofs.SweptVisibility
set_option autoImplicit false

/-!
# Hiding a commit and showing it again

A hidden commit is no root of the visible set any more. Nothing else changes about the roots, and
where the walk stops does not depend on them, apart from the tip of main. So hiding adds no id, and
each id that it takes away was reached from the hidden commit.

To show a commit again makes the active commits what they were, if the commit was active before. The
sweeps in between delete pins, the pin of the commit among them, but the visible set is not computed
from pins (`Tables.SameForUser`); and the pin of the commit is written anew.
-/

namespace CommitStore

open CommitStore.Action
open CommitStore.Repository

/-! ## 1. Fewer active commits -/

namespace VisibleSet

variable {g : Ancestry} {cache : MergeBaseCache} {isStored : Oid → Bool} {roots : Roots}
  {active : List Oid}

/-- With fewer active commits no more is visible. -/
theorem mem_compute_of_active (hfewer : ∀ x ∈ active, x ∈ roots.active) {x : Oid}
    (h : x ∈ (compute g cache isStored { roots with active }).1) :
    x ∈ (compute g cache isStored roots).1 := by
  refine (mem_compute_iff g cache isStored roots x).mpr ?_
  rcases (mem_compute_iff g cache isStored _ x).mp h with hmain | ⟨root, hroot, hpath⟩
  · exact Or.inl hmain
  · refine Or.inr ⟨root, ?_, hpath⟩
    exact hroot.imp_right (Or.imp_right (And.imp_left (hfewer root)))

/-- What is then no longer visible was reached from a commit that is no longer active. -/
theorem exists_reaches_of_lost {x : Oid} (h : x ∈ (compute g cache isStored roots).1)
    (hlost : x ∉ (compute g cache isStored { roots with active }).1) :
    ∃ root ∈ roots.active, root ∉ active ∧ g.Reaches root x := by
  have hstill := mt (mem_compute_iff g cache isStored { roots with active } x).mpr hlost
  rcases (mem_compute_iff g cache isStored roots x).mp h with hmain | ⟨root, hroot, hpath⟩
  · exact absurd (Or.inl hmain) hstill
  · have hgone : ¬ Roots.IsRoot { roots with active } isStored root :=
      fun hroot' => hstill (Or.inr ⟨root, hroot', hpath⟩)
    rcases hroot with hbranch | hhead | ⟨hactive, hstored⟩
    · exact absurd (Or.inl hbranch) hgone
    · exact absurd (Or.inr (Or.inl hhead)) hgone
    · refine ⟨root, hactive, fun hmem => hgone (Or.inr (Or.inr ⟨hmem, hstored⟩)), hpath.reaches⟩

end VisibleSet

/-! ## 2. One more event -/

namespace Replay

theorem active_sorted (r : Replay) : r.active.Pairwise fun a b => Text.before a b = true :=
  List.pairwise_map.mpr (r.state.sorted.filter _)

/-- The active commits follow from the visibilities. -/
theorem active_congr {r r' : Replay} (h : ∀ oid, r'.visibility? oid = r.visibility? oid) :
    r'.active = r.active := by
  refine Text.eq_of_mem_iff id r'.active_sorted r.active_sorted fun oid => ?_
  rw [mem_active_iff, mem_active_iff, h]

end Replay

/-- An event about one commit sets the visibility of that commit. -/
theorem Tables.replayRows_logged_one {t : Tables} {r : Replay} (kind : EventKind) (c : Oid)
    {visibility : Visibility}
    (hmentions : ∀ label, Replay.mentions ⟨{ commit := some c }, label, kind⟩ =
      [(some c, visibility)])
    (h : EventLog.replayRows t.events = .ok r) (message : String) (now : Instant) :
    ∃ r', EventLog.replayRows (t.logged message now [(kind, { commit := some c })]).events = .ok r' ∧
      ∀ oid, r'.visibility? oid = if oid = c then some visibility else r.visibility? oid := by
  refine ⟨(r.set c visibility).counted, ?_, r.visibility?_set c visibility⟩
  refine EventLog.replayRows_concat h (congrArg _ (EventKind.ofText?_text kind)) ?_
  rw [Replay.step, hmentions]
  rfl

theorem Tables.SameForUser.logged (t : Tables) (message : String) (now : Instant)
    (events : List (EventKind × EventSubject)) : t.SameForUser (t.logged message now events) := by
  obtain ⟨hrefs, hobjects⟩ := t.logged_frame message now events
  refine ⟨hobjects, fun name _ => by rw [hrefs], ?_⟩
  rw [Tables.logged_mergeBases]
  exact .refl _ _

/-- A pin is a reserved reference. -/
theorem Tables.SameForUser.pinned {config : Config} {t : Tables} {oid : Oid}
    (hroot : config.pinRoot = Reserved.defaultRoot) (hcan : CanPin config t oid) (now : Instant) :
    t.SameForUser (pinned config t oid now) where
  objects := rfl
  refs name hname := by
    refine (t.refs.get?_insert _ _ name).trans (if_neg ?_)
    rintro rfl
    rw [← hroot, hcan.1] at hname
    cases hname
  answers := .refl _ _

/-! ## 3. Single calls -/

namespace Repository

variable {config : Config} {s s' : Session} {c : Oid}

/-- Calls that sweep, or ask what is visible. -/
inductive Surveys : Call → Prop
  | sweep (announces : Bool) : Surveys (.sweep announces)
  | visible : Surveys .visible
  | listPins : Surveys .listPins

theorem unmoved_computeVisible (h : s.Ready) (roots : VisibleSet.Roots) :
    s.Unmoved (s.onTables (EventLog.computeVisible s.working roots).2) where
  ready := ⟨h.isOpen.onTables _, h.refusals,
    (Tables.SameForUser.computeVisible s.working roots).readable rfl h.readable⟩
  same := .computeVisible s.working roots
  events := rfl

/-- **A survey completes and moves nothing.** -/
theorem perform_surveys (hroot : config.pinRoot = Reserved.defaultRoot) (h : s.Ready) {call : Call}
    (hcall : Surveys call) :
    ∃ reply s', (perform config call).runOn s = (.ok reply, s') ∧ s.Unmoved s' := by
  obtain ⟨r, hreplay⟩ := h.readable.log
  cases hcall with
  | sweep announces =>
    obtain ⟨outcome, hsweep⟩ := sweep_runOn h.isOpen h.refusals hreplay announces
    exact ⟨_, _, runOn_bind_of_ok hsweep _, unmoved_swept hroot h _ r⟩
  | visible =>
    have hvisible := visible_runOn config h.isOpen hreplay
    exact ⟨_, _, runOn_bind_of_ok hvisible _, unmoved_computeVisible h _⟩
  | listPins =>
    have hlisting : s.refusals.listing = false := by rw [h.refusals]
    obtain ⟨pins, s', hlist, rfl⟩ : ∃ pins s', (Repository.listPins config).runOn s =
        (.ok pins, s') ∧ s' = s.onTables (EventLog.computeVisible s.working
          (EventLog.rootsOf s.working config.mainBranch r.active)).2 :=
      ⟨_, _, listPins_eq_ok_iff.mpr ⟨h.isOpen, hlisting, r, hreplay, rfl, rfl⟩, rfl⟩
    exact ⟨_, _, runOn_bind_of_ok hlist _, unmoved_computeVisible h _⟩

/-- So do any number of surveys. -/
theorem run_surveys (hroot : config.pinRoot = Reserved.defaultRoot)
    (calls : List (Instant × Call)) (hcalls : ∀ step ∈ calls, Surveys step.2) (h : s.Ready) :
    (∀ answer ∈ (run config calls s).1, ∃ reply, answer = .ok reply) ∧
      s.Unmoved (run config calls s).2 := by
  induction calls generalizing s with
  | nil => exact ⟨fun _ hanswer => absurd hanswer List.not_mem_nil, h, .refl _, rfl⟩
  | cons step rest ih =>
    obtain ⟨now, call⟩ := step
    have hready : (at_ s now).Ready := ⟨h.isOpen, h.refusals, h.readable⟩
    obtain ⟨reply, s', hrun, hunmoved⟩ :=
      perform_surveys hroot hready (hcalls (now, call) List.mem_cons_self)
    obtain ⟨hanswers, hrest⟩ :=
      ih (fun step hstep => hcalls step (List.mem_cons_of_mem _ hstep)) hunmoved.ready
    rw [run, hrun]
    refine ⟨?_, Session.Unmoved.trans ⟨hunmoved.ready, hunmoved.same, hunmoved.events⟩ hrest⟩
    intro answer hanswer
    rcases List.mem_cons.mp hanswer with rfl | hlater
    · exact ⟨reply, rfl⟩
    · exact hanswers answer hlater

/-- A session in which an event about a commit is logged. -/
def withEvent (s : Session) (message : String) (kind : EventKind) (c : Oid) : Session :=
  s.onTables (s.working.logged message s.now [(kind, { commit := some c })])

theorem ready_withEvent (h : s.Ready) (message : String) (kind : EventKind) (c : Oid)
    (hcomplete : Replay.IsComplete (kind, { commit := some c })) :
    (withEvent s message kind c).Ready where
  isOpen := h.isOpen.onTables _
  refusals := h.refusals
  readable := ⟨(Tables.SameForUser.logged _ _ _ _).headOnBranch h.readable.head,
    h.readable.log.logged (List.forall_mem_singleton.mpr hcomplete) message s.now⟩

/-- **A stored commit can be hidden**, whether a sweep follows or not. -/
theorem hide_runs (hroot : config.pinRoot = Reserved.defaultRoot) (h : s.Ready)
    (hcommit : s.working.objects.isCommit c = true) :
    ∃ s', (hide config c).runOn s = (.ok (), s') ∧ (withEvent s "hide" .hide c).Unmoved s' := by
  have hlogged := ready_withEvent h "hide" .hide c rfl
  have hready : (withEvent s "hide" .hide c).committing.Ready :=
    ⟨hlogged.isOpen, hlogged.refusals, hlogged.readable⟩
  rw [hide_runOn h.isOpen, if_pos hcommit]
  by_cases hsweeps : config.sweepsOnHide = true
  · rw [if_pos hsweeps]
    obtain ⟨r, hreplay⟩ := hready.readable.log
    obtain ⟨outcome, hsweep⟩ := sweep_runOn hready.isOpen hready.refusals hreplay false
    obtain ⟨hswept, hsame, hevents⟩ := unmoved_swept hroot hready (announcement config false) r
    exact ⟨_, runOn_bind_of_ok hsweep _, hswept, hsame, hevents⟩
  · rw [if_neg hsweeps]
    exact ⟨_, rfl, hready, .refl _, rfl⟩

/-- **A stored commit can be shown again**, if its id is a digest, and is pinned then. -/
theorem unhide_runs (hroot : config.pinRoot = Reserved.defaultRoot) (h : s.Ready)
    (hcommit : s.working.objects.isCommit c = true) (hhex : Reserved.IsHex c) :
    ∃ s', (unhide config c).runOn s = (.ok (), s') ∧
      (withEvent s "unhide" .unhide c).Unmoved s' ∧ s'.committed = s'.working ∧
      s'.working.refs.get? (pinOf c) = some (.direct c) := by
  have hready := ready_withEvent h "unhide" .unhide c rfl
  have hnames : (withEvent s "unhide" .unhide c).refusals.names = false := by rw [hready.refusals]
  have haccepted : Config.AcceptedRoot config.pinRoot := hroot ▸ Config.acceptedRoot_default
  obtain ⟨hreserved, hvalid⟩ := Reserved.pinName_accepted haccepted hhex
  have hcan : CanPin config (withEvent s "unhide" .unhide c).working c :=
    ⟨hreserved, hvalid, ObjectStore.contains_of_isCommit hcommit⟩
  have hsame := Tables.SameForUser.pinned hroot hcan s.now
  rw [unhide_runOn h.isOpen, if_pos hcommit]
  refine ⟨_, runOn_bind_of_ok (pin_runOn hready.isOpen hnames hcan) _, ⟨?_, hsame, rfl⟩, rfl, ?_⟩
  · exact ⟨hready.isOpen, hready.refusals, hsame.readable rfl hready.readable⟩
  · rw [pinOf, ← hroot]
    exact (NameMap.get?_insert _ _ _ _).trans (if_pos rfl)

/-! ## 4. Hiding and showing -/

theorem visible_of_same (config : Config) {r : Replay} (h : s.Ready) (h' : s'.Ready)
    (hsame : s.working.SameForUser s'.working)
    (hreplay : EventLog.replayRows s'.working.events = .ok r) :
    ((visible config).runOn s').1 = .ok (EventLog.computeVisible s.working
      (EventLog.rootsOf s.working config.mainBranch r.active)).1 := by
  rw [visible_runOn config h'.isOpen hreplay]
  exact congrArg Except.ok (hsame.visible_eq h.readable.head config.mainBranch r.active)

/-- To hide a commit adds no visible id, and takes away none that the commit does not reach. -/
def HidesBelow (config : Config) (c : Oid) (s s' : Session) : Prop :=
  ∃ before after, ((visible config).runOn s).1 = .ok before ∧
    ((visible config).runOn s').1 = .ok after ∧ (∀ x ∈ after, x ∈ before) ∧
    ∀ x ∈ before, x ∉ after → s.working.objects.ancestry.Reaches c x

/-- **Hiding is local.** -/
theorem hide_hidesBelow (hroot : config.pinRoot = Reserved.defaultRoot) (h : s.Ready)
    (hcommit : s.working.objects.isCommit c = true) :
    ∃ s', (hide config c).runOn s = (.ok (), s') ∧ HidesBelow config c s s' := by
  obtain ⟨s', hrun, hready, hsame, hevents⟩ := hide_runs hroot h hcommit
  obtain ⟨r, hreplay⟩ := h.readable.log
  obtain ⟨r', hreplay', hvisibility⟩ := Tables.replayRows_logged_one .hide c
    (fun _ => rfl) hreplay "hide" s.now
  have hsame' := (Tables.SameForUser.logged s.working "hide" s.now _).trans hsame
  have hbefore := visible_of_same config h h (.refl _) hreplay
  have hafter := visible_of_same config h hready hsame' (hevents ▸ hreplay')
  have hactive : ∀ x, x ∈ r'.active ↔ x ≠ c ∧ x ∈ r.active := by
    intro x
    rw [Replay.mem_active_iff, Replay.mem_active_iff, hvisibility]
    by_cases hx : x = c <;> simp [hx]
  let roots := EventLog.rootsOf s.working config.mainBranch r.active
  refine ⟨s', hrun, _, _, hbefore, hafter, ?_, ?_⟩
  · have hfewer : ∀ x ∈ r'.active, x ∈ roots.active := fun x hx => ((hactive x).mp hx).2
    exact fun x => VisibleSet.mem_compute_of_active hfewer
  · intro x hx hlost
    obtain ⟨root, hroot', hgone, hreach⟩ := VisibleSet.exists_reaches_of_lost hx hlost
    obtain rfl : root = c := by
      by_contra hne
      exact hgone ((hactive root).mpr ⟨hne, hroot'⟩)
    exact hreach

theorem run_append_answers (config : Config) (earlier later : List (Instant × Call)) (s : Session) :
    (run config (earlier ++ later) s).1 =
      (run config earlier s).1 ++ (run config later (run config earlier s).2).1 := by
  induction earlier generalizing s with
  | nil => rfl
  | cons step rest ih =>
    obtain ⟨now, call⟩ := step
    exact congrArg _ (ih _)

/-- What a commit that is shown again leaves: all that was visible before is visible, and the commit
is pinned in the store. -/
structure Restores (config : Config) (c : Oid) (s s' : Session) : Prop where
  visible : ∃ found, ((Repository.visible config).runOn s).1 = .ok found ∧
    ((Repository.visible config).runOn s').1 = .ok found
  pinned : s'.committed.refs.get? ("refs/branchless/" ++ c) = some (.direct c)
  committed : s'.committed = s'.working

/-- If a commit was active before it was hidden, to show it again brings everything back. -/
theorem unhide_restores (hroot : config.pinRoot = Reserved.defaultRoot) (h : s.Ready)
    (hcommit : s.working.objects.isCommit c = true) (hhex : Reserved.IsHex c) {r : Replay}
    (hreplay : EventLog.replayRows s.working.events = .ok r)
    (hactive : r.visibility? c = some .visible)
    (hhidden : (withEvent s "hide" .hide c).Unmoved s') :
    ∃ s'', (unhide config c).runOn s' = (.ok (), s'') ∧ Restores config c s s'' := by
  obtain ⟨hready', hsame', hevents'⟩ := hhidden
  have hsame : s.working.SameForUser s'.working := (Tables.SameForUser.logged _ _ _ _).trans hsame'
  have hcommit' : s'.working.objects.isCommit c = true := by rw [hsame.objects, hcommit]
  obtain ⟨s'', hrun, ⟨hready'', hsame'', hevents''⟩, hcommitted, hpin⟩ :=
    unhide_runs hroot hready' hcommit' hhex
  obtain ⟨r₁, hreplay₁, hvisibility₁⟩ := Tables.replayRows_logged_one .hide c
    (fun _ => rfl) hreplay "hide" s.now
  obtain ⟨r₂, hreplay₂, hvisibility₂⟩ := Tables.replayRows_logged_one .unhide c
    (fun _ => rfl) (hevents' ▸ hreplay₁) "unhide" s'.now
  -- The last event about the commit says what the log has said before the first one.
  have hsameActive : r₂.active = r.active := by
    refine Replay.active_congr fun x => ?_
    rw [hvisibility₂, hvisibility₁]
    by_cases hx : x = c
    · rw [if_pos hx, hx, hactive]
    · rw [if_neg hx, if_neg hx]
  have hafter := visible_of_same config h hready''
    ((hsame.trans (.logged _ _ _ _)).trans hsame'') (hevents'' ▸ hreplay₂)
  rw [hsameActive] at hafter
  refine ⟨s'', hrun, ⟨_, visible_of_same config h h (.refl _) hreplay, hafter⟩, ?_, hcommitted⟩
  rw [← pinOf_eq, hcommitted, hpin]

/-- **Showing a commit undoes hiding it**, over any surveys in between. -/
theorem run_restores (hroot : config.pinRoot = Reserved.defaultRoot) (h : s.Ready)
    (hcommit : s.working.objects.isCommit c = true) (hhex : Reserved.IsHex c) {r : Replay}
    (hreplay : EventLog.replayRows s.working.events = .ok r)
    (hactive : r.visibility? c = some .visible) {surveys : List (Instant × Call)}
    (hsurveys : ∀ step ∈ surveys, Surveys step.2) (now now' : Instant) :
    let calls := (now, .hide c) :: surveys ++ [(now', .unhide c)]
    (∀ answer ∈ (run config calls s).1, ∃ reply, answer = .ok reply) ∧
      Restores config c s (run config calls s).2 := by
  intro calls
  have hready : (at_ s now).Ready := ⟨h.isOpen, h.refusals, h.readable⟩
  obtain ⟨s₁, hhide, hhidden⟩ := hide_runs (s := at_ s now) hroot hready hcommit
  obtain ⟨hanswers, hsurveyed⟩ := run_surveys hroot surveys hsurveys hhidden.ready
  obtain ⟨hready₂, hsame₂, hevents₂⟩ := hhidden.trans hsurveyed
  let s₂ := at_ (run config surveys s₁).2 now'
  have hunmoved : (withEvent (at_ s now) "hide" .hide c).Unmoved s₂ :=
    ⟨⟨hready₂.isOpen, hready₂.refusals, hready₂.readable⟩, hsame₂, hevents₂⟩
  obtain ⟨s₃, hunhide, hrestores⟩ := unhide_restores hroot hready hcommit hhex hreplay hactive hunmoved
  have hfirst : (perform config (.hide c)).runOn (at_ s now) = (.ok .done, s₁) :=
    runOn_bind_of_ok hhide _
  have hlast : run config [(now', .unhide c)] (run config surveys s₁).2 = ([.ok .done], s₃) := by
    rw [run, show (perform config (.unhide c)).runOn s₂ = (.ok .done, s₃) from
      runOn_bind_of_ok hunhide _]
    rfl
  have hrun : run config calls s =
      (.ok .done :: ((run config surveys s₁).1 ++ [.ok .done]), s₃) := by
    rw [show calls = (now, .hide c) :: (surveys ++ [(now', .unhide c)]) from rfl, run, hfirst]
    dsimp only
    rw [run_append_answers, run_append, hlast]
  -- What is visible does not depend on the time.
  have hvisible : ((visible config).runOn (at_ s now)).1 = ((visible config).runOn s).1 := by
    rw [visible_runOn config hready.isOpen hreplay, visible_runOn config h.isOpen hreplay]
    rfl
  rw [hrun]
  refine ⟨fun answer hanswer => ?_, hvisible ▸ hrestores.visible, hrestores.pinned,
    hrestores.committed⟩
  rcases List.mem_cons.mp hanswer with rfl | hanswer
  · exact ⟨.done, rfl⟩
  · rcases List.mem_append.mp hanswer with hsurvey | hend
    · exact hanswers answer hsurvey
    · exact ⟨.done, List.mem_singleton.mp hend⟩

/-! ## 5. Histories -/

/-- **Hiding is local, and showing undoes it.** After any history of calls on a new repository with
the default root of pins, whether a sweep follows each hidden commit or not, and for every stored
commit of the open session: hiding the commit completes, adds no visible id, and takes away only ids
that the commit reaches. If the commit was active, then hiding it, any number of sweeps and of
questions about what is visible, and showing it again all complete; after that the visible ids are
those from before, and the pin of the commit is in the store and points at it. -/
theorem run_hides (config : Config) (hroot : config.pinRoot = Reserved.defaultRoot)
    (history : List (Instant × Call)) (durable : Bool) (start : Instant) :
    let s := (run config history (Session.start .empty durable start)).2
    s.IsOpen → ∀ c, s.working.objects.isCommit c = true →
      (∀ now, ∃ s', (hide config c).runOn (at_ s now) = (.ok (), s') ∧
        HidesBelow config c (at_ s now) s') ∧
      ∃ r, EventLog.replayRows s.working.events = .ok r ∧
        (c ∈ r.active → ∀ surveys, (∀ step ∈ surveys, Surveys step.2) → ∀ now now',
          let calls := (now, .hide c) :: surveys ++ [(now', .unhide c)]
          (∀ answer ∈ (run config calls s).1, ∃ reply, answer = .ok reply) ∧
            Restores config c s (run config calls s).2) := by
  intro s hopen c hcommit
  have hready : s.Ready := run_ready config hroot history durable start hopen
  have hholds := run_keeps config history durable start .empty
    (fun _ _ => Tables.RefsHold.of_edit hroot) (Or.inr rfl)
  constructor
  · intro now
    exact hide_hidesBelow hroot ⟨hready.isOpen, hready.refusals, hready.readable⟩ hcommit
  · obtain ⟨r, hreplay⟩ := hready.readable.log
    refine ⟨r, hreplay, fun hactive surveys hsurveys now now' => ?_⟩
    exact run_restores hroot hready hcommit (ObjectStore.isHex_of_rows hholds.rows hcommit) hreplay
      ((r.mem_active_iff c).mp hactive) hsurveys now now'

open CommitLine

/-- The theorem at a line of two commits, the first of which is swept twice while it is hidden. -/
theorem run_hides_line :
    let s := (run {} lineHistory fresh).2
    ({} : Config).pinRoot = Reserved.defaultRoot ∧ s.IsOpen ∧
      s.working.objects.isCommit firstId = true ∧
      let calls : List (Instant × Call) := [(second 2, .hide firstId), (second 3, .sweep true),
        (second 4, .sweep false), (second 5, .unhide firstId)]
      (run {} calls s).2.committed.refs.get? ("refs/branchless/" ++ firstId) =
        some (.direct firstId) := by
  intro s
  have hs : s = Session.start (lineTables {}) false (second 1) := run_lineHistory admits_default
  have hopen : s.IsOpen := hs ▸ isOpen_start _ _ _
  have hcommit : s.working.objects.isCommit firstId = true := by
    rw [hs]
    exact lineTables_default.2.1
  refine ⟨rfl, hopen, hcommit, ?_⟩
  obtain ⟨_, r, hreplay, hrestores⟩ := run_hides {} rfl lineHistory false default hopen firstId
    hcommit
  have hactive : firstId ∈ r.active := by
    have hknown : (EventLog.replayRows (lineTables {}).events).toOption.map (·.active) =
        some [secondId, firstId] := by
      decide
    obtain ⟨r', hreplay', hsame⟩ := EventLog.exists_replayRows_of_active hknown
    have hreplays : EventLog.replayRows s.working.events = .ok r := hreplay
    rw [hs, start_working, hreplay'] at hreplays
    cases hreplays
    rw [hsame]
    exact List.mem_cons_of_mem _ List.mem_cons_self
  have hsurveys : ∀ step ∈ [(second 3, Call.sweep true), (second 4, .sweep false)],
      Surveys step.2 := by
    simp [Surveys.sweep]
  exact (hrestores hactive _ hsurveys (second 2) (second 5)).2.pinned

end Repository
end CommitStore
