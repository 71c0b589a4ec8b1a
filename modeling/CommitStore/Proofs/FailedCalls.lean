import CommitStore.Proofs.AcceptedRoots
import CommitStore.Proofs.SettledCalls
set_option autoImplicit false

/-!
# Calls that fail

Only a call that completes commits, so what a failed call has written stays in the open transaction
and becomes part of the store with the next call that completes. Most calls check all that they need
before they write anything. Two kinds of calls do not: a tag is stored before the name of its
reference is looked at, and `commit`, `unhide` and `replace` record what they do before they pin.
`LeftBehind` lists what these leave, and `failed_cases` says that no other failed call leaves
anything.

The names of pins are refused only where an id is no digest, or the store takes no names, so a
history of calls never gets there; a tag with a bad name is all it takes for the other one.
-/

namespace CommitStore

open CommitStore.Action

/-- A call that changes the store when it completes, and commits as its last step. -/
def Call.mutates (config : Config) : Call → Bool
  | .commit _ _ | .createBlob _ | .createTag _ _ _ | .createBranch _ _ _ | .deleteBranch _
  | .checkout _ | .unhide _ | .replace _ _ | .pin _ => true
  | .hide _ => !config.sweepsOnHide
  | _ => false

namespace Repository

/-! ## 1. Pins that are refused -/

/-- The store takes the name of the pin of an object, and a sweep would find it. -/
def PinAccepted (config : Config) (s : Session) (oid : Oid) : Prop :=
  Reserved.isReserved config.pinRoot (Reserved.pinName config.pinRoot oid) = true ∧
    RefName.isValid (Reserved.pinName config.pinRoot oid) = true ∧ s.refusals.names = false

section

variable {config : Config} {s s' : Session} {e : Error}

/-- A pin of a stored object that fails is refused because of its name. -/
theorem pinOpen_error (h : s.IsOpen) {oid : Oid}
    (hrun : (pinOpen config oid).runOn s = (.error e, s')) :
    s' = s ∧ (s.working.objects.contains oid = true → ¬ PinAccepted config s oid) := by
  constructor
  · rw [pinOpen, Pin.mark_runOn h] at hrun
    split at hrun
    · split at hrun
      · split at hrun
        · cases hrun
        · cases hrun
          rfl
      · cases hrun
        rfl
    · cases hrun
      rfl
  · rintro hstored ⟨hreserved, hvalid, hnames⟩
    rw [pinOpen_runOn h hnames ⟨hreserved, hvalid, hstored⟩] at hrun
    cases hrun

theorem pinOpen_ok (h : s.IsOpen) {oid : Oid} {name : RefName}
    (hrun : (pinOpen config oid).runOn s = (.ok name, s')) :
    s' = s.onTables (pinned config s.working oid s.now) := by
  rw [pinOpen, Pin.mark_runOn h] at hrun
  split at hrun
  · split at hrun
    · split at hrun
      · cases hrun
        rfl
      · cases hrun
    · cases hrun
  · cases hrun

/-- What is committed right after its last check fails in that check. -/
theorem pinOpen_commit_error {α : Type} (h : s.IsOpen) {oid : Oid} {answer : RefName → α}
    (hrun : (do
      let name ← pinOpen config oid
      Action.commit
      pure (answer name) : Action α).runOn s = (.error e, s')) :
    s' = s ∧ (s.working.objects.contains oid = true → ¬ PinAccepted config s oid) := by
  rcases runOn_bind_eq_error_iff.mp hrun with hpin | ⟨name, s₁, hpin, hcommit⟩
  · exact pinOpen_error h hpin
  · rw [pinOpen_ok h hpin, runOn_bind_of_ok (runOn_commit (h.onTables _))] at hcommit
    cases hcommit

end

/-! ## 2. What failed calls leave -/

/-- The tables that a failed call leaves in the open transaction, where it has written something. -/
inductive LeftBehind (config : Config) (s : Session) : Call → Tables → Prop
  | tag (name : String) (target : Oid) (message : Option String)
      (hstored : s.working.objects.contains target = true)
      (hname : RefName.fault? (RefName.ofTag name) ≠ none) :
      LeftBehind config s (.createTag name target message)
        (s.working.withObject (.ofTag name target message s.now))
  | commit (message : String) (parents : Option (List Oid)) (t : Tables)
      (hsave : s.working.withCommit? (parentsOf s.working parents) message s.now = some t)
      (hpin : ¬ PinAccepted config s
        (ObjectId.ofCommit (parentsOf s.working parents) message s.now.toIsoUtc)) :
      LeftBehind config s (.commit message parents) (moved config t
        (ObjectId.ofCommit (parentsOf s.working parents) message s.now.toIsoUtc) message s.now)
  | unhide (oid : Oid) (hcommit : s.working.objects.isCommit oid = true)
      (hpin : ¬ PinAccepted config s oid) :
      LeftBehind config s (.unhide oid)
        (s.working.logged "unhide" s.now [(.unhide, { commit := some oid })])
  | replace (old new : Oid) (hold : s.working.objects.isCommit old = true)
      (hnew : s.working.objects.isCommit new = true) (hpin : ¬ PinAccepted config s new) :
      LeftBehind config s (.replace old new)
        (s.working.logged "rewrite" s.now [(.replace, { old := some old, new := some new })])

/-- A session after a failed call: its tables are as before, or the call has left something. -/
def AfterFailure (config : Config) (s : Session) (call : Call) (s' : Session) : Prop :=
  (s'.working = s.working ∧ s'.committed = s.committed) ∨
    ∃ t, LeftBehind config s call t ∧ s' = s.onTables t

section

variable {config : Config} {s s' : Session} {e : Error}

theorem AfterFailure.of_eq {call : Call} (h : s' = s) : AfterFailure config s call s' := by
  rw [h]
  exact Or.inl ⟨rfl, rfl⟩

theorem createTag_error (h : s.IsOpen) {name : String} {target : Oid} {message : Option String}
    (hrun : (createTag name target message).runOn s = (.error e, s')) :
    AfterFailure config s (.createTag name target message) s' := by
  rw [createTag_runOn h] at hrun
  by_cases hstored : s.working.objects.contains target = true
  · rw [if_pos hstored] at hrun
    dsimp only at hrun
    cases hfault : RefName.fault? (RefName.ofTag name) with
    | none =>
      rw [hfault] at hrun
      cases hrun
    | some fault =>
      rw [hfault] at hrun
      cases hrun
      refine Or.inr ⟨_, .tag name target message hstored ?_, rfl⟩
      rw [hfault]
      exact Option.some_ne_none fault
  · rw [if_neg hstored] at hrun
    cases hrun
    exact .of_eq rfl

theorem createBranch_error (h : s.IsOpen) {name : String} {source : Option Oid} {attaches : Bool}
    (hrun : (createBranch name source attaches).runOn s = (.error e, s')) : s' = s := by
  rw [createBranch_runOn h] at hrun
  split at hrun
  · cases hrun
    rfl
  · split at hrun
    · cases hrun
      rfl
    · split at hrun
      · cases hrun
        rfl
      · cases hrun

theorem deleteBranch_error (h : s.IsOpen) {name : String}
    (hrun : (deleteBranch name).runOn s = (.error e, s')) : s' = s := by
  rw [deleteBranch_runOn h] at hrun
  split at hrun
  · cases hrun
    rfl
  · split at hrun
    · cases hrun
      rfl
    · cases hrun

theorem checkout_error (h : s.IsOpen) {target : String}
    (hrun : (checkout target).runOn s = (.error e, s')) : s' = s := by
  rcases checkout_cases h target with ⟨_, _, hdone⟩ | ⟨_, _, _, hdone⟩ | ⟨_, hfailed⟩
  · rw [hdone] at hrun
    cases hrun
  · rw [hdone] at hrun
    cases hrun
  · rw [hfailed] at hrun
    cases hrun
    rfl

/-- A commit fails before it writes anything, or breaks the session, or is refused its pin. -/
theorem commit_error (h : s.IsOpen) (hclean : s.working = s.committed) {message : String}
    {parents : Option (List Oid)}
    (hrun : (commit config message parents).runOn s = (.error e, s')) :
    AfterFailure config s (.commit message parents) s' := by
  rw [commit_parentsOf h, commit_some_runOn h] at hrun
  dsimp only at hrun
  cases hfirst : firstNoCommit? s.working (parentsOf s.working parents) with
  | some missing =>
    rw [hfirst] at hrun
    cases hrun
    exact .of_eq rfl
  | none =>
    rw [hfirst] at hrun
    dsimp only at hrun
    cases hsave : s.working.withCommit? (parentsOf s.working parents) message s.now with
    | none =>
      rw [hsave] at hrun
      cases hrun
      exact Or.inl ⟨hclean.symm, rfl⟩
    | some t =>
      rw [hsave] at hrun
      obtain ⟨hs', hpin⟩ := pinOpen_commit_error (h.onTables _) hrun
      refine Or.inr ⟨_, .commit message parents t hsave (hpin ?_), hs'⟩
      rw [Session.onTables_working, Tables.moved_objects]
      exact Tables.contains_of_withCommit? hsave

theorem hide_error (h : s.IsOpen) (hsweeps : config.sweepsOnHide = false) {oid : Oid}
    (hrun : (hide config oid).runOn s = (.error e, s')) : s' = s := by
  rw [hide_runOn h, hsweeps] at hrun
  by_cases hcommit : s.working.objects.isCommit oid = true
  · rw [if_pos hcommit] at hrun
    cases hrun
  · rw [if_neg hcommit] at hrun
    cases hrun
    rfl

theorem pin_error (h : s.IsOpen) {oid : Oid} (hrun : (pin config oid).runOn s = (.error e, s')) :
    s' = s ∧ (s.working.objects.contains oid = true → ¬ PinAccepted config s oid) :=
  pinOpen_commit_error h hrun

/-- A call that pins what it has recorded fails in the pin. -/
theorem pin_recorded_error (h : s.IsOpen) {t : Tables} {oid : Oid}
    (hstored : t.objects.contains oid = true)
    (hrun : (pin config oid >>= fun _ => pure ()).runOn (s.onTables t) = (.error e, s')) :
    s' = s.onTables t ∧ ¬ PinAccepted config s oid := by
  obtain ⟨hs', hpin⟩ := pin_error (h.onTables t) (runOn_map_eq_error_iff.mp hrun)
  exact ⟨hs', hpin hstored⟩

theorem unhide_error (h : s.IsOpen) {oid : Oid}
    (hrun : (unhide config oid).runOn s = (.error e, s')) :
    AfterFailure config s (.unhide oid) s' := by
  rw [unhide_runOn h] at hrun
  by_cases hcommit : s.working.objects.isCommit oid = true
  · rw [if_pos hcommit] at hrun
    have hstored := ObjectStore.contains_of_isCommit hcommit
    rw [← (s.working.logged_frame "unhide" s.now [(.unhide, { commit := some oid })]).2] at hstored
    obtain ⟨hs', hpin⟩ := pin_recorded_error h hstored hrun
    exact Or.inr ⟨_, .unhide oid hcommit hpin, hs'⟩
  · rw [if_neg hcommit] at hrun
    cases hrun
    exact .of_eq rfl

theorem replace_error (h : s.IsOpen) {old new : Oid}
    (hrun : (replace config old new).runOn s = (.error e, s')) :
    AfterFailure config s (.replace old new) s' := by
  rw [replace_runOn h] at hrun
  cases hfirst : firstNoCommit? s.working [old, new] with
  | some missing =>
    rw [hfirst] at hrun
    cases hrun
    exact .of_eq rfl
  | none =>
    rw [hfirst] at hrun
    have hcommits := isCommit_of_firstNoCommit? hfirst
    have hold := hcommits old (by simp)
    have hnew := hcommits new (by simp)
    have hstored := ObjectStore.contains_of_isCommit hnew
    rw [← (s.working.logged_frame "rewrite" s.now
      [(.replace, { old := some old, new := some new })]).2] at hstored
    obtain ⟨hs', hpin⟩ := pin_recorded_error h hstored hrun
    exact Or.inr ⟨_, .replace old new hold hnew hpin, hs'⟩

/-! ## 3. All calls -/

/-- A session that is not open keeps its tables, if nothing was open in it. -/
theorem AfterFailure.of_stalls {α : Type} {x : Action α} {call : Call} (h : Stalls x s)
    (hclean : s.working = s.committed) (hrun : x.runOn s = (.error e, s')) :
    AfterFailure config s call s' := by
  obtain ⟨_, _, hstall, hcommitted, hworking, _⟩ := h
  rw [hrun] at hstall
  cases hstall
  refine Or.inl ⟨?_, hcommitted⟩
  rcases hworking with hworking | hworking
  · exact hworking
  · rw [hworking, hclean]

theorem AfterFailure.of_open {α : Type} {x : Action α} {call : Call}
    (hopen : s.IsOpen → x.runOn s = (.error e, s') → AfterFailure config s call s')
    (hclosed : ¬ s.IsOpen → Stalls x s) (hclean : s.working = s.committed)
    (hrun : x.runOn s = (.error e, s')) : AfterFailure config s call s' := by
  by_cases h : s.IsOpen
  · exact hopen h hrun
  · exact AfterFailure.of_stalls (hclosed h) hclean hrun

/-- A failed call leaves the tables as they were, or what `LeftBehind` says. -/
theorem failed_cases {call : Call} (hmutates : call.mutates config = true)
    (hclean : s.working = s.committed)
    (hrun : (perform config call).runOn s = (.error e, s')) : AfterFailure config s call s' := by
  cases call with
  | commit message parents =>
    exact .of_open (fun h => commit_error h hclean) (fun h => stalls_commit h message parents)
      hclean (runOn_map_eq_error_iff.mp hrun)
  | createBlob data =>
    refine .of_open ?_ (fun h => stalls_createBlob h data) hclean (runOn_map_eq_error_iff.mp hrun)
    intro h hfailed
    rw [createBlob_runOn h] at hfailed
    cases hfailed
  | createTag name target message =>
    exact .of_open (fun h => createTag_error h)
      (fun h => stalls_createTag h name target message) hclean (runOn_map_eq_error_iff.mp hrun)
  | createBranch name source attaches =>
    exact .of_open (fun h hfailed => .of_eq (createBranch_error h hfailed))
      (fun h => stalls_createBranch h name source attaches) hclean (runOn_map_eq_error_iff.mp hrun)
  | deleteBranch name =>
    exact .of_open (fun h hfailed => .of_eq (deleteBranch_error h hfailed))
      (fun h => stalls_deleteBranch h name) hclean (runOn_map_eq_error_iff.mp hrun)
  | checkout target =>
    exact .of_open (fun h hfailed => .of_eq (checkout_error h hfailed))
      (fun h => stalls_checkout h target) hclean (runOn_map_eq_error_iff.mp hrun)
  | hide oid =>
    refine .of_open ?_ (fun h => stalls_hide h oid) hclean (runOn_map_eq_error_iff.mp hrun)
    intro h hfailed
    have hsweeps : config.sweepsOnHide = false := by simpa [Call.mutates] using hmutates
    exact .of_eq (hide_error h hsweeps hfailed)
  | unhide oid =>
    exact .of_open (fun h => unhide_error h) (fun h => stalls_unhide h oid) hclean
      (runOn_map_eq_error_iff.mp hrun)
  | replace old new =>
    exact .of_open (fun h => replace_error h) (fun h => stalls_replace h old new) hclean
      (runOn_map_eq_error_iff.mp hrun)
  | pin oid =>
    exact .of_open (fun h hfailed => .of_eq (pin_error h hfailed).1) (fun h => stalls_pin h oid)
      hclean (runOn_map_eq_error_iff.mp hrun)
  | getCommit _ | log _ | resolveCommit _ | branches | events | visible | sweep _ | listPins
  | head | describe | close => cases hmutates

/-- Under an accepted root, where ids of commits are digests, only a tag is left behind. -/
theorem LeftBehind.isTag {call : Call} {t : Tables} (hroot : Config.AcceptedRoot config.pinRoot)
    (hnames : s.refusals.names = false)
    (hhex : ∀ oid, s.working.objects.isCommit oid = true → Reserved.IsHex oid)
    (h : LeftBehind config s call t) :
    ∃ name target message, call = .createTag name target message ∧
      RefName.fault? (RefName.ofTag name) ≠ none := by
  have hpins : ∀ oid, Reserved.IsHex oid → PinAccepted config s oid := by
    intro oid hoid
    obtain ⟨hreserved, hvalid⟩ := Reserved.pinName_accepted hroot hoid
    exact ⟨hreserved, hvalid, hnames⟩
  cases h with
  | tag name target message _ hname => exact ⟨name, target, message, rfl, hname⟩
  | commit _ _ _ _ hpin => exact absurd (hpins _ (Sha256.isHex_hexOfText _)) hpin
  | unhide oid hcommit hpin => exact absurd (hpins oid (hhex oid hcommit)) hpin
  | replace _ new _ hnew hpin => exact absurd (hpins new (hhex new hnew)) hpin

end

/-- **Failed calls leave nothing behind, but for writes before a late check.** Where nothing is open
in a session, a call that fails leaves the tables as they were, or as `LeftBehind` says; under an
accepted root, with digests as the ids of commits, only a tag with a bad name leaves anything. -/
theorem failed_leavesNothing (config : Config) (call : Call) (s s' : Session) (e : Error)
    (hmutates : call.mutates config = true) (hclean : s.working = s.committed)
    (hrun : (perform config call).runOn s = (.error e, s')) :
    ((s'.working = s.working ∧ s'.committed = s.committed) ∨
      ∃ t, LeftBehind config s call t ∧ s' = s.onTables t) ∧
    (Config.AcceptedRoot config.pinRoot → s.refusals.names = false →
      (∀ oid, s.working.objects.isCommit oid = true → Reserved.IsHex oid) →
      (∀ name target message, call = .createTag name target message →
        RefName.fault? (RefName.ofTag name) = none) →
      s'.working = s.working ∧ s'.committed = s.committed) := by
  have hcases := failed_cases hmutates hclean hrun
  refine ⟨hcases, ?_⟩
  intro hroot hnames hhex hname
  rcases hcases with hsame | ⟨t, hleft, _⟩
  · exact hsame
  · obtain ⟨name, target, message, hcall, hfault⟩ := hleft.isTag hroot hnames hhex
    exact absurd (hname name target message hcall) hfault

open CommitLine

/-- The theorem at a line of two commits: a branch that is there is not made a second time. -/
theorem failed_leavesNothing_branch :
    let s := (run {} lineHistory fresh).2
    s.working.objects.isCommit firstId = true ∧
      (∀ oid, s.working.objects.isCommit oid = true → Reserved.IsHex oid) ∧
      ∃ s', (perform {} (.createBranch "main" (some firstId) true)).runOn s =
          (.error (.branchExists "main"), s') ∧
        s'.working = s.working ∧ s'.committed = s.committed := by
  intro s
  let u := Session.start (lineTables {}) false (second 1)
  have hs : s = u := run_lineHistory admits_default
  obtain ⟨_, hfirst, _, _, hmain⟩ := lineTables_default
  have hhex : ∀ oid, u.working.objects.isCommit oid = true → Reserved.IsHex oid := by
    intro oid hcommit
    rcases isCommit_lineTables_iff.mp hcommit with rfl | rfl
    · exact isHex_firstId
    · exact isHex_secondId
  have hrun : (createBranch "main" (some firstId) true).runOn u =
      (.error (.branchExists "main"), u) := by
    have hname : RefName.branchFault? "main" = none := by decide
    have htaken : (EventLog.branchTip? u.working.refs "main").isSome = true :=
      Option.isSome_of_eq_some (EventLog.branchTip?_of_direct hmain)
    rw [createBranch_runOn (isOpen_start _ _ _), hname]
    exact if_pos htaken
  have hperform : (perform {} (.createBranch "main" (some firstId) true)).runOn u =
      (.error (.branchExists "main"), u) := runOn_map_eq_error_iff.mpr hrun
  rw [hs]
  refine ⟨hfirst, hhex, u, hperform, ?_⟩
  refine (failed_leavesNothing {} _ u u _ rfl rfl hperform).2 Config.acceptedRoot_default rfl hhex ?_
  intro name target message hcall
  cases hcall

end Repository

/-! ## 4. A tag that is left behind -/

namespace BadTag

open CommitStore.Repository

/-- The ids of a blob and of a tag of it. -/
def blobId : Oid := "f720e4fe6e9cb79853e061ef834bf421e0609dabb3338aac00f6fe50a7d31a39"

@[inherit_doc blobId]
def tagId : Oid := "bedab800b9ff50486a660857bd4b390806982ba2e5939f1695d02573568b24ba"

theorem ofBlob_blobId : ObjectId.ofBlob "x" = blobId := by
  rw [ObjectId.ofBlob, ObjectId.ofPayload_eq, ObjectId.textOf_eq, ObjectId.render_blobPayload]
  decide +kernel

theorem ofTag_tagId : ObjectId.ofTag "a b" blobId none = tagId := by
  rw [ObjectId.ofTag, ObjectId.ofPayload_eq, ObjectId.textOf_eq, ObjectId.render_tagPayload]
  decide +kernel

/-- A session on a store with the blob. -/
def withBlob : Session :=
  (fresh.onTables (fresh.working.withObject (.ofBlob "x" default))).committing

theorem run_withBlob :
    run {} [(default, .createBlob "x")] fresh = ([.ok (.oid blobId)], withBlob) := by
  have hrun : (createBlob "x").runOn fresh = (.ok blobId, withBlob) := by
    rw [createBlob_runOn ⟨rfl, rfl⟩, ofBlob_blobId]
    rfl
  have hperform : (perform {} (.createBlob "x")).runOn (at_ fresh default) =
      (.ok (.oid blobId), withBlob) := runOn_bind_of_ok hrun _
  rw [run, hperform]
  rfl

/-- A tag with a space in its name is refused, and the next blob that is stored brings it into the
store. -/
theorem createTag_leaves_tag :
    ∃ s e s' s'', run {} [(default, .createBlob "x")] fresh = ([.ok (.oid blobId)], s) ∧
      s.working = s.committed ∧
      (perform {} (.createTag "a b" blobId none)).runOn s = (.error e, s') ∧
      s.working.objects.contains tagId = false ∧ s'.working.objects.contains tagId = true ∧
      (perform {} (.createBlob "y")).runOn s' = (.ok (.oid (ObjectId.ofBlob "y")), s'') ∧
      s''.committed.objects.contains tagId = true := by
  have hopen : withBlob.IsOpen := ⟨rfl, rfl⟩
  let t := withBlob.working.withObject (.ofTag "a b" blobId none default)
  have hstored : withBlob.working.objects.contains blobId = true := by
    rw [← ofBlob_blobId]
    exact ObjectStore.contains_insert .empty (.ofBlob "x" default)
  have hfault : RefName.fault? (RefName.ofTag "a b") = some (.forbidden ' ') := by decide +kernel
  have htag := createTag_runOn hopen "a b" blobId none
  rw [if_pos hstored, hfault] at htag
  have hblob := createBlob_runOn (hopen.onTables t) "y"
  have hleft : t.objects.contains tagId = true := by
    rw [← ofTag_tagId]
    exact ObjectStore.contains_insert _ (.ofTag "a b" blobId none default)
  refine ⟨withBlob, _, withBlob.onTables t, _, run_withBlob, rfl, runOn_bind_of_error htag _, ?_,
    hleft, runOn_bind_of_ok hblob _, ?_⟩
  · show (ObjectStore.empty.insert (.ofBlob "x" default)).contains tagId = false
    rw [Bool.eq_false_iff, ne_eq, ObjectStore.contains_insert_iff]
    rintro (hempty | hsame)
    · cases hempty
    · have hids : ObjectId.ofBlob "x" = tagId := hsame
      rw [ofBlob_blobId] at hids
      exact absurd hids (by decide)
  · exact (ObjectStore.contains_insert_iff _ _ _).mpr (Or.inl hleft)

end BadTag
end CommitStore
