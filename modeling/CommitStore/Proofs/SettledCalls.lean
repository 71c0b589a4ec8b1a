import CommitStore.Proofs.Effects
import CommitStore.Proofs.Replaying
import Mathlib.Data.List.Nodup
set_option autoImplicit false

/-!
# Calls on settled sessions

A session in which nothing is open is no more than its tables and the time (`Session.start`). A call
that writes and completes takes it to another such session, and so a history of these calls is told
by tables alone. What such a history hashes are the texts of the objects that it stores, and that
they have different digests can be seen from the ids.

Two commits in a line, the first of which is then hidden, are the history at which theorems about
all histories are looked at: two texts are hashed on it, the main branch and the head have moved, and
of the two commits that are stored and pinned one is visible and the other one is not.
-/

namespace CommitStore

open CommitStore.Action

namespace Repository

variable {config : Config} {t : Tables} {durable : Bool} {now : Instant}

/-! ## 1. Calls -/

theorem isOpen_start (t : Tables) (durable : Bool) (now : Instant) :
    (Session.start t durable now).IsOpen := ⟨rfl, rfl⟩

theorem start_working (t : Tables) (durable : Bool) (now : Instant) :
    (Session.start t durable now).working = t := rfl

theorem start_committed (t : Tables) (durable : Bool) (now : Instant) :
    (Session.start t durable now).committed = t := rfl

theorem at_start (t : Tables) (durable : Bool) (before now : Instant) :
    at_ (Session.start t durable before) now = Session.start t durable now := rfl

/-- The tables with a commit that is made on the head and pinned. -/
def withPinnedCommit (config : Config) (t : Tables) (oid : Oid) (parent : Option Oid)
    (message : String) (now : Instant) : Tables :=
  let o : StoredObject :=
    { oid, kind := .commit, parent, message := some message, createdAt := now }
  pinned config (moved config (t.withObject o) oid message now) oid now

/-- A commit on the head is made when its id is known and can be pinned. -/
theorem perform_commit {parent : Option Oid} {message : String} {oid : Oid}
    (hhead : RefStore.headOf t.refs = parent) (hparent : firstNoCommit? t parent.toList = none)
    (hoid : ObjectId.ofCommit parent.toList message now.toIsoUtc = oid)
    (hpin : CanPin config (withPinnedCommit config t oid parent message now) oid) :
    (perform config (.commit message none)).runOn (Session.start t durable now) =
      (.ok (.commit ⟨oid, parent.toList, some message, now⟩),
        Session.start (withPinnedCommit config t oid parent message now) durable now) := by
  have hopen := isOpen_start t durable now
  have hgiven : parentsOf t none = parent.toList := by
    rw [← hhead]
    rfl
  have hrow : StoredObject.ofCommit parent.toList message now =
      { oid, kind := .commit, parent, message := some message, createdAt := now } := by
    rw [StoredObject.ofCommit, hoid]
    cases parent <;> rfl
  have hsave : t.withCommit? parent.toList message now = some (t.withObject
      { oid, kind := .commit, parent, message := some message, createdAt := now }) := by
    have hone : ¬ 1 < parent.toList.length := by cases parent <;> simp
    rw [Tables.withCommit?, if_neg hone, hrow]
  exact runOn_bind_of_ok (commit_runOn hopen rfl hgiven hparent hoid hsave hpin) _

/-- A commit is hidden by an event, if no sweep comes with it. -/
theorem perform_hide {oid : Oid} (hsweeps : config.sweepsOnHide = false)
    (hcommit : t.objects.isCommit oid = true) :
    (perform config (.hide oid)).runOn (Session.start t durable now) =
      (.ok .done, Session.start (t.logged "hide" now [(.hide, { commit := some oid })]) durable
        now) := by
  have hrun : (hide config oid).runOn _ = _ := hide_runOn (isOpen_start t durable now) oid
  rw [start_working, if_pos hcommit, hsweeps] at hrun
  exact runOn_bind_of_ok hrun _

/-! ## 2. Texts that are hashed -/

theorem hashedText?_commit {u : Session} (h : u.IsOpen) {message : String}
    {parents : Option (List Oid)} {given : List Oid} (hgiven : parentsOf u.working parents = given)
    (hcommits : firstNoCommit? u.working given = none) :
    hashedText? u (.commit message parents) =
      some (ObjectId.textOf .commit (ObjectId.commitPayload given message u.now.toIsoUtc)) := by
  rw [hashedText?, if_pos h]
  dsimp only
  rw [hgiven, hcommits]
  rfl

/-- A call that stores no object hashes nothing. -/
theorem hashedTexts_append_of_none (history : List (Instant × Call)) {call : Call} (s : Session)
    (hnone : ∀ u, hashedText? u call = none) :
    hashedTexts config (history ++ [(now, call)]) s = hashedTexts config history s := by
  rw [hashedTexts_append, hashedTexts, hnone, hashedTexts]
  exact List.append_nil _

/-- Texts are told apart by their digests when these are all different. -/
theorem distinct_of_nodup {texts : List String} (h : (texts.map Sha256.hexOfText).Nodup) :
    ∀ a ∈ texts, ∀ b ∈ texts, Sha256.hexOfText a = Sha256.hexOfText b → a = b :=
  fun _ ha _ hb hsame => List.inj_on_of_nodup_map h ha hb hsame

end Repository

/-! ## 3. A line of commits -/

namespace CommitLine

open CommitStore.Repository

/-- The seconds of the year 2024. -/
def second (n : Nat) : Instant := ⟨1704067200000000 + n * 1000000⟩

/-- The ids of the commits that the history makes. -/
def firstId : Oid := "e2783f1864ef93a1b048230a033da37e787f690c7d3abe99bf3d9e5caf5a18ce"

@[inherit_doc firstId]
def secondId : Oid := "611e2348bddfad5ba7befe3bc5bf89231f76a51472f3bcb11f31b34f38033bb1"

theorem ofCommit_firstId : ObjectId.ofCommit [] "a" (second 0).toIsoUtc = firstId := by
  rw [ObjectId.ofCommit, ObjectId.ofPayload_eq, ObjectId.textOf_eq, ObjectId.render_commitPayload]
  decide +kernel

theorem ofCommit_secondId :
    ObjectId.ofCommit [firstId] "b" (second 1).toIsoUtc = secondId := by
  rw [ObjectId.ofCommit, ObjectId.ofPayload_eq, ObjectId.textOf_eq, ObjectId.render_commitPayload]
  decide +kernel

theorem isHex_firstId : Reserved.IsHex firstId := ofCommit_firstId ▸ Sha256.isHex_hexOfText _

theorem isHex_secondId : Reserved.IsHex secondId := ofCommit_secondId ▸ Sha256.isHex_hexOfText _

/-- Two commits in a line. -/
def lineHistory : List (Instant × Call) :=
  [(second 0, .commit "a" none), (second 1, .commit "b" none)]

/-- Two commits in a line, of which the first is hidden. -/
def hiddenHistory : List (Instant × Call) := lineHistory ++ [(second 2, .hide firstId)]

/-- The tables after one commit. -/
def pointTables (config : Config) : Tables :=
  withPinnedCommit config .empty firstId none "a" (second 0)

/-- The tables after two commits. -/
def lineTables (config : Config) : Tables :=
  withPinnedCommit config (pointTables config) secondId (some firstId) "b" (second 1)

/-- The tables after the first of them is hidden. -/
def hiddenTables (config : Config) : Tables :=
  (lineTables config).logged "hide" (second 2) [(.hide, { commit := some firstId })]

/-- The line can be made: its commits can be pinned, and each lies on the head for the next call. -/
structure Admits (config : Config) : Prop where
  pinsFirst : CanPin config (pointTables config) firstId
  head : RefStore.headOf (pointTables config).refs = some firstId
  isParent : firstNoCommit? (pointTables config) [firstId] = none
  pinsSecond : CanPin config (lineTables config) secondId
  isCommit : (lineTables config).objects.isCommit firstId = true
  hidesOnly : config.sweepsOnHide = false

theorem admits_default : Admits {} := by
  constructor <;> decide

variable {config : Config}

theorem perform_first (h : Admits config) :
    (perform config (.commit "a" none)).runOn (at_ fresh (second 0)) =
      (.ok (.commit ⟨firstId, [], some "a", second 0⟩),
        Session.start (pointTables config) false (second 0)) :=
  perform_commit rfl rfl ofCommit_firstId h.pinsFirst

theorem perform_second (h : Admits config) :
    (perform config (.commit "b" none)).runOn
      (Session.start (pointTables config) false (second 1)) =
        (.ok (.commit ⟨secondId, [firstId], some "b", second 1⟩),
          Session.start (lineTables config) false (second 1)) :=
  perform_commit h.head h.isParent ofCommit_secondId h.pinsSecond

theorem perform_third (h : Admits config) :
    (perform config (.hide firstId)).runOn
      (Session.start (lineTables config) false (second 2)) =
        (.ok .done, Session.start (hiddenTables config) false (second 2)) :=
  perform_hide h.hidesOnly h.isCommit

theorem run_lineHistory (h : Admits config) :
    (run config lineHistory fresh).2 = Session.start (lineTables config) false (second 1) := by
  rw [lineHistory, run_cons, perform_first h, run_cons, at_start, perform_second h]
  rfl

theorem run_hiddenHistory (h : Admits config) :
    (run config hiddenHistory fresh).2 = Session.start (hiddenTables config) false (second 2) := by
  rw [hiddenHistory, run_append, run_lineHistory h, run_cons, at_start, perform_third h]
  rfl

/-- The documents of the two commits are all that is hashed. -/
theorem hashedTexts_lineHistory (h : Admits config) :
    hashedTexts config lineHistory fresh =
      [ObjectId.textOf .commit (ObjectId.commitPayload [] "a" (second 0).toIsoUtc),
        ObjectId.textOf .commit (ObjectId.commitPayload [firstId] "b" (second 1).toIsoUtc)] := by
  have hgiven : parentsOf (pointTables config) none = [firstId] := by
    rw [parentsOf, h.head]
    rfl
  have hfirst : hashedText? (at_ fresh (second 0)) (.commit "a" none) = _ :=
    hashedText?_commit ⟨rfl, rfl⟩ (show parentsOf .empty none = [] from rfl) rfl
  have hsecond : hashedText? (Session.start (pointTables config) false (second 1))
      (.commit "b" none) = _ :=
    hashedText?_commit (isOpen_start _ _ _) hgiven h.isParent
  rw [lineHistory, hashedTexts, perform_first h, hashedTexts, hashedTexts, hfirst, at_start, hsecond]
  rfl

theorem lineHistory_distinct (h : Admits config) :
    ∀ a ∈ hashedTexts config lineHistory fresh, ∀ b ∈ hashedTexts config lineHistory fresh,
      Sha256.hexOfText a = Sha256.hexOfText b → a = b := by
  have hids := And.intro ofCommit_firstId ofCommit_secondId
  simp only [ObjectId.ofCommit, ObjectId.ofPayload_eq] at hids
  refine distinct_of_nodup ?_
  rw [hashedTexts_lineHistory h, List.map_cons, List.map_cons, hids.1, hids.2]
  decide

/-- Nothing more is hashed by one more call that stores no object. -/
theorem lineHistory_append_distinct (h : Admits config) (now : Instant) {call : Call}
    (hnone : ∀ u, hashedText? u call = none) :
    ∀ a ∈ hashedTexts config (lineHistory ++ [(now, call)]) fresh,
      ∀ b ∈ hashedTexts config (lineHistory ++ [(now, call)]) fresh,
        Sha256.hexOfText a = Sha256.hexOfText b → a = b := by
  rw [hashedTexts_append_of_none lineHistory fresh hnone]
  exact lineHistory_distinct h

theorem hiddenHistory_distinct (h : Admits config) :
    ∀ a ∈ hashedTexts config hiddenHistory fresh, ∀ b ∈ hashedTexts config hiddenHistory fresh,
      Sha256.hexOfText a = Sha256.hexOfText b → a = b :=
  lineHistory_append_distinct h (second 2) fun _ => ite_self none

/-- Hiding a commit changes no reference and no object. -/
theorem hiddenTables_frame (config : Config) :
    (hiddenTables config).refs = (lineTables config).refs ∧
      (hiddenTables config).objects = (lineTables config).objects :=
  Tables.logged_frame _ _ _ _

/-- What is stored in the line, and where the head and the main branch are. -/
theorem lineTables_default :
    let t := lineTables {}
    t.objects.objects.map (·.oid) = [firstId, secondId] ∧
      t.objects.isCommit firstId = true ∧ t.objects.isCommit secondId = true ∧
      t.refs.get? RefName.head = some (.toName (RefName.ofBranch "main")) ∧
      t.refs.get? (RefName.ofBranch "main") = some (.direct secondId) := by
  decide

theorem isCommit_lineTables_iff {oid : Oid} :
    (lineTables {}).objects.isCommit oid = true ↔ oid = firstId ∨ oid = secondId := by
  obtain ⟨hids, hfirst, hsecond, _⟩ := lineTables_default
  constructor
  · intro hcommit
    have hmem := ObjectStore.contains_iff_mem.mp (ObjectStore.contains_of_isCommit hcommit)
    rw [hids] at hmem
    simpa using hmem
  · rintro (rfl | rfl)
    · exact hfirst
    · exact hsecond

/-- In the log the first commit is hidden, and the second one is what is active. -/
theorem replay_hiddenTables {r : Replay}
    (h : EventLog.replayRows (hiddenTables {}).events = .ok r) :
    r.visibility? firstId = some .hidden ∧ r.visibility? secondId = some .visible ∧
      r.active = [secondId] := by
  have htells : (EventLog.replayRows (hiddenTables {}).events).toOption.map
      (fun r => (r.visibility? firstId, r.visibility? secondId, r.active)) =
        some (some .hidden, some .visible, [secondId]) := by
    decide
  rw [h] at htells
  simpa [Except.toOption] using htells

end CommitLine
end CommitStore
