import CommitStore.Proofs.Calls
import Mathlib.Logic.Relation
set_option autoImplicit false

/-!
# What calls do to the tables

Everything a call can do comes down to three kinds of moves: an `Effect` on the tables of the open
transaction, making these tables part of the store, and undoing them. `run_movesTo` says that a whole
history of calls, whether they answer or fail and in whatever state the session is, is a sequence of
such moves. So a property of tables that every effect keeps holds of the working and the committed
tables after every history (`MovesUnder.keeps`), and a proof that one is kept looks at the effects
only.

An effect carries what the call has checked before. The effects that store an object also tell of
the text whose digest becomes the id; `hashedTexts` are these texts along a history. Two calls take
an id without a look at what kind of object it names: a branch with a given start, and a pin. What a
proof needs to know of those it can ask for: `EffectUnder` takes a condition on them, which has to
hold along the history (`AllowedAlong`), and `Effect` asks for nothing.
-/

namespace CommitStore

open CommitStore.Action
open CommitStore.Repository

/-! ## 1. Effects and moves -/

/-- What one call can do to the tables of the open transaction, if branches and pins that are asked
for are allowed. -/
inductive EffectUnder (config : Config) (hashed : String → Prop)
    (allowed : Tables → Call → Prop) : Tables → Tables → Prop
  | blob {t : Tables} (data : String) (now : Instant)
      (hhashed : hashed (ObjectId.textOf .blob (ObjectId.blobPayload data))) :
      EffectUnder config hashed allowed t (t.withObject (.ofBlob data now))
  | tag {t : Tables} (name : String) (target : Oid) (message : Option String) (now : Instant)
      (hhashed : hashed (ObjectId.textOf .tag (ObjectId.tagPayload name target message)))
      (hstored : t.objects.contains target = true) :
      EffectUnder config hashed allowed t (t.withObject (.ofTag name target message now))
  | tagReference {t : Tables} (name : String) (oid : Oid) (message : String) (now : Instant)
      (hvalid : RefName.fault? (RefName.ofTag name) = none)
      (hstored : t.objects.contains oid = true) :
      EffectUnder config hashed allowed t (t.writeDirect (RefName.ofTag name) oid (some message) now)
  | commit {t t' : Tables} (parents : List Oid) (message : String) (now : Instant) (oid : Oid)
      (hoid : oid = ObjectId.ofCommit parents message now.toIsoUtc)
      (hhashed : hashed (ObjectId.textOf .commit
        (ObjectId.commitPayload parents message now.toIsoUtc)))
      (hparents : ∀ oid ∈ parents, t.objects.isCommit oid = true)
      (hsave : t.withCommit? parents message now = some t') :
      EffectUnder config hashed allowed t
        (pinnedIfPossible config (moved config t' oid message now) oid now)
  | branch {t : Tables} (name : String) (source : Option Oid) (oid : Oid) (attaches : Bool)
      (now : Instant) (hname : RefName.branchFault? name = none)
      (hnew : EventLog.branchTip? t.refs name = none) (hstart : branchStart t source = .ok oid)
      (hallowed : allowed t (.createBranch name source attaches)) :
      EffectUnder config hashed allowed t (branched t name oid attaches now)
  | unbranch {t : Tables} (name : String) (oid : Oid) (now : Instant)
      (htip : EventLog.branchTip? t.refs name = some oid)
      (hcurrent : ((t.refs.reference? RefName.head).bind fun r =>
        r.symbolic.bind RefStore.branchOf?) ≠ some name) :
      EffectUnder config hashed allowed t (unbranched t name oid now)
  | attach {t : Tables} (branch : String) (oid : Oid)
      (htip : EventLog.branchTip? t.refs branch = some oid) :
      EffectUnder config hashed allowed t (t.writeSymbolic RefName.head (RefName.ofBranch branch))
  | detach {t : Tables} (oid : Oid) (message : Option String) (now : Instant)
      (hcommit : t.objects.isCommit oid = true) :
      EffectUnder config hashed allowed t (t.writeDirect RefName.head oid message now)
  | hide {t : Tables} (oid : Oid) (now : Instant) (hcommit : t.objects.isCommit oid = true) :
      EffectUnder config hashed allowed t (t.logged "hide" now [(.hide, { commit := some oid })])
  | unhide {t : Tables} (oid : Oid) (now : Instant) (hcommit : t.objects.isCommit oid = true) :
      EffectUnder config hashed allowed t (pinnedIfPossible config
        (t.logged "unhide" now [(.unhide, { commit := some oid })]) oid now)
  | replace {t : Tables} (old new : Oid) (now : Instant)
      (hold : t.objects.isCommit old = true) (hnew : t.objects.isCommit new = true) :
      EffectUnder config hashed allowed t (pinnedIfPossible config
        (t.logged "rewrite" now [(.replace, { old := some old, new := some new })]) new now)
  | pin {t : Tables} (oid : Oid) (now : Instant) (hpin : CanPin config t oid)
      (hallowed : allowed t (.pin oid)) :
      EffectUnder config hashed allowed t (pinned config t oid now)
  | ask {t : Tables} (r : Replay) (hreplay : EventLog.replayRows t.events = .ok r) :
      EffectUnder config hashed allowed t
        (EventLog.computeVisible t (EventLog.rootsOf t config.mainBranch r.active)).2
  | sweep {t : Tables} (r : Replay) (now : Instant)
      (hreplay : EventLog.replayRows t.events = .ok r) :
      EffectUnder config hashed allowed t (swept config t r now)

/-- What one call can do, whatever calls are made. -/
abbrev Effect (config : Config) (hashed : String → Prop) : Tables → Tables → Prop :=
  EffectUnder config hashed fun _ _ => True

/-- One move of committed and working tables. -/
inductive Move (config : Config) (hashed : String → Prop) (allowed : Tables → Call → Prop) :
    Tables × Tables → Tables × Tables → Prop
  | edit {committed working working' : Tables}
      (h : EffectUnder config hashed allowed working working') :
      Move config hashed allowed (committed, working) (committed, working')
  | commit {committed working : Tables} :
      Move config hashed allowed (committed, working) (working, working)
  | undo {committed working : Tables} :
      Move config hashed allowed (committed, working) (committed, committed)

/-- Any number of moves. -/
def MovesUnder (config : Config) (hashed : String → Prop) (allowed : Tables → Call → Prop) :
    Tables × Tables → Tables × Tables → Prop :=
  Relation.ReflTransGen (Move config hashed allowed)

/-- Any number of moves, whatever calls are made. -/
abbrev Moves (config : Config) (hashed : String → Prop) :
    Tables × Tables → Tables × Tables → Prop :=
  MovesUnder config hashed fun _ _ => True

/-- **What every effect keeps, every sequence of moves keeps**, of the committed as of the working
tables. Where every effect also carries something from the tables before it to those after it, so do
the committed tables before the moves to those after them, and these to the working tables. -/
theorem MovesUnder.carries {config : Config} {hashed : String → Prop}
    {allowed : Tables → Call → Prop} {holds : Tables → Prop} (carried : Tables → Tables → Prop)
    (hrefl : ∀ t, carried t t) (htrans : ∀ a b c, carried a b → carried b c → carried a c)
    (heffect : ∀ t t', EffectUnder config hashed allowed t t' → holds t → holds t' ∧ carried t t')
    {pair pair' : Tables × Tables} (h : MovesUnder config hashed allowed pair pair')
    (hpair : holds pair.1 ∧ holds pair.2) (hbegins : carried pair.1 pair.2) :
    (holds pair'.1 ∧ holds pair'.2) ∧ carried pair.1 pair'.1 ∧ carried pair'.1 pair'.2 := by
  induction h with
  | refl => exact ⟨hpair, hrefl _, hbegins⟩
  | tail _ hmove ih =>
    obtain ⟨⟨hcommitted, hworking⟩, hbefore, hopen⟩ := ih
    cases hmove with
    | edit hstep =>
      obtain ⟨hafter, hmore⟩ := heffect _ _ hstep hworking
      exact ⟨⟨hcommitted, hafter⟩, hbefore, htrans _ _ _ hopen hmore⟩
    | commit => exact ⟨⟨hworking, hworking⟩, htrans _ _ _ hbefore hopen, hrefl _⟩
    | undo => exact ⟨⟨hcommitted, hcommitted⟩, hbefore, hrefl _⟩

/-- The same for a property of tables alone. -/
theorem MovesUnder.keeps {config : Config} {hashed : String → Prop}
    {allowed : Tables → Call → Prop} {holds : Tables → Prop}
    (heffect : ∀ t t', EffectUnder config hashed allowed t t' → holds t → holds t')
    {pair pair' : Tables × Tables} (h : MovesUnder config hashed allowed pair pair')
    (hpair : holds pair.1 ∧ holds pair.2) : holds pair'.1 ∧ holds pair'.2 :=
  (h.carries (fun _ _ => True) (fun _ => trivial) (fun _ _ _ _ _ => trivial)
    (fun t t' hstep ht => ⟨heffect t t' hstep ht, trivial⟩) hpair trivial).1

/-- The committed and the working tables of a session. -/
def Session.tables (s : Session) : Tables × Tables := (s.committed, s.working)

/-- The tables of one session become those of another one by moves, and what the store refuses is
the same. -/
def MovesTo (config : Config) (hashed : String → Prop) (allowed : Tables → Call → Prop)
    (s s' : Session) : Prop :=
  MovesUnder config hashed allowed s.tables s'.tables ∧ s'.refusals = s.refusals

section

variable {config : Config} {hashed : String → Prop} {allowed : Tables → Call → Prop} {s : Session}

theorem MovesTo.refl (s : Session) : MovesTo config hashed allowed s s :=
  ⟨Relation.ReflTransGen.refl, rfl⟩

theorem MovesTo.trans {s₁ s₂ s₃ : Session} (h : MovesTo config hashed allowed s₁ s₂)
    (h' : MovesTo config hashed allowed s₂ s₃) : MovesTo config hashed allowed s₁ s₃ :=
  ⟨Relation.ReflTransGen.trans h.1 h'.1, h'.2.trans h.2⟩

theorem MovesTo.edit {t : Tables} (h : EffectUnder config hashed allowed s.working t) :
    MovesTo config hashed allowed s (s.onTables t) :=
  ⟨Relation.ReflTransGen.single (Move.edit h), rfl⟩

theorem MovesTo.committing : MovesTo config hashed allowed s s.committing :=
  ⟨Relation.ReflTransGen.single Move.commit, rfl⟩

theorem MovesTo.rolledBack : MovesTo config hashed allowed s s.rolledBack :=
  ⟨Relation.ReflTransGen.single Move.undo, rfl⟩

theorem MovesTo.failed : MovesTo config hashed allowed s s.failed :=
  ⟨Relation.ReflTransGen.single Move.undo, rfl⟩

theorem MovesTo.editCommit {t : Tables} (h : EffectUnder config hashed allowed s.working t) :
    MovesTo config hashed allowed s (s.onTables t).committing :=
  (MovesTo.edit h).trans MovesTo.committing

theorem MovesTo.announced (line : Option String) :
    MovesTo config hashed allowed s (s.announced line) := by
  cases line <;> exact MovesTo.refl s

theorem MovesTo.of_stalls {α : Type} {x : Action α} (h : Stalls x s) :
    MovesTo config hashed allowed s (x.runOn s).2 := by
  obtain ⟨e, s', hrun, hcommitted, hworking, hrefusals⟩ := h
  rw [hrun]
  refine ⟨?_, hrefusals⟩
  show MovesUnder config hashed allowed (s.committed, s.working) (s'.committed, s'.working)
  rcases hworking with hworking | hworking <;> rw [hcommitted, hworking]
  · exact Relation.ReflTransGen.refl
  · exact Relation.ReflTransGen.single Move.undo

theorem MovesTo.of_looks {α : Type} {x : Action α} (h : Looks x) (s : Session) :
    MovesTo config hashed allowed s (x.runOn s).2 := by
  rw [h s]
  exact MovesTo.refl s

/-- It is enough to look at open sessions, if the action stalls on others. -/
theorem MovesTo.of_open {α : Type} {x : Action α}
    (hopen : s.IsOpen → MovesTo config hashed allowed s (x.runOn s).2)
    (hclosed : ¬ s.IsOpen → Stalls x s) :
    MovesTo config hashed allowed s (x.runOn s).2 := by
  by_cases h : s.IsOpen
  · exact hopen h
  · exact MovesTo.of_stalls (hclosed h)

theorem MovesTo.of_map {α β : Type} {x : Action α} (f : α → β) {s₁ : Session}
    (h : MovesTo config hashed allowed s (x.runOn s₁).2) :
    MovesTo config hashed allowed s ((x >>= fun a => pure (f a)).runOn s₁).2 := by
  rw [runOn_bind]
  rcases hrun : x.runOn s₁ with ⟨_ | _, s'⟩ <;> rw [hrun] at h <;> exact h

end

/-! ## 2. Texts that are hashed -/

/-- The text whose digest a call takes as the id of an object, if it comes that far. -/
def hashedText? (s : Session) (call : Call) : Option String :=
  if s.IsOpen then
    match call with
    | .commit message parents =>
      let parents := parentsOf s.working parents
      if (firstNoCommit? s.working parents).isNone then
        some (ObjectId.textOf .commit (ObjectId.commitPayload parents message s.now.toIsoUtc))
      else none
    | .createBlob data => some (ObjectId.textOf .blob (ObjectId.blobPayload data))
    | .createTag name target message =>
      if s.working.objects.contains target then
        some (ObjectId.textOf .tag (ObjectId.tagPayload name target message))
      else none
    | _ => none
  else none

/-- All texts whose digests a history takes as ids. -/
def hashedTexts (config : Config) : List (Instant × Call) → Session → List String
  | [], _ => []
  | (now, call) :: rest, s =>
    (hashedText? (at_ s now) call).toList ++
      hashedTexts config rest ((perform config call).runOn (at_ s now)).2

/-! ## 3. Calls on an open session -/

section

variable {config : Config} {hashed : String → Prop} {allowed : Tables → Call → Prop} {s : Session}

theorem createBlob_movesTo (h : s.IsOpen) (data : String)
    (hhashed : hashed (ObjectId.textOf .blob (ObjectId.blobPayload data))) :
    MovesTo config hashed allowed s ((createBlob data).runOn s).2 := by
  rw [createBlob_runOn h]
  exact MovesTo.editCommit (.blob data s.now hhashed)

theorem createTag_movesTo (h : s.IsOpen) (name : String) (target : Oid) (message : Option String)
    (hhashed : s.working.objects.contains target = true →
      hashed (ObjectId.textOf .tag (ObjectId.tagPayload name target message))) :
    MovesTo config hashed allowed s ((createTag name target message).runOn s).2 := by
  rw [createTag_runOn h]
  by_cases hstored : s.working.objects.contains target = true
  · rw [if_pos hstored]
    have htag : MovesTo config hashed allowed s
        (s.onTables (s.working.withObject (.ofTag name target message s.now))) :=
      MovesTo.edit (.tag name target message s.now (hhashed hstored) hstored)
    dsimp only
    cases hfault : RefName.fault? (RefName.ofTag name) with
    | some fault => exact htag
    | none =>
      have hsaved := ObjectStore.contains_insert s.working.objects
        (.ofTag name target message s.now)
      exact htag.trans (MovesTo.editCommit (s := s.onTables _)
        (.tagReference name _ ("tag: " ++ name) s.now hfault hsaved))
  · rw [if_neg hstored]
    exact MovesTo.refl s

theorem pin_movesTo (h : s.IsOpen) (hrefusals : s.refusals = {}) (oid : Oid)
    (hallowed : allowed s.working (.pin oid)) :
    MovesTo config hashed allowed s ((pin config oid).runOn s).2 := by
  by_cases hpin : CanPin config s.working oid
  · rw [pin_runOn h (by rw [hrefusals]) hpin]
    exact MovesTo.editCommit (.pin oid s.now hpin hallowed)
  · obtain ⟨e, hrun⟩ := pin_refused h hpin
    rw [hrun]
    exact MovesTo.refl s

/-- A pin within a call: what the call did before belongs to the same effect. -/
theorem pinOpen_movesTo {α : Type} {t : Tables} (h : s.IsOpen) (hrefusals : s.refusals = {})
    {oid : Oid}
    (heffect : EffectUnder config hashed allowed s.working (pinnedIfPossible config t oid s.now))
    (answer : RefName → α) :
    MovesTo config hashed allowed s ((do
      let name ← pinOpen config oid
      Action.commit
      pure (answer name) : Action α).runOn (s.onTables t)).2 := by
  unfold pinnedIfPossible at heffect
  by_cases hpin : CanPin config t oid
  · rw [if_pos hpin] at heffect
    rw [runOn_bind_of_ok (pinOpen_runOn (h.onTables t) (by rw [Session.onTables_refusals, hrefusals])
      hpin), runOn_bind_of_ok (runOn_commit ((h.onTables t).onTables _))]
    exact MovesTo.editCommit heffect
  · rw [if_neg hpin] at heffect
    obtain ⟨e, hrun⟩ := pinOpen_refused (h.onTables t) hpin
    rw [runOn_bind_of_error hrun]
    exact MovesTo.edit heffect

theorem pin_onTables_movesTo {t : Tables} (h : s.IsOpen) (hrefusals : s.refusals = {}) {oid : Oid}
    (heffect : EffectUnder config hashed allowed s.working (pinnedIfPossible config t oid s.now)) :
    MovesTo config hashed allowed s ((pin config oid).runOn (s.onTables t)).2 := by
  rw [pin]
  exact pinOpen_movesTo h hrefusals heffect fun name => name

theorem commit_movesTo (h : s.IsOpen) (hrefusals : s.refusals = {}) (message : String)
    (parents : List Oid)
    (hhashed : firstNoCommit? s.working parents = none →
      hashed (ObjectId.textOf .commit (ObjectId.commitPayload parents message s.now.toIsoUtc))) :
    MovesTo config hashed allowed s ((commit config message (some parents)).runOn s).2 := by
  rw [commit_some_runOn h]
  dsimp only
  cases hfirst : firstNoCommit? s.working parents with
  | some missing => exact MovesTo.refl s
  | none =>
    dsimp only
    cases hsave : s.working.withCommit? parents message s.now with
    | none => exact MovesTo.failed
    | some t =>
      exact pinOpen_movesTo h hrefusals (.commit parents message s.now _ rfl (hhashed hfirst)
        (isCommit_of_firstNoCommit? hfirst) hsave) _

theorem createBranch_movesTo (h : s.IsOpen) (name : String) (source : Option Oid)
    (attaches : Bool) (hallowed : allowed s.working (.createBranch name source attaches)) :
    MovesTo config hashed allowed s ((createBranch name source attaches).runOn s).2 := by
  rw [createBranch_runOn h]
  cases hname : RefName.branchFault? name with
  | some fault => exact MovesTo.refl s
  | none =>
    dsimp only
    by_cases htaken : (EventLog.branchTip? s.working.refs name).isSome = true
    · rw [if_pos htaken]
      exact MovesTo.refl s
    · rw [if_neg htaken]
      have hnew : EventLog.branchTip? s.working.refs name = none := by simpa using htaken
      cases hstart : branchStart s.working source with
      | error e => exact MovesTo.refl s
      | ok oid =>
        exact MovesTo.editCommit
          (.branch name source oid attaches s.now hname hnew hstart hallowed)

theorem deleteBranch_movesTo (h : s.IsOpen) (name : String) :
    MovesTo config hashed allowed s ((deleteBranch name).runOn s).2 := by
  rw [deleteBranch_runOn h]
  cases htip : EventLog.branchTip? s.working.refs name with
  | none => exact MovesTo.refl s
  | some oid =>
    dsimp only
    by_cases hcurrent : ((s.working.refs.reference? RefName.head).bind fun r =>
        r.symbolic.bind RefStore.branchOf?) = some name
    · rw [if_pos hcurrent]
      exact MovesTo.refl s
    · rw [if_neg hcurrent]
      exact MovesTo.editCommit (.unbranch name oid s.now htip hcurrent)

theorem checkout_movesTo (h : s.IsOpen) (target : String) :
    MovesTo config hashed allowed s ((checkout target).runOn s).2 := by
  rcases checkout_cases h target with ⟨oid, htip, hrun⟩ | ⟨oid, _, hcommit, hrun⟩ | ⟨e, hrun⟩ <;>
    rw [hrun]
  · exact MovesTo.editCommit (.attach target oid htip)
  · exact MovesTo.editCommit (.detach oid _ s.now hcommit)
  · exact MovesTo.refl s

theorem visible_movesTo (h : s.IsOpen) :
    MovesTo config hashed allowed s ((visible config).runOn s).2 := by
  cases hreplay : EventLog.replayRows s.working.events with
  | error e =>
    rw [visible_refused config h hreplay]
    exact MovesTo.refl s
  | ok r =>
    rw [visible_runOn config h hreplay]
    exact MovesTo.edit (.ask r hreplay)

theorem sweep_movesTo (h : s.IsOpen) (hrefusals : s.refusals = {}) (announces : Bool) :
    MovesTo config hashed allowed s ((sweep config announces).runOn s).2 := by
  let line := announcement config announces
  have hannounced : MovesTo config hashed allowed s (s.announced line) := MovesTo.announced line
  cases hreplay : EventLog.replayRows s.working.events with
  | error e =>
    rw [sweep_refused h hreplay]
    exact hannounced.trans MovesTo.rolledBack
  | ok r =>
    obtain ⟨outcome, hrun⟩ := sweep_runOn h hrefusals hreplay announces
    rw [hrun]
    refine hannounced.trans (MovesTo.editCommit ?_)
    rw [s.announced_working line]
    exact .sweep r s.now hreplay

theorem listPins_movesTo (h : s.IsOpen) :
    MovesTo config hashed allowed s ((listPins config).runOn s).2 := by
  refine (visible_movesTo h).trans ?_
  rw [listPins, runOn_bind]
  rcases (visible config).runOn s with ⟨e | found, s'⟩
  · exact MovesTo.refl s'
  · exact MovesTo.of_looks (RefStore.looks_list.bind fun _ => looks_read _) s'

theorem hide_movesTo (h : s.IsOpen) (hrefusals : s.refusals = {}) (oid : Oid) :
    MovesTo config hashed allowed s ((hide config oid).runOn s).2 := by
  rw [hide_runOn h]
  by_cases hcommit : s.working.objects.isCommit oid = true
  · rw [if_pos hcommit]
    have hhidden : MovesTo config hashed allowed s (s.onTables (s.working.logged "hide" s.now
        [(.hide, { commit := some oid })])).committing :=
      MovesTo.editCommit (.hide oid s.now hcommit)
    by_cases hsweeps : config.sweepsOnHide = true
    · rw [if_pos hsweeps]
      have hopen : (s.onTables (s.working.logged "hide" s.now
          [(.hide, { commit := some oid })])).committing.IsOpen := h
      exact hhidden.trans ((sweep_movesTo hopen hrefusals false).of_map fun _ => ())
    · rw [if_neg hsweeps]
      exact hhidden
  · rw [if_neg hcommit]
    exact MovesTo.refl s

theorem unhide_movesTo (h : s.IsOpen) (hrefusals : s.refusals = {}) (oid : Oid) :
    MovesTo config hashed allowed s ((unhide config oid).runOn s).2 := by
  rw [unhide_runOn h]
  by_cases hcommit : s.working.objects.isCommit oid = true
  · rw [if_pos hcommit]
    exact (pin_onTables_movesTo h hrefusals (.unhide oid s.now hcommit)).of_map fun _ => ()
  · rw [if_neg hcommit]
    exact MovesTo.refl s

theorem replace_movesTo (h : s.IsOpen) (hrefusals : s.refusals = {}) (old new : Oid) :
    MovesTo config hashed allowed s ((replace config old new).runOn s).2 := by
  rw [replace_runOn h]
  cases hfirst : firstNoCommit? s.working [old, new] with
  | some missing => exact MovesTo.refl s
  | none =>
    have hcommits := isCommit_of_firstNoCommit? hfirst
    have hold := hcommits old (by simp)
    have hnew := hcommits new (by simp)
    exact (pin_onTables_movesTo h hrefusals (.replace old new s.now hold hnew)).of_map fun _ => ()

end

/-! ## 4. Calls on a session that is not open -/

section

variable {config : Config} {s : Session}

theorem stalls_branch? (h : ¬ s.IsOpen) (branch : String) : Stalls (RefStore.branch? branch) s :=
  ((stalls_read h _).accessing _ _).bind _

theorem stalls_requireCommit (h : ¬ s.IsOpen) (oid : Oid) : Stalls (requireCommit oid) s :=
  (stalls_read h _).bind _

theorem stalls_save (h : ¬ s.IsOpen) (o : StoredObject) : Stalls (ObjectRows.save o) s :=
  ((stalls_read h _).bind _).bind _

theorem stalls_commit (h : ¬ s.IsOpen) (message : String) (parents : Option (List Oid)) :
    Stalls (commit config message parents) s := by
  cases parents with
  | none => exact ((stalls_read h _).accessing _ _).bind _
  | some parents =>
    refine Stalls.bind_of_ok (runOn_pure parents s) ?_
    cases parents with
    | nil =>
      -- Without parents the first look at the tables is that for the new object.
      refine Stalls.bind_of_ok (runOn_pure () s) (Stalls.bind_of_ok (runOn_now s) ?_)
      exact (Stalls.bind_of_ok (runOn_now s) ((stalls_save h _).bind _)).bind _
    | cons first rest => exact ((stalls_read h _).bind _).bind _

theorem stalls_createBlob (h : ¬ s.IsOpen) (data : String) : Stalls (createBlob data) s :=
  Stalls.bind_of_ok (runOn_now s) ((stalls_save h _).bind _)

theorem stalls_createTag (h : ¬ s.IsOpen) (name : String) (target : Oid)
    (message : Option String) : Stalls (createTag name target message) s :=
  ((stalls_read h _).bind _).bind _

theorem stalls_createBranch (h : ¬ s.IsOpen) (name : String) (source : Option Oid)
    (attaches : Bool) : Stalls (createBranch name source attaches) s := by
  refine Stalls.bind ?_ _
  unfold Branch.create
  cases RefName.branchFault? name with
  | some fault => exact (stalls_throw _ s).bind _
  | none => exact (stalls_branch? h name).bind _

theorem stalls_pinOpen (h : ¬ s.IsOpen) (oid : Oid) : Stalls (pinOpen config oid) s := by
  unfold pinOpen Pin.mark Pin.markChecked
  dsimp only
  split
  · refine Stalls.bind_of_ok (RefStore.acceptsName_runOn _ s) ?_
    split
    · refine Stalls.bind ?_ _
      unfold RefStore.put
      cases RefName.fault? (Reserved.pinName config.pinRoot oid) with
      | some fault => exact (stalls_throw _ s).bind _
      | none => exact ((stalls_read h _).bind _).accessing _ _
    · exact (stalls_throw _ s).bind _
  · exact (stalls_throw _ s).bind _

theorem stalls_pin (h : ¬ s.IsOpen) (oid : Oid) : Stalls (pin config oid) s :=
  (stalls_pinOpen h oid).bind _

theorem stalls_deleteBranch (h : ¬ s.IsOpen) (name : String) : Stalls (deleteBranch name) s :=
  ((stalls_branch? h name).bind _).bind _

theorem stalls_checkout (h : ¬ s.IsOpen) (target : String) : Stalls (checkout target) s :=
  (stalls_branch? h target).bind _

theorem stalls_hide (h : ¬ s.IsOpen) (oid : Oid) : Stalls (hide config oid) s :=
  (stalls_requireCommit h oid).bind _

theorem stalls_unhide (h : ¬ s.IsOpen) (oid : Oid) : Stalls (unhide config oid) s :=
  (stalls_requireCommit h oid).bind _

theorem stalls_replace (h : ¬ s.IsOpen) (old new : Oid) : Stalls (replace config old new) s :=
  (stalls_requireCommit h old).bind _

theorem stalls_visible (h : ¬ s.IsOpen) : Stalls (visible config) s :=
  ((stalls_read h _).bind _).bind _

/-- A sweep of a session that is not open undoes the open transaction. -/
theorem sweep_movesTo_of_not_isOpen {hashed : String → Prop} {allowed : Tables → Call → Prop}
    (h : ¬ s.IsOpen) (announces : Bool) :
    MovesTo config hashed allowed s ((sweep config announces).runOn s).2 := by
  let line := announcement config announces
  have hopen : ¬ (s.announced line).IsOpen := fun h' => h ((s.isOpen_announced line).mp h')
  obtain ⟨e, s', hvisible, hcommitted, _, hrefusals⟩ : Stalls (visible config) (s.announced line) :=
    stalls_visible hopen
  rw [sweep_of_run_error (Sweep.run_of_visibility_error hvisible)]
  refine ⟨?_, hrefusals.trans (s.announced_refusals line)⟩
  show MovesUnder config hashed allowed (s.committed, s.working) (s'.committed, s'.committed)
  rw [hcommitted, s.announced_committed line]
  exact Relation.ReflTransGen.single Move.undo

end

/-! ## 5. Histories -/

section

variable {config : Config} {hashed : String → Prop} {allowed : Tables → Call → Prop}

theorem looks_rows : Looks EventLog.rows := by
  refine (looks_read _).bind fun rows => ?_
  cases EventLog.checkKinds rows
  · exact looks_throw _
  · exact looks_pure _

theorem looks_headState : Looks headState :=
  RefStore.looks_head.bind fun _ =>
    ((RefStore.looks_get? _).bind fun _ => looks_pure _).bind fun _ =>
      ((RefStore.looks_get? _).bind fun _ => looks_pure _).bind fun _ => looks_pure _

theorem looks_describe : Looks describe := by
  refine Looks.bind (fun _ => rfl) fun closed => ?_
  cases closed
  · exact RefStore.looks_head.bind fun _ => looks_pure _
  · exact looks_pure _

/-- **A call is a sequence of moves.** -/
theorem perform_movesTo (call : Call) {s : Session} (hrefusals : s.refusals = {})
    (hhashed : ∀ text, hashedText? s call = some text → hashed text)
    (hallowed : allowed s.working call) :
    MovesTo config hashed allowed s ((perform config call).runOn s).2 := by
  cases call with
  | commit message parents =>
    refine MovesTo.of_map _ (MovesTo.of_open ?_ fun h => stalls_commit h message parents)
    intro h
    rw [commit_parentsOf h]
    refine commit_movesTo h hrefusals message _ ?_
    intro hfirst
    refine hhashed _ ?_
    rw [hashedText?, if_pos h]
    simp [hfirst]
  | createBlob data =>
    refine MovesTo.of_map _ (MovesTo.of_open ?_ fun h => stalls_createBlob h data)
    intro h
    exact createBlob_movesTo h data (hhashed _ (by rw [hashedText?, if_pos h]))
  | createTag name target message =>
    refine MovesTo.of_map _ (MovesTo.of_open ?_ fun h => stalls_createTag h name target message)
    intro h
    refine createTag_movesTo h name target message ?_
    intro hstored
    refine hhashed _ ?_
    rw [hashedText?, if_pos h, if_pos hstored]
  | getCommit oid => exact MovesTo.of_map _ (MovesTo.of_looks (looks_read _) s)
  | log limit =>
    exact MovesTo.of_map _ (MovesTo.of_looks (RefStore.looks_head.bind fun _ => looks_read _) s)
  | resolveCommit name => exact MovesTo.of_map _ (MovesTo.of_looks (looks_resolveCommit name) s)
  | createBranch name source attaches =>
    refine MovesTo.of_map _ (MovesTo.of_open ?_ fun h => stalls_createBranch h name source attaches)
    intro h
    exact createBranch_movesTo h name source attaches hallowed
  | deleteBranch name =>
    refine MovesTo.of_map _ (MovesTo.of_open ?_ fun h => stalls_deleteBranch h name)
    intro h
    exact deleteBranch_movesTo h name
  | branches => exact MovesTo.of_map _ (MovesTo.of_looks RefStore.looks_branches s)
  | checkout target =>
    refine MovesTo.of_map _ (MovesTo.of_open ?_ fun h => stalls_checkout h target)
    intro h
    exact checkout_movesTo h target
  | hide oid =>
    refine MovesTo.of_map _ (MovesTo.of_open ?_ fun h => stalls_hide h oid)
    intro h
    exact hide_movesTo h hrefusals oid
  | unhide oid =>
    refine MovesTo.of_map _ (MovesTo.of_open ?_ fun h => stalls_unhide h oid)
    intro h
    exact unhide_movesTo h hrefusals oid
  | replace old new =>
    refine MovesTo.of_map _ (MovesTo.of_open ?_ fun h => stalls_replace h old new)
    intro h
    exact replace_movesTo h hrefusals old new
  | events => exact MovesTo.of_map _ (MovesTo.of_looks looks_rows s)
  | visible => exact MovesTo.of_map _ (MovesTo.of_open visible_movesTo stalls_visible)
  | pin oid =>
    refine MovesTo.of_map _ (MovesTo.of_open ?_ fun h => stalls_pin h oid)
    intro h
    exact pin_movesTo h hrefusals oid hallowed
  | sweep announces =>
    refine MovesTo.of_map _ ?_
    by_cases h : s.IsOpen
    · exact sweep_movesTo h hrefusals announces
    · exact sweep_movesTo_of_not_isOpen h announces
  | listPins =>
    refine MovesTo.of_map _ (MovesTo.of_open ?_ fun h => (stalls_visible h).bind _)
    intro h
    exact listPins_movesTo h
  | head => exact MovesTo.of_map _ (MovesTo.of_looks looks_headState s)
  | describe => exact MovesTo.of_map _ (MovesTo.of_looks looks_describe s)
  | close =>
    show MovesTo config hashed allowed s
      (if s.closed then s else { s.rolledBack with closed := true })
    split
    · exact MovesTo.refl s
    · exact MovesTo.rolledBack

theorem run_cons (config : Config) (now : Instant) (call : Call) (rest : List (Instant × Call))
    (s : Session) : (run config ((now, call) :: rest) s).2 =
      (run config rest ((perform config call).runOn (at_ s now)).2).2 := rfl

/-- Every call of a history is allowed on the tables on which it is made. -/
def AllowedAlong (config : Config) (allowed : Tables → Call → Prop) :
    List (Instant × Call) → Session → Prop
  | [], _ => True
  | (now, call) :: rest, s =>
    allowed s.working call ∧
      AllowedAlong config allowed rest ((perform config call).runOn (at_ s now)).2

/-- **A history of calls is a sequence of moves.** -/
theorem run_movesUnder (history : List (Instant × Call)) {s : Session} (hrefusals : s.refusals = {})
    (hhashed : ∀ text ∈ hashedTexts config history s, hashed text)
    (hallowed : AllowedAlong config allowed history s) :
    MovesTo config hashed allowed s (run config history s).2 := by
  induction history generalizing s with
  | nil => exact MovesTo.refl s
  | cons step rest ih =>
    obtain ⟨now, call⟩ := step
    have hcall : MovesTo config hashed allowed (at_ s now)
        ((perform config call).runOn (at_ s now)).2 := by
      refine perform_movesTo call hrefusals (fun text htext => hhashed text ?_) hallowed.1
      rw [hashedTexts, htext]
      exact List.mem_append_left _ List.mem_cons_self
    have hrest := ih (hcall.2.trans hrefusals)
      (fun text htext => hhashed text (List.mem_append_right _ htext)) hallowed.2
    rw [run_cons]
    exact MovesTo.trans hcall hrest

theorem allowedAlong_true (history : List (Instant × Call)) (s : Session) :
    AllowedAlong config (fun _ _ => True) history s := by
  induction history generalizing s with
  | nil => trivial
  | cons step rest ih => exact ⟨trivial, ih _⟩

/-- The same, whatever calls are made. -/
theorem run_movesTo (history : List (Instant × Call)) {s : Session} (hrefusals : s.refusals = {})
    (hhashed : ∀ text ∈ hashedTexts config history s, hashed text) :
    MovesTo config hashed (fun _ _ => True) s (run config history s).2 :=
  run_movesUnder history hrefusals hhashed (allowedAlong_true history s)

/-- **What every effect keeps holds after every history** on a new repository, of the committed
tables and of those of the open transaction. -/
theorem run_keepsEffects (config : Config) (history : List (Instant × Call)) (durable : Bool)
    (start : Instant) {holds : Tables → Prop} (hempty : holds .empty)
    (heffect : ∀ t t', Effect config (fun text =>
      text ∈ hashedTexts config history (Session.start .empty durable start)) t t' →
        holds t → holds t') {t : Tables}
    (ht : t = (run config history (Session.start .empty durable start)).2.committed ∨
      t = (run config history (Session.start .empty durable start)).2.working) : holds t := by
  have hmoves : Moves config (fun text =>
      text ∈ hashedTexts config history (Session.start .empty durable start)) (.empty, .empty) _ :=
    (run_movesTo history rfl fun _ htext => htext).1
  obtain ⟨hcommitted, hworking⟩ := hmoves.keeps heffect ⟨hempty, hempty⟩
  rcases ht with rfl | rfl
  · exact hcommitted
  · exact hworking

theorem run_append (config : Config) (earlier later : List (Instant × Call)) (s : Session) :
    (run config (earlier ++ later) s).2 = (run config later (run config earlier s).2).2 := by
  induction earlier generalizing s with
  | nil => rfl
  | cons step rest ih =>
    obtain ⟨now, call⟩ := step
    exact ih _

theorem hashedTexts_append (config : Config) (earlier later : List (Instant × Call))
    (s : Session) :
    hashedTexts config (earlier ++ later) s =
      hashedTexts config earlier s ++ hashedTexts config later (run config earlier s).2 := by
  induction earlier generalizing s with
  | nil => rfl
  | cons step rest ih =>
    obtain ⟨now, call⟩ := step
    rw [List.cons_append, hashedTexts, ih, hashedTexts, List.append_assoc]
    rfl

theorem allowedAlong_append (config : Config) (allowed : Tables → Call → Prop)
    (earlier later : List (Instant × Call)) (s : Session) :
    AllowedAlong config allowed (earlier ++ later) s ↔
      AllowedAlong config allowed earlier s ∧
        AllowedAlong config allowed later (run config earlier s).2 := by
  induction earlier generalizing s with
  | nil => exact (iff_of_eq (true_and _)).symm
  | cons step rest ih =>
    obtain ⟨now, call⟩ := step
    exact (and_congr_right fun _ => ih _).trans and_assoc.symm

/-- **What effects carry, histories carry**: from what was committed at some point to what is
committed at the end, and from that to the open transaction. -/
theorem run_carries {holds : Tables → Prop} (carried : Tables → Tables → Prop)
    (hrefl : ∀ t, carried t t) (htrans : ∀ a b c, carried a b → carried b c → carried a c)
    (earlier later : List (Instant × Call)) {first : Session} (hrefusals : first.refusals = {})
    (heffect : ∀ t t', Effect config
      (fun text => text ∈ hashedTexts config (earlier ++ later) first) t t' →
        holds t → holds t' ∧ carried t t')
    (hfirst : holds first.committed ∧ holds first.working)
    (hbegins : carried first.committed first.working) :
    let s := (run config earlier first).2
    let s' := (run config (earlier ++ later) first).2
    (holds s'.committed ∧ holds s'.working) ∧ carried s.committed s'.committed ∧
      carried s'.committed s'.working := by
  intro s s'
  have htexts : ∀ text, text ∈ hashedTexts config earlier first ∨
      text ∈ hashedTexts config later s → text ∈ hashedTexts config (earlier ++ later) first := by
    intro text htext
    rw [hashedTexts_append]
    exact List.mem_append.mpr htext
  have hearlier := run_movesTo earlier hrefusals fun text htext => htexts text (Or.inl htext)
  have hlater := run_movesTo later (hearlier.2.trans hrefusals)
    fun text htext => htexts text (Or.inr htext)
  obtain ⟨hs, _, hopen⟩ := hearlier.1.carries carried hrefl htrans heffect hfirst hbegins
  have hs' : s' = (run config later s).2 := run_append config earlier later first
  rw [hs']
  exact hlater.1.carries carried hrefl htrans heffect hs hopen

end

end CommitStore
