import CommitStore.Proofs.FailedCalls
import CommitStore.Proofs.FailedSweeps
set_option autoImplicit false

/-!
# Histories that keep the session open

A session stays open under every call but `close`, as long as no row breaks a rule of the tables:
`perform_isOpen` is the step, `run_isOpen` the history. So whether the next call finds an open
session can be read off the answers so far.

Sweeps need no care here. One that fails is undone, and a session whose open transaction is undone
is not broken.

On a session that is not open every call fails at its first look at the tables (`perform_stalls`).
So a call that completes tells, too, that the session is open, if it is not closed.
-/

namespace CommitStore

open CommitStore.Action

/-! ## 1. One action -/

/-- An answer that tells of a broken rule, or an open session. -/
def KeepsOpen {α : Type} (answer : Except Error α × Session) : Prop :=
  answer.1 = .error (.database .integrity) ∨ answer.2.IsOpen

namespace KeepsOpen

variable {α β : Type} {s : Session}

theorem of_map {x : Action α} {f : α → β} (h : KeepsOpen (x.runOn s)) :
    KeepsOpen ((x >>= fun a => pure (f a)).runOn s) := by
  rw [runOn_bind]
  rcases hrun : x.runOn s with ⟨e | a, s'⟩
  · rw [hrun] at h
    rcases h with hbroken | hopen
    · cases hbroken
      exact Or.inl rfl
    · exact Or.inr hopen
  · rw [hrun] at h
    rcases h with hbroken | hopen
    · cases hbroken
    · exact Or.inr hopen

theorem of_looks {x : Action α} (hx : Looks x) (h : s.IsOpen) : KeepsOpen (x.runOn s) := by
  refine Or.inr ?_
  rw [hx s]
  exact h

end KeepsOpen

namespace Repository

variable {config : Config} {s : Session}

/-! ## 2. One call -/

theorem createTag_isOpen (h : s.IsOpen) (name : String) (target : Oid) (message : Option String) :
    ((createTag name target message).runOn s).2.IsOpen := by
  rw [createTag_runOn h]
  split
  · dsimp only
    split <;> exact h
  · exact h

theorem createBranch_isOpen (h : s.IsOpen) (name : String) (source : Option Oid)
    (attaches : Bool) : ((createBranch name source attaches).runOn s).2.IsOpen := by
  rw [createBranch_runOn h]
  split
  · exact h
  · split
    · exact h
    · split <;> exact h

theorem deleteBranch_isOpen (h : s.IsOpen) (name : String) :
    ((deleteBranch name).runOn s).2.IsOpen := by
  rw [deleteBranch_runOn h]
  split
  · exact h
  · split <;> exact h

theorem checkout_isOpen (h : s.IsOpen) (target : String) :
    ((checkout target).runOn s).2.IsOpen := by
  rcases checkout_cases h target with ⟨_, _, hrun⟩ | ⟨_, _, _, hrun⟩ | ⟨_, hrun⟩ <;>
    rw [hrun] <;> exact h

theorem pin_isOpen {α : Type} (h : s.IsOpen) (oid : Oid) (answer : RefName → α) :
    ((do
      let name ← pinOpen config oid
      Action.commit
      pure (answer name) : Action α).runOn s).2.IsOpen := by
  rcases hrun : (pinOpen config oid).runOn s with ⟨e | name, s'⟩
  · rw [runOn_bind_of_error hrun, (pinOpen_error h hrun).1]
    exact h
  · rw [runOn_bind_of_ok hrun, pinOpen_ok h hrun, runOn_bind_of_ok (runOn_commit (h.onTables _))]
    exact h

theorem commit_keepsOpen (h : s.IsOpen) (message : String) (parents : Option (List Oid)) :
    KeepsOpen ((commit config message parents).runOn s) := by
  rw [commit_parentsOf h, commit_some_runOn h]
  dsimp only
  split
  · exact Or.inr h
  · split
    · exact Or.inl rfl
    · exact Or.inr (pin_isOpen (h.onTables _) _ _)

theorem visible_isOpen (config : Config) (h : s.IsOpen) : ((visible config).runOn s).2.IsOpen := by
  obtain ⟨cache, hs'⟩ := visible_session config s
  rw [hs']
  exact h.onTables _

theorem sweep_isOpen (h : s.IsOpen) (announces : Bool) :
    ((sweep config announces).runOn s).2.IsOpen := by
  rcases hrun : (sweep config announces).runOn s with ⟨e | outcome, s'⟩
  · obtain rfl := sweep_undone hrun
    exact ⟨rfl, ((s.isOpen_announced _).mpr h).2⟩
  · obtain ⟨s₁, hswept, rfl⟩ := sweep_eq_ok_iff.mp hrun
    obtain ⟨_, s₂, _, hopen, _, _, _, rfl⟩ := Sweep.run_eq_ok_iff.mp hswept
    exact hopen

theorem hide_keepsOpen (h : s.IsOpen) (oid : Oid) : KeepsOpen ((hide config oid).runOn s) := by
  rw [hide_runOn h]
  by_cases hcommit : s.working.objects.isCommit oid = true
  · rw [if_pos hcommit]
    by_cases hsweeps : config.sweepsOnHide = true
    · rw [if_pos hsweeps]
      have hopen : (s.onTables (s.working.logged "hide" s.now
          [(.hide, { commit := some oid })])).committing.IsOpen := h
      exact .of_map (Or.inr (sweep_isOpen hopen false))
    · rw [if_neg hsweeps]
      exact Or.inr h
  · rw [if_neg hcommit]
    exact Or.inr h

theorem unhide_keepsOpen (h : s.IsOpen) (oid : Oid) : KeepsOpen ((unhide config oid).runOn s) := by
  rw [unhide_runOn h]
  by_cases hcommit : s.working.objects.isCommit oid = true
  · rw [if_pos hcommit]
    exact .of_map (Or.inr (pin_isOpen (h.onTables _) oid fun name => name))
  · rw [if_neg hcommit]
    exact Or.inr h

theorem replace_keepsOpen (h : s.IsOpen) (old new : Oid) :
    KeepsOpen ((replace config old new).runOn s) := by
  rw [replace_runOn h]
  cases firstNoCommit? s.working [old, new] with
  | some missing => exact Or.inr h
  | none => exact .of_map (Or.inr (pin_isOpen (h.onTables _) new fun name => name))

theorem listPins_isOpen (h : s.IsOpen) : ((listPins config).runOn s).2.IsOpen := by
  have hvisible := visible_isOpen config h
  rw [listPins, runOn_bind]
  rcases hrun : (visible config).runOn s with ⟨e | found, s'⟩ <;> rw [hrun] at hvisible
  · exact hvisible
  · have hlooks : Looks (do
        let _ ← RefStore.list
        read fun t => Pin.listing t config.pinRoot found) :=
      RefStore.looks_list.bind fun _ => looks_read _
    dsimp only
    rw [hlooks s']
    exact hvisible

/-- **A call keeps the session open**, unless it closes it or breaks a rule of the tables. -/
theorem perform_isOpen (h : s.IsOpen) {call : Call} (hclose : call ≠ .close) :
    KeepsOpen ((perform config call).runOn s) := by
  cases call with
  | commit message parents => exact .of_map (commit_keepsOpen h message parents)
  | createBlob data =>
    refine .of_map (Or.inr ?_)
    rw [createBlob_runOn h]
    exact h
  | createTag name target message => exact .of_map (Or.inr (createTag_isOpen h name target message))
  | getCommit oid => exact .of_map (.of_looks (looks_read _) h)
  | log limit => exact .of_map (.of_looks (RefStore.looks_head.bind fun _ => looks_read _) h)
  | resolveCommit name => exact .of_map (.of_looks (looks_resolveCommit name) h)
  | createBranch name source attaches =>
    exact .of_map (Or.inr (createBranch_isOpen h name source attaches))
  | deleteBranch name => exact .of_map (Or.inr (deleteBranch_isOpen h name))
  | branches => exact .of_map (.of_looks RefStore.looks_branches h)
  | checkout target => exact .of_map (Or.inr (checkout_isOpen h target))
  | hide oid => exact .of_map (hide_keepsOpen h oid)
  | unhide oid => exact .of_map (unhide_keepsOpen h oid)
  | replace old new => exact .of_map (replace_keepsOpen h old new)
  | events => exact .of_map (.of_looks looks_rows h)
  | visible => exact .of_map (Or.inr (visible_isOpen config h))
  | pin oid => exact .of_map (Or.inr (pin_isOpen h oid fun name => name))
  | sweep announces => exact .of_map (Or.inr (sweep_isOpen h announces))
  | listPins => exact .of_map (Or.inr (listPins_isOpen h))
  | head => exact .of_map (.of_looks looks_headState h)
  | describe => exact .of_map (.of_looks looks_describe h)
  | close => exact absurd rfl hclose

/-! ## 3. Calls on a session that is not open -/

theorem stalls_sweep (h : ¬ s.IsOpen) (announces : Bool) : Stalls (sweep config announces) s := by
  let line := announcement config announces
  have hopen : ¬ (s.announced line).IsOpen := fun h' => h ((s.isOpen_announced line).mp h')
  obtain ⟨e, s', hvisible, _⟩ : Stalls (visible config) (s.announced line) := stalls_visible hopen
  have hrun := sweep_of_run_error (Sweep.run_of_visibility_error hvisible)
  refine ⟨_, _, hrun, ?_⟩
  rw [sweep_undone hrun]
  exact ⟨s.announced_committed line, Or.inr (s.announced_committed line), s.announced_refusals line⟩

/-- Only a closed session that is not open answers: that it is closed, and that it is closed again. -/
theorem perform_stalls (h : ¬ s.IsOpen) {call : Call} (hclose : call ≠ .close)
    (hdescribe : call = .describe → s.closed = false) : Stalls (perform config call) s := by
  cases call with
  | commit message parents => exact (stalls_commit h message parents).bind _
  | createBlob data => exact (stalls_createBlob h data).bind _
  | createTag name target message => exact (stalls_createTag h name target message).bind _
  | getCommit oid => exact (stalls_read h _).bind _
  | log limit => exact (((stalls_read h _).accessing _ _).bind _).bind _
  | resolveCommit name => exact (((stalls_branch? h name).bind _).bind _).bind _
  | createBranch name source attaches => exact (stalls_createBranch h name source attaches).bind _
  | deleteBranch name => exact (stalls_deleteBranch h name).bind _
  | branches => exact ((stalls_read h _).accessing _ _).bind _
  | checkout target => exact (stalls_checkout h target).bind _
  | hide oid => exact (stalls_hide h oid).bind _
  | unhide oid => exact (stalls_unhide h oid).bind _
  | replace old new => exact (stalls_replace h old new).bind _
  | events => exact ((stalls_read h _).bind _).bind _
  | visible => exact (stalls_visible h).bind _
  | pin oid => exact (stalls_pin h oid).bind _
  | sweep announces => exact (stalls_sweep h announces).bind _
  | listPins => exact ((stalls_visible h).bind _).bind _
  | head => exact (((stalls_read h _).accessing _ _).bind _).bind _
  | describe =>
    have hopen : (ofFunction fun s => (.ok s.closed, s) : Action Bool).runOn s = (.ok false, s) := by
      rw [← hdescribe rfl]
      rfl
    have hstalls : Stalls describe s :=
      Stalls.bind_of_ok hopen (((stalls_read h _).accessing _ _).bind _)
    exact hstalls.bind _
  | close => exact absurd rfl hclose

/-- **A call that completes leaves an open session**, or a closed one. -/
theorem isOpen_of_perform_ok {call : Call} {reply : Reply} {s' : Session}
    (hrun : (perform config call).runOn s = (.ok reply, s')) (hclosed : s'.closed = false) :
    s'.IsOpen := by
  have hclose : call ≠ .close := by
    rintro rfl
    have hrun' : (perform config .close).runOn s =
        (.ok .done, if s.closed then s else { s.rolledBack with closed := true }) := rfl
    rw [hrun'] at hrun
    cases hrun
    split at hclosed
    · next hs => exact absurd hs (by simp [hclosed])
    · cases hclosed
  by_cases hopen : s.IsOpen
  · have hkept : KeepsOpen ((perform config call).runOn s) := perform_isOpen hopen hclose
    rw [hrun] at hkept
    exact hkept.resolve_left fun hbroken => by cases hbroken
  · obtain ⟨e, s₁, hstall, _⟩ : Stalls (perform config call) s := by
      refine perform_stalls hopen hclose ?_
      rintro rfl
      have hlooks : Looks (perform config .describe) := looks_describe.bind fun _ => looks_pure _
      rw [← hlooks.eq_of_runOn hrun]
      exact hclosed
    rw [hrun] at hstall
    cases hstall

/-! ## 4. Histories -/

/-- **A history keeps the session open**, if it does not close it and no answer tells of a broken
rule. -/
theorem run_isOpen (history : List (Instant × Call)) (h : s.IsOpen)
    (hclose : ∀ step ∈ history, step.2 ≠ .close)
    (hkept : ∀ answer ∈ (run config history s).1, answer ≠ .error (.database .integrity)) :
    (run config history s).2.IsOpen := by
  induction history generalizing s with
  | nil => exact h
  | cons step rest ih =>
    obtain ⟨now, call⟩ := step
    have hopen : (at_ s now).IsOpen := h
    have hcall : KeepsOpen ((perform config call).runOn (at_ s now)) :=
      perform_isOpen hopen (hclose _ List.mem_cons_self)
    rw [run_cons]
    refine ih (hcall.resolve_left (hkept _ List.mem_cons_self)) ?_ ?_
    · exact fun step hstep => hclose step (List.mem_cons_of_mem _ hstep)
    · exact fun answer hanswer => hkept answer (List.mem_cons_of_mem _ hanswer)

end Repository
end CommitStore
