import CommitStore.Proofs.CacheAnswers
import CommitStore.Proofs.UserReferences
import Mathlib.Data.List.Basic
set_option autoImplicit false

/-!
# What a listing of pins says about the next sweep

A listing and a sweep look at the references one by one and ask the same of each, in another order:
the listing leaves out what is not reserved before it asks where a reference leads, the sweep asks
of all references and counts them. Both keep the order of the table, so the names that a listing
shows as invisible are the names that a sweep deletes (`hidden_listing`), as one list.

That holds for one set of visible commits. The sweep computes its own, and the listing before it may
have left rows in the cache of merge bases; they change no answer (`sweepOutcome_computeVisible`),
so it makes no difference whether the sweep starts from the session before the listing or after it.
-/

namespace CommitStore

open CommitStore.Action

/-! ## 1. Pins in a listing -/

namespace Pin

/-- The names that a listing shows as invisible, in order. -/
def hidden (pins : List Listed) : List RefName := (pins.filter fun pin => !pin.visible).map (·.ref)

theorem mem_hidden {pins : List Listed} {pin : Listed} (h : pin ∈ pins)
    (hvisible : pin.visible = false) : pin.ref ∈ hidden pins := by
  refine List.mem_map.mpr ⟨pin, List.mem_filter.mpr ⟨h, ?_⟩, rfl⟩
  rw [hvisible]
  rfl

/-- A listing holds the reserved references that lead to a commit. -/
theorem mem_listing_iff {t : Tables} {root : String} {visible : List Oid} {pin : Listed} :
    pin ∈ listing t root visible ↔
      Reserved.isReserved root pin.ref = true ∧
        (∃ p, t.refs.get? pin.ref = some p ∧ LeadsTo t (p.named pin.ref) pin.commit) ∧
        pin.visible = visible.contains pin.commit := by
  simp only [listing, List.mem_filterMap, List.mem_filter, Option.map_eq_some_iff,
    RefTable.mem_references_iff, commitOf?_eq_some_iff]
  constructor
  · rintro ⟨r, ⟨hget, hreserved⟩, commit, hleads, rfl⟩
    exact ⟨hreserved, ⟨r.toPointer, hget, hleads⟩, rfl⟩
  · rintro ⟨hreserved, ⟨p, hget, hleads⟩, hvisible⟩
    refine ⟨p.named pin.ref, ⟨hget, hreserved⟩, pin.commit, hleads, ?_⟩
    rw [← hvisible]
    rfl

/-- What a listing hides is what dangles: each of the two is one pass over the references, and they
agree on every single one. -/
theorem hidden_listing (t : Tables) (root : String) (visible : List Oid) :
    hidden (listing t root visible) =
      (Sweep.classify t root visible t.refs.references).dangling := by
  show List.map _ (List.filter _ (List.filterMap _ (List.filter _ t.refs.references))) =
    List.map _ (List.filter _ t.refs.references)
  rw [← List.filterMap_eq_filter, ← List.filterMap_eq_filter, ← List.filterMap_eq_filter,
    ← List.filterMap_eq_map, ← List.filterMap_eq_map, List.filterMap_filterMap,
    List.filterMap_filterMap, List.filterMap_filterMap, List.filterMap_filterMap]
  refine List.filterMap_congr fun r _ => ?_
  cases hreserved : Reserved.isReserved root r.name with
  | false => simp [Option.guard, Sweep.isDangling, hreserved]
  | true =>
    cases hcommit : commitOf? t r with
    | none => simp [Option.guard, Sweep.isDangling, hcommit]
    | some commit =>
      by_cases hvisible : commit ∈ visible <;>
        simp [Option.guard, Sweep.isDangling, hreserved, hcommit, hvisible]

end Pin

/-! ## 2. A completed listing -/

namespace Repository

variable {config : Config} {s s' s₁ s₂ : Session} {pins : List Pin.Listed} {announces : Bool}
  {outcome : Sweep.Outcome}

/-- A listing completes when the log can be replayed and the references can be listed. -/
theorem listPins_eq_ok_iff :
    (listPins config).runOn s = (.ok pins, s₁) ↔
      s.IsOpen ∧ s.refusals.listing = false ∧
        ∃ r, EventLog.replayRows s.working.events = .ok r ∧
          let answer := EventLog.computeVisible s.working
            (EventLog.rootsOf s.working config.mainBranch r.active)
          pins = Pin.listing s.working config.pinRoot answer.1 ∧ s₁ = s.onTables answer.2 := by
  by_cases hopen : s.IsOpen
  · cases hreplay : EventLog.replayRows s.working.events with
    | error e =>
      rw [listPins, runOn_bind, visible_refused config hopen hreplay]
      simp
    | ok r =>
      rw [listPins, runOn_bind_of_ok (visible_runOn config hopen hreplay), runOn_bind,
        RefStore.list_runOn (hopen.onTables _)]
      cases hlisting : s.refusals.listing with
      | true => simp [hlisting]
      | false =>
        simp only [Session.onTables_refusals, hlisting, Bool.false_eq_true, if_false, hopen,
          true_and, Except.ok.injEq, exists_eq_left']
        rw [runOn_read (hopen.onTables _)]
        constructor
        · rintro ⟨⟩
          exact ⟨rfl, rfl⟩
        · rintro ⟨rfl, rfl⟩
          rfl
  · obtain ⟨e, s₂, hstall, _⟩ : Stalls (visible config) s := stalls_visible hopen
    rw [listPins, runOn_bind, hstall]
    simp [hopen]

/-! ## 3. The sweep after a listing -/

/-- The rows that a walk leaves in the cache make no difference to what a sweep answers. -/
theorem sweepOutcome_computeVisible (config : Config) (t : Tables) (roots : VisibleSet.Roots)
    (r : Replay) :
    sweepOutcome config (EventLog.computeVisible t roots).2 r = sweepOutcome config t r := by
  have hsame := VisibleSet.sameAnswers_compute t.objects.ancestry t.mergeBases
    t.objects.contains roots
  have hvisible := VisibleSet.compute_congr hsame t.objects.contains
    (EventLog.rootsOf t config.mainBranch r.active)
  have hanswer : (EventLog.computeVisible (EventLog.computeVisible t roots).2
      (EventLog.rootsOf t config.mainBranch r.active)).1 =
      (EventLog.computeVisible t (EventLog.rootsOf t config.mainBranch r.active)).1 :=
    hvisible.symm
  show Sweep.Outcome.mk _ _ (Sweep.classify t config.pinRoot _ t.refs.references).dangling =
    Sweep.Outcome.mk _ _ (Sweep.classify t config.pinRoot _ t.refs.references).dangling
  rw [← hanswer]
  rfl

/-- A sweep after a listing answers what it answers in place of the listing. -/
theorem outcome_of_listPins (hlist : (listPins config).runOn s = (.ok pins, s₁))
    (hs' : s' = s ∨ s' = s₁) {now : Instant}
    (hsweep : (sweep config announces).runOn (at_ s' now) = (.ok outcome, s₂)) :
    ∃ r, EventLog.replayRows s.working.events = .ok r ∧ outcome = sweepOutcome config s.working r ∧
      ∀ name, s₂.committed.refs.get? name =
        if name ∈ outcome.deleted then none else s.working.refs.get? name := by
  obtain ⟨_, _, r, hreplay, _, hs₁⟩ := listPins_eq_ok_iff.mp hlist
  obtain ⟨r', hreplay', houtcome, _⟩ := eq_of_sweep hsweep
  obtain ⟨_, _, _, hafter⟩ := deleted_of_sweep hsweep
  refine ⟨r, hreplay, ?_, ?_⟩
  · rcases hs' with rfl | rfl
    · cases hreplay.symm.trans hreplay'
      exact houtcome
    · rw [hs₁] at hreplay' houtcome
      cases hreplay.symm.trans hreplay'
      exact houtcome.trans (sweepOutcome_computeVisible config _ _ r)
  · rcases hs' with rfl | rfl
    · exact hafter
    · rw [hs₁] at hafter
      exact hafter

/-- **A listing predicts the sweep.** In every state, for references of any shape and any log: when
a listing and a sweep of the same state complete, with or without the listing made before the sweep
and whatever the time, the names that the listing shows as invisible are the names that the sweep
deletes, in the same order. Every pin that it shows as visible is there after the sweep as it was
before, and so is every reserved reference that the listing leaves out. -/
theorem listPins_predicts (hlist : (listPins config).runOn s = (.ok pins, s₁))
    (hs' : s' = s ∨ s' = s₁) {now : Instant}
    (hsweep : (sweep config announces).runOn (at_ s' now) = (.ok outcome, s₂)) :
    Pin.hidden pins = outcome.deleted ∧
      (∀ pin ∈ pins, pin.visible = true → ∃ p, s.working.refs.get? pin.ref = some p ∧
        s₂.committed.refs.get? pin.ref = some p) ∧
      ∀ name p, Reserved.isReserved config.pinRoot name = true →
        s.working.refs.get? name = some p → name ∉ pins.map (·.ref) →
        s₂.committed.refs.get? name = some p := by
  obtain ⟨_, _, r, hreplay, hpins, _⟩ := listPins_eq_ok_iff.mp hlist
  obtain ⟨r', hreplay', houtcome, hafter⟩ := outcome_of_listPins hlist hs' hsweep
  cases hreplay.symm.trans hreplay'
  let visible := (EventLog.computeVisible s.working
    (EventLog.rootsOf s.working config.mainBranch r.active)).1
  have hdeleted : outcome.deleted = (Sweep.classify s.working config.pinRoot visible
      s.working.refs.references).dangling := by
    rw [houtcome]
    rfl
  have hdangles : ∀ name, name ∈ outcome.deleted ↔
      Sweep.Dangles s.working config.pinRoot visible name := by
    rw [hdeleted]
    exact Sweep.mem_dangling_iff _ _ _
  refine ⟨?_, ?_, ?_⟩
  · rw [hdeleted, hpins]
    exact Pin.hidden_listing s.working config.pinRoot visible
  · intro pin hmem hvisible
    rw [hpins] at hmem
    obtain ⟨_, ⟨p, hget, hleads⟩, hshown⟩ := Pin.mem_listing_iff.mp hmem
    have hkept : pin.ref ∉ outcome.deleted := by
      intro hgone
      obtain ⟨_, p', commit, hget', hleads', hnot⟩ := (hdangles pin.ref).mp hgone
      cases hget.symm.trans hget'
      cases hleads.unique hleads'
      rw [hvisible] at hshown
      exact hnot (List.contains_iff_mem.mp hshown.symm)
    exact ⟨p, hget, by rw [hafter, if_neg hkept, hget]⟩
  · intro name p hreserved hget hleft
    have hkept : name ∉ outcome.deleted := by
      intro hgone
      obtain ⟨_, p', commit, hget', hleads, _⟩ := (hdangles name).mp hgone
      refine hleft (List.mem_map.mpr ⟨⟨name, commit, visible.contains commit⟩, ?_, rfl⟩)
      rw [hpins]
      exact Pin.mem_listing_iff.mpr ⟨hreserved, ⟨p', hget', hleads⟩, rfl⟩
    rw [hafter, if_neg hkept, hget]

end Repository

/-! ## 4. A listing that is followed by its sweep -/

namespace SweptTag

open CommitStore.CommitLine CommitStore.Repository

/-- The theorem at the tagged tables: the listing shows the tag as invisible, and the sweep after it
deletes the tag. -/
theorem listPins_predicts_tag :
    ∃ pins s₁ outcome s₂,
      (listPins tagsConfig).runOn (Session.start taggedTables false (second 4)) = (.ok pins, s₁) ∧
      (sweep tagsConfig true).runOn (at_ s₁ (second 5)) = (.ok outcome, s₂) ∧
      ⟨"refs/tags/abc", firstId, false⟩ ∈ pins ∧
      Pin.hidden pins = outcome.deleted ∧
      "refs/tags/abc" ∈ outcome.deleted := by
  have hopen := isOpen_start taggedTables false (second 4)
  obtain ⟨htag, hcommit, _⟩ := taggedTables_rows
  obtain ⟨r, hreplay, hactive⟩ := replayRows_taggedTables
  let answer := EventLog.computeVisible taggedTables
    (EventLog.rootsOf taggedTables tagsConfig.mainBranch r.active)
  let pins := Pin.listing taggedTables tagsConfig.pinRoot answer.1
  let s₁ := (Session.start taggedTables false (second 4)).onTables answer.2
  have hlist : (listPins tagsConfig).runOn (Session.start taggedTables false (second 4)) = (.ok pins, s₁) :=
    listPins_eq_ok_iff.mpr ⟨hopen, rfl, r, hreplay, rfl, rfl⟩
  have hopen' : (at_ s₁ (second 5)).IsOpen := hopen
  obtain ⟨outcome, hsweep⟩ := sweep_runOn hopen' rfl hreplay true
  obtain ⟨hdeleted, _⟩ := listPins_predicts hlist (Or.inr rfl) hsweep
  have hhidden : firstId ∉ answer.1 := firstId_not_visible hactive
  have hmem : ⟨"refs/tags/abc", firstId, false⟩ ∈ pins := by
    refine Pin.mem_listing_iff.mpr ⟨by decide +kernel, ⟨_, htag, ?_⟩, ?_⟩
    · exact (Pin.commitOf?_eq_some_iff _ _ _).mp hcommit
    · exact (Bool.eq_false_iff.mpr fun hvisible => hhidden (List.contains_iff_mem.mp hvisible)).symm
  refine ⟨pins, s₁, outcome, _, hlist, hsweep, hmem, hdeleted, ?_⟩
  rw [← hdeleted]
  exact Pin.mem_hidden hmem rfl

end SweptTag
end CommitStore
