import CommitStore.Proofs.NameGrammar
import CommitStore.Proofs.ReplayedEvents
import CommitStore.Proofs.ReservedNames
set_option autoImplicit false

/-!
# Pinning an object

Three checks decide on a pin, and the store may bring one more. The name has to be reserved, which a
newline behind the digits does not prevent; it must have no fault, and a newline is one; and the
object has to be stored. Together the first two ask for an id of digits alone
(`Pin.refusal?_eq_none_iff`), so what is pinned under a name is what the name says.

Whatever stood under the name, a pin writes the reference over it, tells of that in the journal and
leaves everything else alone. A second pin writes what is there. A pin that fails changes nothing.
-/

namespace CommitStore

open CommitStore.Action

/-! ## 1. Names of pins -/

theorem RefName.not_mem_of_noFault {name : RefName} (h : fault? name = none) {c : Char}
    (hc : c.toNat < 0x20) : c ∉ name.toList := by
  intro hmem
  have hvisible : 0x20 ≤ c.toNat := by
    rcases (fault?_eq_none_iff name).mp h with rfl | hpath
    · have hhead : head.toList.all (fun c => decide (0x20 ≤ c.toNat)) = true := by decide
      exact of_decide_eq_true (List.all_eq_true.mp hhead c hmem)
    · exact (hpath.chars c hmem).1
  omega

theorem Reserved.isReserved_pinName_iff (root : String) (oid : Oid) :
    isReserved root (pinName root oid) = true ↔ IsLine oid := by
  have hunder : IsUnder root oid (pinName root oid) := (isUnder_iff _ _ _).mpr rfl
  rw [isReserved_iff]
  constructor
  · rintro ⟨rest, hrest, hline⟩
    exact hunder.unique hrest ▸ hline
  · intro hline
    exact ⟨oid, hunder, hline⟩

/-- Of the names under a root without a fault, those of digits alone are reserved. -/
theorem Reserved.isReserved_pinName_iff_isHex {root : String} {oid : Oid}
    (h : RefName.fault? (pinName root oid) = none) :
    isReserved root (pinName root oid) = true ↔ IsHex oid := by
  rw [isReserved_pinName_iff]
  refine or_iff_left ?_
  rintro ⟨digits, _, rfl⟩
  refine RefName.not_mem_of_noFault h (c := '\n') (by decide) ?_
  rw [pinName, String.toList_ofList, String.toList_append]
  simp

/-- A map does not change when a name is set to what it is mapped to. -/
theorem NameMap.insert_eq_self {α : Type} {m : NameMap α} {name : String} {value : α}
    (h : m.get? name = some value) : m.insert name value = m := by
  refine NameMap.ext_get? fun other => ?_
  rw [get?_insert]
  split
  · next hsame => rw [hsame, h]
  · rfl

/-! ## 2. What a pin does -/

/-- Where the tables cannot be read, a reference with a valid name is not written. -/
theorem RefStore.put_closed {s : Session} (h : ¬ s.IsOpen) {name : RefName}
    (hname : RefName.fault? name = none) (oid : Oid) (message : String) :
    (put name oid message).runOn s =
      (.error (.storeAccess "create reference" (some name) .database), s) := by
  obtain ⟨fault, hread⟩ := runOn_read_closed h fun t => t.objects.contains oid
  rw [put, hname]
  dsimp only
  rw [runOn_accessing, runOn_bind_of_error hread]

namespace Pin

/-- An id can be pinned under a root, as far as names go: it is digits alone, and the name of its pin
has no fault and passes a check. -/
structure Nameable (check : RefName → Bool) (root : String) (oid : Oid) : Prop where
  digits : Reserved.IsHex oid
  noFault : RefName.fault? (Reserved.pinName root oid) = none
  passes : check (Reserved.pinName root oid) = true

variable {check : RefName → Bool} {root : String} {oid : Oid} {s : Session}

theorem refusal?_eq_none_iff :
    refusal? (check (Reserved.pinName root oid)) root oid = none ↔ Nameable check root oid := by
  rw [refusal?]
  constructor
  · intro h
    by_cases hreserved : Reserved.isReserved root (Reserved.pinName root oid) = true
    · rw [if_pos hreserved] at h
      cases hfault : RefName.fault? (Reserved.pinName root oid) with
      | some fault =>
        rw [hfault] at h
        cases h
      | none =>
        rw [hfault] at h
        cases hpasses : check (Reserved.pinName root oid) with
        | false =>
          rw [hpasses] at h
          cases h
        | true =>
          exact ⟨(Reserved.isReserved_pinName_iff_isHex hfault).mp hreserved, hfault, hpasses⟩
    · rw [if_neg hreserved] at h
      cases h
  · rintro ⟨hdigits, hfault, hpasses⟩
    rw [if_pos ((Reserved.isReserved_pinName_iff_isHex hfault).mpr hdigits), hfault, hpasses]
    rfl

/-- Pinning with a check that only looks at the name. -/
def markPassing (check : RefName → Bool) (root : String) (oid : Oid) (message : String) :
    Action RefName := markChecked (fun name => pure (check name)) root oid message

theorem markPassing_named (h : Nameable check root oid) (message : String) (s : Session) :
    (markPassing check root oid message).runOn s =
      (RefStore.put (Reserved.pinName root oid) oid message >>= fun _ =>
        pure (Reserved.pinName root oid)).runOn s := by
  rw [markPassing, markChecked_runOn (runOn_pure _ s), refusal?_eq_none_iff.mpr h]

/-- What can come of a pin. -/
inductive Outcome (check : RefName → Bool) (root : String) (oid : Oid) (message : String)
    (s : Session) : Except Error RefName × Session → Prop
  | marked (hname : Nameable check root oid) (hopen : s.IsOpen)
      (hstored : s.working.objects.contains oid = true) :
      Outcome check root oid message s (.ok (Reserved.pinName root oid),
        s.onTables (s.working.writeDirect (Reserved.pinName root oid) oid (some message) s.now))
  | notStored (hname : Nameable check root oid) (hopen : s.IsOpen)
      (hmissing : ¬ s.working.objects.contains oid = true) :
      Outcome check root oid message s (.error (.objectNotFound oid), s)
  | unreadable (hname : Nameable check root oid) (hclosed : ¬ s.IsOpen) :
      Outcome check root oid message s
        (.error (.storeAccess "create reference" (some (Reserved.pinName root oid)) .database), s)
  | refused (hname : ¬ Nameable check root oid) (reason : Reason) :
      Outcome check root oid message s
        (.error (.invalidReferenceName (Reserved.pinName root oid) reason), s)

/-- **The checks of a pin, one after the other.** -/
theorem outcome_markPassing (check : RefName → Bool) (root : String) (oid : Oid)
    (message : String) (s : Session) :
    Outcome check root oid message s ((markPassing check root oid message).runOn s) := by
  by_cases hname : Nameable check root oid
  · rw [markPassing_named hname, runOn_bind]
    by_cases hopen : s.IsOpen
    · rw [RefStore.put_runOn hopen, hname.noFault]
      dsimp only
      by_cases hstored : s.working.objects.contains oid = true
      · rw [if_pos hstored]
        exact .marked hname hopen hstored
      · rw [if_neg hstored]
        exact .notStored hname hopen hstored
    · rw [RefStore.put_closed hopen hname.noFault]
      exact .unreadable hname hopen
  · obtain ⟨reason, hreason⟩ := Option.ne_none_iff_exists'.mp (mt refusal?_eq_none_iff.mp hname)
    rw [markPassing, markChecked_runOn (runOn_pure _ s), hreason]
    exact .refused hname reason

theorem markPassing_runOn (hname : Nameable check root oid) (hopen : s.IsOpen)
    (hstored : s.working.objects.contains oid = true) (message : String) :
    (markPassing check root oid message).runOn s = (.ok (Reserved.pinName root oid),
      s.onTables (s.working.writeDirect (Reserved.pinName root oid) oid (some message) s.now)) := by
  have houtcome := outcome_markPassing check root oid message s
  generalize (markPassing check root oid message).runOn s = answered at houtcome ⊢
  cases houtcome with
  | marked => rfl
  | notStored _ _ hmissing => exact absurd hstored hmissing
  | unreadable _ hclosed => exact absurd hopen hclosed
  | refused hnot => exact absurd hname hnot

/-- What a pin makes of the tables: one reference points at the object, and one row of the journal
tells of it. -/
structure Marks (name : RefName) (oid : Oid) (message : String) (now : Instant) (t t' : Tables) :
    Prop where
  marked : t'.refs.get? name = some (.direct oid)
  others : ∀ other, other ≠ name → t'.refs.get? other = t.refs.get? other
  journal : t'.journal =
    t.journal ++ [⟨name, (t.refs.get? name).bind (·.target), some oid, some message, now⟩]
  objects : t'.objects = t.objects
  log : t'.transactions = t.transactions ∧ t'.events = t.events
  rest : t'.mergeBases = t.mergeBases ∧ t'.schemaVersion = t.schemaVersion

theorem marks_writeDirect (t : Tables) (name : RefName) (oid : Oid) (message : String)
    (now : Instant) : Marks name oid message now t (t.writeDirect name oid (some message) now) where
  marked := (t.refs.get?_insert _ _ _).trans (if_pos rfl)
  others _ hother := (t.refs.get?_insert _ _ _).trans (if_neg hother)
  journal := rfl
  objects := rfl
  log := ⟨rfl, rfl⟩
  rest := ⟨rfl, rfl⟩

/-- A pin that is there is written over with itself. -/
theorem Marks.again {name : RefName} {message : String} {now : Instant} {t t' : Tables}
    (h : Marks name oid message now t t') (message' : Option String) (now' : Instant) :
    (t'.writeDirect name oid message' now').refs = t'.refs := NameMap.insert_eq_self h.marked

/-- **What pinning does.** For every root, id, message and check of names, and in every session.
Pinning an object completes on an open session if and only if the id is hexadecimal digits, the name
of the pin has no fault and passes the check, and the object is stored. Then the answer is that
name, the root without the slashes at its end, a slash and the id; the reference of that name points
at the object, whatever stood there; one row with the message is added to the journal; and all else
is as it was. Pinning again, at any later time on these references, with any message, completes and
changes no reference. A pin that fails leaves the session as it was; a name that cannot be is to
blame if there is one, otherwise an object that is not stored, and the database only where the
tables cannot be read. The store's own check is the one that goes for valid names unless the store
refuses all. -/
theorem mark_exact (check : RefName → Bool) (root : String) (oid : Oid) (message : String)
    (s : Session) :
    let name := Reserved.pinName root oid
    let run := (markPassing check root oid message).runOn s
    (s.IsOpen → ((∃ answer s', run = (.ok answer, s')) ↔
      Nameable check root oid ∧ s.working.objects.contains oid = true)) ∧
    (∀ answer s', run = (.ok answer, s') → answer = name ∧ Reserved.IsUnder root oid name ∧
      ∃ t', s' = s.onTables t' ∧ Marks name oid message s.now s.working t' ∧
        ∀ u : Session, u.IsOpen → u.working = t' → ∀ message', ∃ u',
          (markPassing check root oid message').runOn u = (.ok name, u') ∧
            u'.working.refs = t'.refs) ∧
    (∀ e s', run = (.error e, s') → s' = s ∧
      (¬ Nameable check root oid → ∃ reason, e = .invalidReferenceName name reason) ∧
      (Nameable check root oid → s.IsOpen → e = .objectNotFound oid) ∧
      (Nameable check root oid → ¬ s.IsOpen →
        e = .storeAccess "create reference" (some name) .database)) ∧
    (check name = (!s.refusals.names && RefName.isValid name) →
      (mark root oid message).runOn s = run) := by
  intro name run
  have houtcome : Outcome check root oid message s run := outcome_markPassing _ _ _ _ _
  have hfails (e : Error) (s₁ : Session) : ¬ ∃ answer s',
      ((.error e, s₁) : Except Error RefName × Session) = (.ok answer, s') := by
    rintro ⟨_, _, h⟩
    cases h
  refine ⟨?_, ?_, ?_, ?_⟩
  · intro hopen
    generalize run = answered at houtcome
    cases houtcome with
    | marked hname _ hstored => exact iff_of_true ⟨_, _, rfl⟩ ⟨hname, hstored⟩
    | notStored _ _ hmissing => exact iff_of_false (hfails _ _) fun h => hmissing h.2
    | unreadable _ hclosed => exact absurd hopen hclosed
    | refused hname => exact iff_of_false (hfails _ _) fun h => hname h.1
  · intro answer s' hrun
    rw [hrun] at houtcome
    obtain ⟨hname, hopen, hstored⟩ := houtcome
    have hmarks := marks_writeDirect s.working name oid message s.now
    refine ⟨rfl, (Reserved.isUnder_iff _ _ _).mpr rfl, _, rfl, hmarks, ?_⟩
    rintro u huopen hworking message'
    have hkept : u.working.objects.contains oid = true := by rwa [hworking]
    refine ⟨_, markPassing_runOn hname huopen hkept message', ?_⟩
    rw [Session.onTables_working, hworking]
    exact hmarks.again (some message') u.now
  · intro e s' hrun
    rw [hrun] at houtcome
    cases houtcome with
    | notStored hname hopen =>
      exact ⟨rfl, fun h => absurd hname h, fun _ _ => rfl, fun _ h => absurd hopen h⟩
    | unreadable hname hclosed =>
      exact ⟨rfl, fun h => absurd hname h, fun _ h => absurd h hclosed, fun _ _ => rfl⟩
    | refused hname reason =>
      exact ⟨rfl, fun _ => ⟨reason, rfl⟩, fun h => absurd h hname, fun h => absurd h hname⟩
  · intro hcheck
    show _ = (markPassing check root oid message).runOn s
    rw [mark, markChecked_runOn (RefStore.acceptsName_runOn name s), markPassing,
      markChecked_runOn (runOn_pure _ s), hcheck]

/-- The theorem at a name that another reference leads from, under a root with slashes at its end:
the symbolic reference is written over, and a second pin completes as well. -/
theorem mark_exact_symbolic :
    let s := Session.start Sweep.crowdedTables false default
    let check := fun name => name != "refs/branchless/b"
    let name := "refs/branchless/ab"
    let t := s.working.withObject { oid := "ab", kind := .commit, createdAt := default }
    ∃ t', (markPassing check "refs/branchless//" "ab" "keep").runOn (s.onTables t) =
        (.ok name, s.onTables t') ∧
      t.refs.get? name = some (.toName "refs/branchless/aa") ∧
      t'.refs.get? name = some (.direct "ab") ∧
      ∃ u, (markPassing check "refs/branchless//" "ab" "again").runOn (s.onTables t') = (.ok name, u) ∧
        u.working.refs = t'.refs := by
  intro s check name t
  have hname : Reserved.pinName "refs/branchless//" "ab" = name := by decide
  have hchecks : RefName.fault? (Reserved.pinName "refs/branchless//" "ab") = none ∧
      check (Reserved.pinName "refs/branchless//" "ab") = true ∧
      t.objects.contains "ab" = true := by decide +kernel
  have hdigits : Reserved.IsHex "ab" := ⟨by decide, List.all_eq_true.mp (by decide)⟩
  have hopen : (s.onTables t).IsOpen := ⟨rfl, rfl⟩
  obtain ⟨hcompletes, heffect, _⟩ := mark_exact check "refs/branchless//" "ab" "keep" (s.onTables t)
  obtain ⟨answer, s', hrun⟩ :=
    (hcompletes hopen).mpr ⟨⟨hdigits, hchecks.1, hchecks.2.1⟩, hchecks.2.2⟩
  obtain ⟨rfl, _, t', rfl, hmarks, hagain⟩ := heffect answer s' hrun
  obtain ⟨u, hu, hrefs⟩ := hagain (s.onTables t') ⟨rfl, rfl⟩ rfl "again"
  rw [hname] at hrun hu hmarks
  exact ⟨t', hrun, by decide +kernel, hmarks.marked, u, hu, hrefs⟩

end Pin
end CommitStore
