import CommitStore.Session.Events
import CommitStore.Session.Objects
set_option autoImplicit false

/-!
# Actions on an open session

A session is open when its tables can be read and changed: nothing has broken it, and its tables are
not gone. On an open session every action of the tables is a function of the tables, and this module
says which one. `onTables` is the session with other tables in its open transaction; a statement
`action.runOn s = (.ok answer, s.onTables t)` tells all that an action does.

On any other session the first access to the tables fails. `Stalls` is that failure: what is
committed stays, and the open transaction stays or is undone. An action stalls if its first step
does, so each call needs only one look at where it starts.
-/

namespace CommitStore

/-! ## 1. Open sessions -/

namespace Session

/-- The tables of a session can be read and changed. -/
def IsOpen (s : Session) : Prop := s.broken = false ∧ s.isGone = false

instance (s : Session) : Decidable s.IsOpen :=
  inferInstanceAs (Decidable (s.broken = false ∧ s.isGone = false))

/-- The session with other tables in its open transaction. -/
def onTables (s : Session) (t : Tables) : Session := { s with working := t }

variable (s : Session) (t u : Tables)

@[simp] theorem onTables_working : (s.onTables t).working = t := rfl

@[simp] theorem onTables_refusals : (s.onTables t).refusals = s.refusals := rfl

@[simp] theorem onTables_now : (s.onTables t).now = s.now := rfl

@[simp] theorem onTables_onTables : (s.onTables t).onTables u = s.onTables u := rfl

@[simp] theorem isOpen_onTables : (s.onTables t).IsOpen ↔ s.IsOpen := Iff.rfl

variable {s} in
theorem IsOpen.onTables (h : s.IsOpen) : (s.onTables t).IsOpen := h

end Session

namespace Action

variable {α β : Type} {s : Session}

/-! ## 2. Steps in a row -/

@[simp] theorem runOn_pure (a : α) (s : Session) : (pure a : Action α).runOn s = (.ok a, s) := rfl

@[simp] theorem runOn_throw (e : Error) (s : Session) :
    (throw e : Action α).runOn s = (.error e, s) := rfl

theorem runOn_bind (x : Action α) (f : α → Action β) (s : Session) :
    (x >>= f).runOn s =
      match x.runOn s with
      | (.ok a, s') => (f a).runOn s'
      | (.error e, s') => (.error e, s') := by
  show (ExceptT.bind x f) s = _
  simp only [ExceptT.bind, ExceptT.mk, runOn]
  show (StateT.bind x _) s = _
  unfold StateT.bind
  simp only [bind]
  rcases x s with ⟨_ | _, _⟩ <;> rfl

theorem runOn_bind_of_ok {x : Action α} {a : α} {s s' : Session} (h : x.runOn s = (.ok a, s'))
    (f : α → Action β) : (x >>= f).runOn s = (f a).runOn s' := by
  rw [runOn_bind, h]

theorem runOn_bind_of_error {x : Action α} {e : Error} {s s' : Session}
    (h : x.runOn s = (.error e, s')) (f : α → Action β) :
    (x >>= f).runOn s = (.error e, s') := by
  rw [runOn_bind, h]

theorem runOn_tryCatch (x : Action α) (handle : Error → Action α) (s : Session) :
    (tryCatch x handle).runOn s =
      match x.runOn s with
      | (.ok a, s') => (.ok a, s')
      | (.error e, s') => (handle e).runOn s' := by
  show (ExceptT.tryCatch x handle) s = _
  simp only [ExceptT.tryCatch, ExceptT.mk, runOn]
  show (StateT.bind x _) s = _
  unfold StateT.bind
  simp only [bind, pure]
  rcases x s with ⟨_ | _, _⟩ <;> rfl

/-- Steps in a row complete when each of them does. -/
theorem runOn_bind_eq_ok_iff {x : Action α} {f : α → Action β} {b : β} {s' : Session} :
    (x >>= f).runOn s = (.ok b, s') ↔
      ∃ a s₁, x.runOn s = (.ok a, s₁) ∧ (f a).runOn s₁ = (.ok b, s') := by
  rw [runOn_bind]
  rcases x.runOn s with ⟨_ | a, s₁⟩
  · simp
  · constructor
    · exact fun h => ⟨a, s₁, rfl, h⟩
    · rintro ⟨_, _, h, h'⟩
      cases h
      exact h'

/-- Steps in a row fail when one of them does. -/
theorem runOn_bind_eq_error_iff {x : Action α} {f : α → Action β} {e : Error} {s' : Session} :
    (x >>= f).runOn s = (.error e, s') ↔
      x.runOn s = (.error e, s') ∨
        ∃ a s₁, x.runOn s = (.ok a, s₁) ∧ (f a).runOn s₁ = (.error e, s') := by
  rw [runOn_bind]
  rcases x.runOn s with ⟨_ | a, s₁⟩
  · simp
  · constructor
    · exact fun h => Or.inr ⟨a, s₁, rfl, h⟩
    · rintro (h | ⟨_, _, h, h'⟩)
      · cases h
      · cases h
        exact h'

theorem runOn_map_eq_error_iff {x : Action α} {f : α → β} {e : Error} {s' : Session} :
    (x >>= fun a => pure (f a)).runOn s = (.error e, s') ↔ x.runOn s = (.error e, s') := by
  rw [runOn_bind_eq_error_iff]
  constructor
  · rintro (h | ⟨_, _, _, h⟩)
    · exact h
    · cases h
  · exact Or.inl

/-! ## 3. The tables of an open session -/

@[simp] theorem runOn_now (s : Session) : Action.now.runOn s = (.ok s.now, s) := rfl

@[simp] theorem runOn_refusals (s : Session) : Action.refusals.runOn s = (.ok s.refusals, s) := rfl

theorem runOn_read (h : s.IsOpen) (look : Tables → α) :
    (read look).runOn s = (.ok (look s.working), s) := by
  show (if s.broken then _ else if s.isGone then _ else _) = _
  rw [h.1, h.2]
  rfl

theorem runOn_changeUnless (h : s.IsOpen) (refusal : Error)
    (edit : Tables → Option (α × Tables)) :
    (changeUnless refusal edit).runOn s =
      match edit s.working with
      | some (a, t) => (.ok a, s.onTables t)
      | none => (.error refusal, s.failed) := by
  have hbroken : ¬ s.broken = true := by simp [h.1]
  have hgone : ¬ s.isGone = true := by simp [h.2]
  show (if s.broken then _ else if s.isGone then _ else _) = _
  rw [if_neg hbroken, if_neg hgone]
  rfl

theorem runOn_change (h : s.IsOpen) (edit : Tables → Option (α × Tables)) :
    (change edit).runOn s =
      match edit s.working with
      | some (a, t) => (.ok a, s.onTables t)
      | none => (.error (.database .integrity), s.failed) :=
  runOn_changeUnless h _ edit

theorem runOn_update (h : s.IsOpen) (edit : Tables → Tables) :
    (update edit).runOn s = (.ok (), s.onTables (edit s.working)) :=
  runOn_change h _

theorem runOn_commit (h : s.IsOpen) : Action.commit.runOn s = (.ok (), s.committing) := by
  show (if s.broken then _ else _) = _
  rw [h.1]
  rfl

theorem runOn_accessing (operation : String) (name : Option RefName) (x : Action α) (s : Session) :
    (accessing operation name x).runOn s =
      match x.runOn s with
      | (.error (.database _), s) => (.error (.storeAccess operation name .database), s)
      | answer => answer := rfl

/-- What completes is not affected by how its errors are reported. -/
theorem runOn_accessing_eq_ok_iff {operation : String} {name : Option RefName} {x : Action α}
    {a : α} {s' : Session} :
    (accessing operation name x).runOn s = (.ok a, s') ↔ x.runOn s = (.ok a, s') := by
  rw [runOn_accessing]
  rcases x.runOn s with ⟨e | b, s₁⟩
  · cases e <;> simp
  · simp

theorem runOn_accessing_read (h : s.IsOpen) (operation : String) (name : Option RefName)
    (look : Tables → α) :
    (accessing operation name (read look)).runOn s = (.ok (look s.working), s) := by
  rw [runOn_accessing_eq_ok_iff]
  exact runOn_read h look

/-! ## 4. Actions that only look -/

/-- An action leaves every session as it is, whether it answers or fails. -/
def Looks (x : Action α) : Prop := ∀ s, (x.runOn s).2 = s

theorem looks_pure (a : α) : Looks (pure a : Action α) := fun _ => rfl

theorem looks_throw (e : Error) : Looks (throw e : Action α) := fun _ => rfl

theorem looks_read (look : Tables → α) : Looks (read look) := by
  intro s
  show (if s.broken then _ else if s.isGone then _ else _ : Except Error α × Session).2 = s
  split
  · rfl
  · split <;> rfl

theorem Looks.bind {x : Action α} (hx : Looks x) {f : α → Action β} (hf : ∀ a, Looks (f a)) :
    Looks (x >>= f) := by
  intro s
  have hs := hx s
  rw [runOn_bind]
  rcases hrun : x.runOn s with ⟨_ | a, s'⟩
  · rw [hrun] at hs
    exact hs
  · rw [hrun] at hs
    obtain rfl : s' = s := hs
    exact hf a s'

theorem Looks.accessing {x : Action α} (hx : Looks x) (operation : String)
    (name : Option RefName) : Looks (accessing operation name x) := by
  intro s
  have hs := hx s
  rw [runOn_accessing]
  rcases hrun : x.runOn s with ⟨e | a, s'⟩
  · rw [hrun] at hs
    cases e <;> exact hs
  · rw [hrun] at hs
    exact hs

theorem Looks.eq_of_runOn {x : Action α} (hx : Looks x) {s s' : Session} {answer : Except Error α}
    (hrun : x.runOn s = (answer, s')) : s' = s := by
  rw [← hx s, hrun]

/-! ## 5. Sessions that are not open -/

/-- An action fails on a session, leaves what is committed as it is, and leaves the open transaction
as it is or undone. -/
def Stalls (x : Action α) (s : Session) : Prop :=
  ∃ e s', x.runOn s = (.error e, s') ∧ s'.committed = s.committed ∧
    (s'.working = s.working ∨ s'.working = s.committed) ∧ s'.refusals = s.refusals

theorem Stalls.bind {x : Action α} (h : Stalls x s) (f : α → Action β) : Stalls (x >>= f) s := by
  obtain ⟨e, s', hrun, hrest⟩ := h
  refine ⟨e, s', ?_, hrest⟩
  rw [runOn_bind, hrun]

theorem Stalls.bind_of_ok {x : Action α} {a : α} (hx : x.runOn s = (.ok a, s)) {f : α → Action β}
    (h : Stalls (f a) s) : Stalls (x >>= f) s := by
  obtain ⟨e, s', hrun, hrest⟩ := h
  exact ⟨e, s', (runOn_bind_of_ok hx f).trans hrun, hrest⟩

theorem Stalls.of_runOn {x y : Action α} (hxy : x.runOn s = y.runOn s) (h : Stalls y s) :
    Stalls x s := by
  obtain ⟨e, s', hrun, hrest⟩ := h
  exact ⟨e, s', hxy.trans hrun, hrest⟩

theorem Stalls.accessing {x : Action α} (h : Stalls x s) (operation : String)
    (name : Option RefName) : Stalls (accessing operation name x) s := by
  obtain ⟨e, s', hrun, hrest⟩ := h
  rw [Stalls]
  simp only [runOn_accessing, hrun]
  cases e <;> exact ⟨_, s', rfl, hrest⟩

theorem stalls_throw (e : Error) (s : Session) : Stalls (throw e : Action α) s :=
  ⟨e, s, rfl, rfl, Or.inl rfl, rfl⟩

/-- A session that is not open answers every look at its tables with a fault of the database. -/
theorem runOn_read_closed (h : ¬ s.IsOpen) (look : Tables → α) :
    ∃ fault, (read look).runOn s = (.error (.database fault), s) := by
  by_cases hbroken : s.broken = true
  · refine ⟨.pendingRollback, ?_⟩
    show (if s.broken then _ else _) = _
    rw [if_pos hbroken]
  · have hgone : s.isGone = true := by
      simpa using fun hgone => h ⟨by simpa using hbroken, hgone⟩
    refine ⟨.unavailable, ?_⟩
    show (if s.broken then _ else if s.isGone then _ else _) = _
    rw [if_neg hbroken, if_pos hgone]

theorem stalls_read (h : ¬ s.IsOpen) (look : Tables → α) : Stalls (read look) s := by
  obtain ⟨fault, hrun⟩ := runOn_read_closed h look
  exact ⟨.database fault, s, hrun, rfl, Or.inl rfl, rfl⟩

end Action
end CommitStore
