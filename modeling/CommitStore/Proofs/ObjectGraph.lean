import CommitStore.Proofs.ObjectGrowth
import Mathlib.Data.List.Chain
set_option autoImplicit false

/-!
# Tags and first parents come to an end

Taking off tags and following first parents are loops without a bound: each goes on to what the
object names, for as long as there is something. `PeelsOff` (in `Proofs/Resolution`) and
`FollowsFirst` are these loops, so a derivation is a run that ends. The bounded functions of the
model answer what the loops answer, because what an object names was stored before it.

`run_objectGraph` states this for every history. So the references that a sweep looks at lead to tags
that end, whatever calls have written them (`run_tagsEnd`).
-/

namespace CommitStore

open CommitStore.Action
open CommitStore.Repository

namespace ObjectStore

variable {s : ObjectStore}

/-! ## 1. Taking off tags -/

theorem IsOrdered.exists_peelsOff (h : s.IsOrdered) (oid : Oid) :
    ∃ result, s.PeelsOff oid result := by
  -- What a tag names was stored before it.
  induction hrank : s.rank oid using Nat.strongRecOn generalizing oid with
  | ind rank ih =>
    rcases s.peel_look oid with ⟨o, target, hget, hkind, htarget, _⟩ | ⟨result, hpeels, _⟩
    · obtain ⟨_, _, hlt⟩ := h.targets oid o target hget htarget
      obtain ⟨result, hrest⟩ := ih (s.rank target) (by omega) target rfl
      exact ⟨result, .tag hget hkind htarget hrest⟩
    · exact ⟨result, hpeels⟩

/-- **The tags around every id come to an end**, and the bounded search finds it. -/
theorem IsOrdered.peelsOff (h : s.IsOrdered) (oid : Oid) : s.PeelsOff oid (s.peel oid) :=
  peelsOff_peel (h.exists_peelsOff oid)

theorem IsOrdered.peel_tag (h : s.IsOrdered) {oid target : Oid} {o : StoredObject}
    (hget : s.get? oid = some o) (hkind : o.kind = .tag) (htarget : o.target = some target) :
    s.peel oid = s.peel target :=
  (h.peelsOff oid).unique (.tag hget hkind htarget (h.peelsOff target))

/-! ## 2. First parents -/

theorem rank_lt_length_iff {oid : Oid} :
    s.rank oid < s.objects.length ↔ s.contains oid = true := by
  rw [rank, ← List.length_map (·.oid), List.idxOf_lt_length_iff, contains_iff_mem]

/-- A run of the loop that follows first parents and collects the commits. -/
inductive FollowsFirst (s : ObjectStore) : Option Oid → List CommitInfo → Prop
  | nowhere : FollowsFirst s none []
  | noCommit {oid : Oid} (hcommit : s.commit? oid = none) : FollowsFirst s (some oid) []
  | commit {oid : Oid} {c : CommitInfo} {rest : List CommitInfo} (hcommit : s.commit? oid = some c)
      (hrest : FollowsFirst s c.parents.head? rest) : FollowsFirst s (some oid) (c :: rest)

theorem commit?_eq_some {oid : Oid} {c : CommitInfo} (h : s.commit? oid = some c) :
    s.isCommit oid = true ∧ c.oid = oid ∧ c.parents = s.parents oid := by
  unfold commit? at h
  cases hget : s.get? oid with
  | none =>
    rw [hget] at h
    cases h
  | some o =>
    rw [hget] at h
    dsimp only at h
    split at h
    · next hkind =>
      cases h
      exact ⟨isCommit_iff.mpr ⟨o, hget, hkind⟩, get?_oid hget, by rw [get?_oid hget]⟩
    · cases h

theorem commit?_isSome_iff {oid : Oid} : (s.commit? oid).isSome = true ↔ s.isCommit oid = true := by
  unfold commit? isCommit
  cases s.get? oid with
  | none => simp
  | some o => cases hkind : o.kind <;> simp [hkind]

theorem commit?_eq_none_iff {oid : Oid} : s.commit? oid = none ↔ s.isCommit oid = false := by
  rw [← Bool.not_eq_true, ← commit?_isSome_iff, Option.not_isSome_iff_eq_none]

theorem IsOrdered.followsFirst_firstParents (h : s.IsOrdered) {count : Nat} {start : Option Oid}
    (hcount : ∀ oid, start = some oid → s.isCommit oid = true → s.rank oid < count) :
    s.FollowsFirst start (s.firstParents count start) := by
  induction count generalizing start with
  | zero =>
    cases start with
    | none => exact .nowhere
    | some oid =>
      refine .noCommit (commit?_eq_none_iff.mpr ?_)
      rw [Bool.eq_false_iff]
      exact fun hcommit => absurd (hcount oid rfl hcommit) (Nat.not_lt_zero _)
  | succ count ih =>
    cases start with
    | none => exact .nowhere
    | some oid =>
      rw [firstParents]
      cases hcommit : s.commit? oid with
      | none => exact .noCommit hcommit
      | some c =>
        obtain ⟨hstored, _, hparents⟩ := commit?_eq_some hcommit
        refine .commit hcommit (ih ?_)
        intro parent hfirst _
        -- The first parent was stored before the commit.
        have hmem : parent ∈ s.parents oid := hparents ▸ List.mem_of_head? hfirst
        have hlt := (h.parents oid parent hmem).2.2
        have := hcount oid rfl hstored
        omega

/-- **First parents come to an end**, within as many commits as there are objects. -/
theorem IsOrdered.followsFirst (h : s.IsOrdered) (start : Option Oid) :
    s.FollowsFirst start (s.firstParents s.objects.length start) := by
  refine h.followsFirst_firstParents ?_
  intro oid _ hcommit
  exact rank_lt_length_iff.mpr (contains_of_isCommit hcommit)

namespace FollowsFirst

variable {start : Option Oid} {chain : List CommitInfo}

/-- A limit cuts the chain off. -/
theorem firstParents_eq_take (h : s.FollowsFirst start chain) (count : Nat) :
    s.firstParents count start = chain.take count := by
  induction h generalizing count with
  | nowhere => cases count <;> rfl
  | noCommit hcommit =>
    cases count with
    | zero => rfl
    | succ count => rw [firstParents, hcommit, List.take_nil]
  | commit hcommit _ ih =>
    cases count with
    | zero => rfl
    | succ count => rw [firstParents, hcommit, List.take_succ_cons, ← ih]

theorem head?_oid (h : s.FollowsFirst start chain) {c : CommitInfo} (hfirst : chain.head? = some c) :
    start = some c.oid := by
  cases h with
  | nowhere => cases hfirst
  | noCommit _ => cases hfirst
  | commit hcommit _ =>
    cases hfirst
    rw [(commit?_eq_some hcommit).2.1]

theorem exists_head? (h : s.FollowsFirst start chain) {oid : Oid} (hstart : start = some oid)
    (hcommit : s.isCommit oid = true) : ∃ c, chain.head? = some c := by
  subst hstart
  cases h with
  | noCommit hnone =>
    rw [commit?_eq_none_iff, hcommit] at hnone
    cases hnone
  | commit _ _ => exact ⟨_, rfl⟩

theorem commit?_of_mem (h : s.FollowsFirst start chain) {c : CommitInfo} (hc : c ∈ chain) :
    s.commit? c.oid = some c := by
  induction h with
  | nowhere => cases hc
  | noCommit _ => cases hc
  | commit hcommit _ ih =>
    rcases List.mem_cons.mp hc with rfl | hrest
    · rw [(commit?_eq_some hcommit).2.1]
      exact hcommit
    · exact ih hrest

/-- Each commit is the first parent of the one before it. -/
theorem isChain (h : s.FollowsFirst start chain) :
    chain.IsChain fun c next => c.parents.head? = some next.oid := by
  induction h with
  | nowhere => exact .nil
  | noCommit _ => exact .nil
  | commit _ hrest ih =>
    refine List.isChain_cons.mpr ⟨?_, ih⟩
    intro next hnext
    exact hrest.head?_oid hnext

/-- The chain ends at a commit without parents, because parents are commits. -/
theorem parents_last (h : s.FollowsFirst start chain) (hordered : s.IsOrdered) {c : CommitInfo}
    (hlast : chain.getLast? = some c) : c.parents = [] := by
  induction h with
  | nowhere => cases hlast
  | noCommit _ => cases hlast
  | @commit oid first rest hcommit hrest ih =>
    cases rest with
    | cons next rest => exact ih (by simpa using hlast)
    | nil =>
      obtain rfl : first = c := Option.some.inj hlast
      cases hparents : first.parents with
      | nil => rfl
      | cons parent others =>
        have hmem : parent ∈ s.parents oid := by
          rw [← (commit?_eq_some hcommit).2.2, hparents]
          exact List.mem_cons_self
        obtain ⟨c, hc⟩ := hrest.exists_head? (by rw [hparents]; rfl)
          (hordered.parents oid parent hmem).2.1
        cases hc

/-- No commit of the chain was stored after the one at which it starts. -/
theorem rank_le (h : s.FollowsFirst start chain) (hordered : s.IsOrdered) {c : CommitInfo}
    (hc : c ∈ chain) : ∃ oid, start = some oid ∧ s.rank c.oid ≤ s.rank oid := by
  induction h with
  | nowhere => cases hc
  | noCommit _ => cases hc
  | @commit oid first rest hcommit _ ih =>
    obtain ⟨_, hoid, hparents⟩ := commit?_eq_some hcommit
    refine ⟨oid, rfl, ?_⟩
    rcases List.mem_cons.mp hc with rfl | hrest
    · rw [hoid]
    · obtain ⟨parent, hfirst, hle⟩ := ih hrest
      have hmem : parent ∈ s.parents oid := hparents ▸ List.mem_of_head? hfirst
      exact hle.trans (hordered.parents oid parent hmem).2.2.le

theorem nodup (h : s.FollowsFirst start chain) (hordered : s.IsOrdered) :
    (chain.map (·.oid)).Nodup := by
  induction h with
  | nowhere => exact List.nodup_nil
  | noCommit _ => exact List.nodup_nil
  | @commit oid first rest hcommit hrest ih =>
    obtain ⟨_, hoid, hparents⟩ := commit?_eq_some hcommit
    rw [List.map_cons, List.nodup_cons]
    refine ⟨fun hmem => ?_, ih⟩
    obtain ⟨c, hc, hsame⟩ := List.mem_map.mp hmem
    obtain ⟨parent, hfirst, hle⟩ := hrest.rank_le hordered hc
    have hparent : parent ∈ s.parents oid := hparents ▸ List.mem_of_head? hfirst
    have hlt := (hordered.parents oid parent hparent).2.2
    rw [hsame, hoid] at hle
    omega

end FollowsFirst

end ObjectStore

/-! ## 3. Histories -/

/-- Where the head resolves to. -/
def Tables.HeadAt (t : Tables) (oid : Oid) : Prop :=
  ∃ p, t.refs.get? RefName.head = some p ∧ t.refs.resolve (p.named RefName.head) = .ok oid

/-- A list of commits is the history of the head along first parents. -/
structure Tables.IsLog (t : Tables) (chain : List CommitInfo) : Prop where
  ends : t.objects.FollowsFirst (RefStore.headOf t.refs) chain
  empty : (∀ oid, t.HeadAt oid → t.objects.isCommit oid = false) → chain = []
  first : ∀ oid, t.HeadAt oid → t.objects.isCommit oid = true →
    (chain.head?.map (·.oid)) = some oid
  entries : ∀ c ∈ chain, t.objects.commit? c.oid = some c
  next : chain.IsChain fun c next => c.parents.head? = some next.oid
  last : ∀ c, chain.getLast? = some c → c.parents = []
  nodup : (chain.map (·.oid)).Nodup

/-- What a peel answers. -/
def ObjectStore.Peeled.answer : Peeled → Except Error (Option Oid)
  | .commit oid => .ok (some oid)
  | .noCommit | .endless => .ok none
  | .missing oid => .error (.objectNotFound oid)

theorem Tables.Grown.isLog {hashed : String → Prop} {t : Tables} (h : t.Grown hashed) :
    t.IsLog (t.objects.firstParents t.objects.objects.length (RefStore.headOf t.refs)) := by
  have hordered := h.objects.order
  have hends := hordered.followsFirst (RefStore.headOf t.refs)
  refine ⟨hends, ?_, ?_, fun c => hends.commit?_of_mem, hends.isChain,
    fun c => hends.parents_last hordered, hends.nodup hordered⟩
  · intro hnone
    cases hchain : t.objects.firstParents t.objects.objects.length (RefStore.headOf t.refs) with
    | nil => rfl
    | cons c rest =>
      rw [hchain] at hends
      have hhead : RefStore.headOf t.refs = some c.oid := hends.head?_oid rfl
      have hcommit := ObjectStore.commit?_isSome_iff.mp
        (Option.isSome_of_eq_some (hends.commit?_of_mem List.mem_cons_self))
      rw [hnone c.oid (h.refs.headOf_eq_some_iff.mp hhead)] at hcommit
      cases hcommit
  · intro oid hoid hcommit
    have hhead : RefStore.headOf t.refs = some oid := h.refs.headOf_eq_some_iff.mpr hoid
    obtain ⟨c, hc⟩ := hends.exists_head? hhead hcommit
    rw [hc, Option.map_some, ← hends.head?_oid hc, hhead]

namespace Repository

theorem readLog_runOn {u : Session} (h : u.IsOpen) (limit : Option Int) :
    (log limit).runOn u = (.ok (u.working.objects.firstParents
      ((limit.map Int.toNat).getD u.working.objects.objects.length)
      (RefStore.headOf u.working.refs)), u) := by
  rw [log, runOn_bind_of_ok (RefStore.head_runOn h), runOn_read h]

/-- **The graph of the stored objects.** After any history on a new repository, in the committed
tables and in those of the open transaction: parents are commits and targets of tags are stored, and
both come before the object that names them, in the order in which objects were stored. So every run
that takes off tags ends, and a tag leads where its target leads; and a log without a limit ends. It
is the chain of first parents of the head, and a limit cuts it off. The texts hashed on the way are
taken to have different digests. -/
theorem run_objectGraph (config : Config) (history : List (Instant × Call)) (durable : Bool)
    (start : Instant)
    (hdistinct : ∀ a ∈ hashedTexts config history (Session.start .empty durable start),
      ∀ b ∈ hashedTexts config history (Session.start .empty durable start),
        Sha256.hexOfText a = Sha256.hexOfText b → a = b) :
    let first := Session.start .empty durable start
    let s := (run config history first).2
    ∀ t, t = s.committed ∨ t = s.working →
      t.objects.IsOrdered ∧
      (∀ earlier later, history = earlier ++ later →
        (run config earlier first).2.committed.objects.objects <+: t.objects.objects) ∧
      ∀ u : Session, u.IsOpen → u.working = t →
        (∀ oid, ∃ result, t.objects.PeelsOff oid result ∧
          (RefStore.peel oid).runOn u = (result.answer, u)) ∧
        (∀ oid o target, t.objects.get? oid = some o → o.kind = .tag → o.target = some target →
          (RefStore.peel oid).runOn u = (RefStore.peel target).runOn u) ∧
        ∃ chain, t.IsLog chain ∧ (log none).runOn u = (.ok chain, u) ∧
          ∀ n : Int, 0 ≤ n → (log (some n)).runOn u = (.ok (chain.take n.toNat), u) := by
  intro first s t ht
  obtain ⟨hgrown, hearlier⟩ := run_grown config history durable start hdistinct t ht
  have hordered := hgrown.objects.order
  refine ⟨hordered, hearlier, ?_⟩
  rintro u hopen rfl
  have hpeel : ∀ oid, (RefStore.peel oid).runOn u = ((u.working.objects.peel oid).answer, u) := by
    intro oid
    rw [RefStore.peel_runOn hopen]
    cases u.working.objects.peel oid <;> rfl
  refine ⟨fun oid => ⟨_, hordered.peelsOff oid, hpeel oid⟩, ?_, ?_⟩
  · intro oid o target hget hkind htarget
    rw [hpeel, hpeel, hordered.peel_tag hget hkind htarget]
  · have hlog := hgrown.isLog
    refine ⟨_, hlog, readLog_runOn hopen none, ?_⟩
    intro n _
    rw [readLog_runOn hopen (some n), ← hlog.ends.firstParents_eq_take n.toNat]
    rfl

/-- **After every history the tags of what is referred to end**, so a sweep comes back. -/
theorem run_tagsEnd (config : Config) (history : List (Instant × Call)) (durable : Bool)
    (start : Instant)
    (hdistinct : ∀ a ∈ hashedTexts config history (Session.start .empty durable start),
      ∀ b ∈ hashedTexts config history (Session.start .empty durable start),
        Sha256.hexOfText a = Sha256.hexOfText b → a = b) :
    let s := (run config history (Session.start .empty durable start)).2
    ∀ t, t = s.committed ∨ t = s.working → t.TagsEnd := by
  intro s t ht r _ oid _
  obtain ⟨hgrown, _⟩ := run_grown config history durable start hdistinct t ht
  exact hgrown.objects.order.exists_peelsOff oid

open CommitLine

theorem log_lineTables :
    let t := lineTables {}
    (t.objects.firstParents t.objects.objects.length (RefStore.headOf t.refs)).map (·.oid) =
      [secondId, firstId] := by
  decide +kernel

/-- The theorem at two commits in a line, which are the log; a limit leaves the second one. -/
theorem run_objectGraph_line :
    let s := (run {} lineHistory fresh).2
    ∃ chain, (log none).runOn s = (.ok chain, s) ∧ chain.map (·.oid) = [secondId, firstId] ∧
      (log (some 1)).runOn s = (.ok (chain.take 1), s) ∧
      (RefStore.peel secondId).runOn s = (.ok (some secondId), s) := by
  intro s
  have hs : s = Session.start (lineTables {}) false (second 1) := run_lineHistory admits_default
  have hopen : s.IsOpen := hs ▸ isOpen_start _ _ _
  obtain ⟨_, _, hcalls⟩ := run_objectGraph {} lineHistory false default
    (lineHistory_distinct admits_default) s.working (Or.inr rfl)
  obtain ⟨hpeels, _, chain, _, hanswer, hlimit⟩ := hcalls s hopen rfl
  refine ⟨chain, hanswer, ?_, hlimit 1 (by decide), ?_⟩
  · cases hanswer.symm.trans (readLog_runOn hopen none)
    rw [hs]
    exact log_lineTables
  · obtain ⟨result, hpeels, hrun⟩ := hpeels secondId
    have hcommit : s.working.objects.isCommit secondId = true := by
      rw [hs]
      exact lineTables_default.2.2.1
    have hleads := ObjectStore.peelsTo_of_isCommit hcommit
    rw [hrun, hpeels.unique (ObjectStore.peelsTo_iff.mp hleads)]
    rfl

end Repository
end CommitStore
