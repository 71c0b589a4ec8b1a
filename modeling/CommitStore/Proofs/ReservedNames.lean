import CommitStore.Proofs.AcceptedRoots
import CommitStore.Proofs.FailedSweeps
set_option autoImplicit false

/-!
# What is reserved

A sweep deletes references by their names, so it matters exactly which names are reserved. Behind
the root, without the slashes at its end, and one slash stands a line of hexadecimal digits: the
digits alone, or the digits and one newline. `pinnedOid?_exact` says so, and that the newline is all
that keeps the names apart from those of pins.

A line has no slash, so the last slash of a reserved name is the one behind the root. From this it
follows that the name gives back the root as well as the id, whichever roots there are and also if
one of them lies below another (`IsReserved.sameRoot`). A sweep therefore leaves the pins of every
other root alone.
-/

namespace CommitStore

/-! ## 1. Ends of a text -/

namespace Text

variable {c : Char}

/-- There is only one last separator. -/
theorem last_sep_inj {front front' back back' : List Char} (h : c ∉ back) (h' : c ∉ back')
    (hsame : front ++ c :: back = front' ++ c :: back') : front = front' ∧ back = back' := by
  have hback : back = back' := by
    rcases List.suffix_or_suffix_of_suffix (List.suffix_append front (c :: back))
      (hsame ▸ List.suffix_append front' (c :: back')) with hsuffix | hsuffix
    · rcases List.suffix_cons_iff.mp hsuffix with heq | hinside
      · exact (List.cons.inj heq).2
      · exact absurd (hinside.subset List.mem_cons_self) h'
    · rcases List.suffix_cons_iff.mp hsuffix with heq | hinside
      · exact (List.cons.inj heq).2.symm
      · exact absurd (hinside.subset List.mem_cons_self) h
  subst hback
  exact ⟨List.append_cancel_right hsame, rfl⟩

theorem not_suffix_dropTrailing (c : Char) (cs : List Char) : ¬ [c] <:+ dropTrailing c cs := by
  rw [List.singleton_suffix_iff_getLast?_eq_some, dropTrailing, List.getLast?_reverse]
  intro hlast
  have hstop := List.head?_dropWhile_not (· == c) cs.reverse
  rw [hlast] at hstop
  simp at hstop

theorem exists_trailing (c : Char) (cs : List Char) :
    ∃ n, cs = dropTrailing c cs ++ List.replicate n c := by
  have hall : ∀ d ∈ (cs.reverse.takeWhile (· == c)).reverse, d = c := by
    intro d hd
    exact beq_iff_eq.mp (List.all_eq_true.mp List.all_takeWhile d (List.mem_reverse.mp hd))
  refine ⟨(cs.reverse.takeWhile (· == c)).reverse.length, ?_⟩
  rw [← List.eq_replicate_of_mem hall, dropTrailing, ← List.reverse_append,
    List.takeWhile_append_dropWhile, List.reverse_reverse]

theorem dropTrailing_append (cs : List Char) (n : Nat) :
    dropTrailing c (cs ++ List.replicate n c) = dropTrailing c cs := by
  rw [dropTrailing, List.reverse_append, List.reverse_replicate,
    List.dropWhile_append_of_pos fun d hd => beq_iff_eq.mpr (List.eq_of_mem_replicate hd)]
  rfl

/-- What is left without the given character at the end. -/
theorem dropTrailing_eq_iff {cs bare : List Char} :
    dropTrailing c cs = bare ↔ (∃ n, cs = bare ++ List.replicate n c) ∧ ¬ [c] <:+ bare := by
  constructor
  · rintro rfl
    exact ⟨exists_trailing c cs, not_suffix_dropTrailing c cs⟩
  · rintro ⟨⟨n, rfl⟩, hbare⟩
    rw [dropTrailing_append, Reserved.dropTrailing_eq_self hbare]

end Text

/-! ## 2. Which names are reserved -/

namespace Reserved

/-- A name is the root without the slashes at its end, one slash, and then the rest. -/
def IsUnder (root : String) (rest : String) (name : RefName) : Prop :=
  ∃ bare slashes, root.toList = bare ++ List.replicate slashes '/' ∧ ¬ ['/'] <:+ bare ∧
    name.toList = bare ++ '/' :: rest.toList

theorem isUnder_iff (root rest : String) (name : RefName) :
    IsUnder root rest name ↔ name = pinName root rest := by
  have hname : name = pinName root rest ↔
      name.toList = Text.dropTrailing '/' root.toList ++ '/' :: rest.toList := by
    rw [← String.toList_inj, pinName, String.toList_ofList, rootPath, List.append_assoc]
    rfl
  rw [hname]
  constructor
  · rintro ⟨bare, slashes, hroot, hbare, hunder⟩
    rw [Text.dropTrailing_eq_iff.mpr ⟨⟨slashes, hroot⟩, hbare⟩, hunder]
  · intro hunder
    obtain ⟨slashes, hroot⟩ := Text.exists_trailing '/' root.toList
    exact ⟨_, slashes, hroot, Text.not_suffix_dropTrailing '/' root.toList, hunder⟩

/-- A line of digits: the digits, or the digits and a newline. -/
def IsLine (text : String) : Prop :=
  IsHex text ∨ ∃ digits, IsHex digits ∧ text = digits ++ "\n"

theorem IsHex.not_mem {text : String} (h : IsHex text) {c : Char} (hc : isHexDigit c = false) :
    c ∉ text.toList :=
  fun hmem => isHexDigit_ne (h.2 c hmem) hc rfl

theorem isHexLine_iff (text : String) : isHexLine text.toList = true ↔ IsLine text := by
  have hhex (line : String) :
      IsHex line ↔ (!line.toList.isEmpty && line.toList.all isHexDigit) = true := by
    rw [IsHex, Bool.and_eq_true, List.all_eq_true, Bool.not_eq_true', List.isEmpty_eq_false_iff]
  rw [isHexLine, dropNewline, IsLine]
  by_cases hlast : text.toList.getLast? = some '\n'
  · obtain ⟨start, hstart⟩ := List.getLast?_eq_some_iff.mp hlast
    have hnot : ¬ IsHex text := fun htext =>
      htext.not_mem (by decide) (show '\n' ∈ text.toList from hstart ▸ by simp)
    rw [if_pos hlast, hstart, List.dropLast_concat, or_iff_right hnot]
    constructor
    · intro hdigits
      refine ⟨String.ofList start, (hhex _).mpr (by rwa [String.toList_ofList]), ?_⟩
      rw [← String.toList_inj, hstart, String.toList_append, String.toList_ofList]
      rfl
    · rintro ⟨digits, hdigits, rfl⟩
      rw [String.toList_append] at hstart
      obtain ⟨rfl, _⟩ := List.append_inj' hstart rfl
      exact (hhex digits).mp hdigits
  · rw [if_neg hlast, ← hhex]
    refine (or_iff_left ?_).symm
    rintro ⟨digits, _, rfl⟩
    refine hlast ?_
    rw [String.toList_append]
    exact List.getLast?_concat

theorem pinnedOid?_eq_some_iff (root : String) (name : RefName) (oid : Oid) :
    pinnedOid? root name = some oid ↔ IsUnder root oid name ∧ IsLine oid := by
  have hname : name = pinName root oid ↔ rootPath root ++ oid.toList = name.toList := by
    rw [← String.toList_inj, pinName, String.toList_ofList, eq_comm]
  rw [isUnder_iff, hname, ← isHexLine_iff, pinnedOid?, underRoot?]
  by_cases hprefix : (rootPath root).isPrefixOf name.toList = true
  · obtain ⟨rest, hrest⟩ := List.isPrefixOf_iff_prefix.mp hprefix
    rw [if_pos hprefix, ← hrest, List.drop_left, List.append_cancel_left_eq]
    by_cases hline : isHexLine rest = true
    · simp only [if_pos hline, Option.some.injEq, ← String.toList_inj, String.toList_ofList]
      constructor
      · rintro rfl
        exact ⟨rfl, hline⟩
      · rintro ⟨hoid, _⟩
        exact hoid.symm
    · simp only [if_neg hline]
      refine iff_of_false (Option.some_ne_none oid).symm ?_
      rintro ⟨rfl, hoid⟩
      exact hline hoid
  · simp only [if_neg hprefix]
    refine iff_of_false (Option.some_ne_none oid).symm ?_
    rintro ⟨hunder, _⟩
    exact hprefix (List.isPrefixOf_iff_prefix.mpr ⟨_, hunder⟩)

theorem isReserved_iff (root : String) (name : RefName) :
    isReserved root name = true ↔ ∃ oid, IsUnder root oid name ∧ IsLine oid := by
  rw [isReserved, Option.isSome_iff_exists]
  exact exists_congr fun oid => pinnedOid?_eq_some_iff root name oid

/-- Under one root a name has one rest only. -/
theorem IsUnder.unique {root rest rest' : String} {name : RefName} (h : IsUnder root rest name)
    (h' : IsUnder root rest' name) : rest = rest' :=
  pinName_inj (((isUnder_iff root rest name).mp h).symm.trans ((isUnder_iff root rest' name).mp h'))

/-- **Reserved names are those of lines of digits under the root.** Whatever the root and the name,
the id of a reserved name is what stands behind the root and its slash, if that is a line of digits,
and there is none otherwise. The names are those of digits alone exactly if the name does not end
with a newline behind digits. -/
theorem pinnedOid?_exact (root : String) (name : RefName) :
    (∀ oid, pinnedOid? root name = some oid ↔ IsUnder root oid name ∧ IsLine oid) ∧
      (isReserved root name = true ↔ ∃ oid, IsUnder root oid name ∧ IsLine oid) ∧
      (((∀ oid, pinnedOid? root name = some oid ↔ IsUnder root oid name ∧ IsHex oid) ∧
          (isReserved root name = true ↔ ∃ oid, IsUnder root oid name ∧ IsHex oid)) ↔
        ¬ ∃ digits, IsHex digits ∧ IsUnder root (digits ++ "\n") name) := by
  have hpinned := pinnedOid?_eq_some_iff root name
  have hreserved := isReserved_iff root name
  refine ⟨hpinned, hreserved, ?_⟩
  constructor
  · rintro ⟨hdigits, _⟩ ⟨digits, hhex, hunder⟩
    have hsome := (hpinned _).mpr ⟨hunder, Or.inr ⟨digits, hhex, rfl⟩⟩
    exact ((hdigits _).mp hsome).2.not_mem (c := '\n') (by decide) (by simp)
  · intro hnot
    have hline (oid : Oid) (hunder : IsUnder root oid name) : IsLine oid ↔ IsHex oid := by
      refine or_iff_left ?_
      rintro ⟨digits, hhex, rfl⟩
      exact hnot ⟨digits, hhex, hunder⟩
    refine ⟨fun oid => (hpinned oid).trans (and_congr_right (hline oid)), hreserved.trans ?_⟩
    exact exists_congr fun oid => and_congr_right (hline oid)

/-- A pin with a newline behind it is reserved, and the newline belongs to its id. -/
theorem pinnedOid?_newline :
    let name := "refs/branchless/a1\n"
    isReserved defaultRoot name = true ∧ pinnedOid? defaultRoot name = some "a1\n" ∧
      ¬ ∃ oid, IsUnder defaultRoot oid name ∧ IsHex oid := by
  have hpinned : pinnedOid? defaultRoot "refs/branchless/a1\n" = some "a1\n" := by decide +kernel
  refine ⟨Option.isSome_iff_exists.mpr ⟨_, hpinned⟩, hpinned, ?_⟩
  rintro ⟨oid, hunder, hhex⟩
  obtain ⟨hline, _⟩ := (pinnedOid?_eq_some_iff _ _ _).mp hpinned
  rw [hunder.unique hline] at hhex
  exact hhex.not_mem (c := '\n') (by decide) (by decide)

/-! ## 3. Reading back a name -/

/-- Two roots that differ at most in the slashes at their ends. -/
def SameRoot (p q : String) : Prop :=
  ∃ bare m n, p.toList = bare ++ List.replicate m '/' ∧ q.toList = bare ++ List.replicate n '/'

theorem sameRoot_iff (p q : String) :
    SameRoot p q ↔ Text.dropTrailing '/' p.toList = Text.dropTrailing '/' q.toList := by
  constructor
  · rintro ⟨bare, m, n, hp, hq⟩
    rw [hp, hq, Text.dropTrailing_append, Text.dropTrailing_append]
  · intro hsame
    obtain ⟨m, hp⟩ := Text.exists_trailing '/' p.toList
    obtain ⟨n, hq⟩ := Text.exists_trailing '/' q.toList
    exact ⟨_, m, n, hp, hsame ▸ hq⟩

instance (p q : String) : Decidable (SameRoot p q) := decidable_of_iff _ (sameRoot_iff p q).symm

theorem IsLine.slash_not_mem {text : String} (h : IsLine text) : '/' ∉ text.toList := by
  rcases h with hhex | ⟨digits, hhex, rfl⟩
  · exact hhex.not_mem (by decide)
  · rw [String.toList_append, List.mem_append]
    exact not_or.mpr ⟨hhex.not_mem (by decide), by decide⟩

/-- The last slash of a reserved name is the one behind the root. -/
theorem sameRoot_of_isReserved {p q : String} {name : RefName} (hp : isReserved p name = true)
    (hq : isReserved q name = true) : SameRoot p q := by
  obtain ⟨oid, ⟨bare, m, hm, _, hname⟩, hline⟩ := (isReserved_iff p name).mp hp
  obtain ⟨oid', ⟨bare', n, hn, _, hname'⟩, hline'⟩ := (isReserved_iff q name).mp hq
  obtain ⟨rfl, _⟩ :=
    Text.last_sep_inj hline.slash_not_mem hline'.slash_not_mem (hname.symm.trans hname')
  exact ⟨bare, m, n, hm, hn⟩

theorem pinnedOid?_pinName (root : String) {oid : Oid} (hoid : IsHex oid) :
    pinnedOid? root (pinName root oid) = some oid :=
  (pinnedOid?_eq_some_iff root _ oid).mpr ⟨(isUnder_iff root oid _).mpr rfl, Or.inl hoid⟩

theorem exists_pinnedOid? {root : String} {name : RefName} (h : isReserved root name = true) :
    ∃ oid, pinnedOid? root name = some oid ∧ pinName root oid = name := by
  obtain ⟨oid, hpinned⟩ := Option.isSome_iff_exists.mp h
  obtain ⟨hunder, _⟩ := (pinnedOid?_eq_some_iff root name oid).mp hpinned
  exact ⟨oid, hpinned, ((isUnder_iff root oid name).mp hunder).symm⟩

end Reserved

/-! ## 4. Sweeps of different roots -/

namespace Sweep

open CommitStore.Action

/-- Deleting references leaves the others alone, however it ends. -/
theorem deleteAll_others {names : List RefName} {name : RefName} (hname : name ∉ names) {s : Session}
    (h : s.IsOpen) :
    ((deleteAll names).runOn s).2.working.refs.get? name = s.working.refs.get? name := by
  induction names generalizing s with
  | nil => rfl
  | cons first rest ih =>
    obtain ⟨hfirst, hrest⟩ := List.ne_and_not_mem_of_not_mem_cons hname
    rw [deleteAll, runOn_bind, RefStore.delete_runOn h]
    by_cases hrefused : first ∈ s.refusals.deletions
    · rw [if_pos hrefused]
    · rw [if_neg hrefused]
      dsimp only
      rw [ih hrest ((s.isOpen_onTables _).mpr h), Session.onTables_working, Tables.removeRef_get?,
        if_neg hfirst]

/-- Only reserved names are found dangling, whatever references are looked at. -/
theorem isReserved_of_mem_dangling {t : Tables} {root : String} {visible : List Oid}
    {refs : List Reference} {name : RefName} (h : name ∈ (classify t root visible refs).dangling) :
    Reserved.isReserved root name = true := by
  obtain ⟨r, hr, rfl⟩ := List.mem_map.mp h
  exact ((isDangling_iff t root visible r).mp (List.mem_filter.mp hr).2).1

/-- A sweep leaves every name that is not reserved as the search for the visible commits left it,
however it ends. -/
theorem run_others {root : String} {name : RefName} (hname : Reserved.isReserved root name = false)
    (line : Option String) (visibility : Action (List Oid)) (s : Session) :
    ((run root line visibility).runOn s).2.working.refs.get? name =
      (visibility.runOn (s.announced line)).2.working.refs.get? name := by
  rcases hvisible : visibility.runOn (s.announced line) with ⟨e | visible, s₁⟩
  · rw [run_of_visibility_error hvisible]
  · rcases hlist : RefStore.list.runOn s₁ with ⟨e | refs, s₂⟩
    · rw [run_of_listing_error hvisible hlist]
    · obtain ⟨hopen, hlisting⟩ := isOpen_of_list hlist
      have hnot : name ∉ (classify s₁.working root visible s₁.working.refs.references).dangling := by
        intro hmem
        rw [isReserved_of_mem_dangling hmem] at hname
        cases hname
      rw [run_of_visible hvisible, runOn_bind_of_ok (find_runOn hopen hlisting root visible),
        runOn_bind, ← deleteAll_others hnot hopen]
      generalize (deleteAll (classify s₁.working root visible
        s₁.working.refs.references).dangling).runOn s₁ = deletion
      rcases deletion with ⟨e | _, s₃⟩ <;> rfl

end Sweep

namespace Reserved

/-- **Names of pins can be read back, and tell the roots apart.** Under the root of every accepted
configuration the pin of a hexadecimal id has a valid and reserved name, from which the id is read;
the id read from a reserved name gives the name again; and a name is reserved under two roots only
if they differ at most in the slashes at their ends. So what is reserved under one root is never
found dangling under another one, and a sweep there does not touch it, however it ends. -/
theorem pinName_codec :
    (∀ record config, Config.ofRecord record = .ok config → ∀ oid, IsHex oid →
      let name := pinName config.pinRoot oid
      RefName.fault? name = none ∧ isReserved config.pinRoot name = true ∧
        pinnedOid? config.pinRoot name = some oid) ∧
    (∀ root name, isReserved root name = true →
      ∃ oid, pinnedOid? root name = some oid ∧ pinName root oid = name) ∧
    (∀ p q name, isReserved p name = true → isReserved q name = true → SameRoot p q) ∧
    ∀ p q, ¬ SameRoot p q → ∀ name, isReserved p name = true →
      (∀ t visible refs, name ∉ (Sweep.classify t q visible refs).dangling) ∧
      ∀ line visibility s, ((Sweep.run q line visibility).runOn s).2.working.refs.get? name =
        (visibility.runOn (s.announced line)).2.working.refs.get? name := by
  refine ⟨?_, fun _ _ => exists_pinnedOid?, fun _ _ _ => sameRoot_of_isReserved, ?_⟩
  · intro record config hconfig oid hoid name
    obtain ⟨hreserved, hvalid⟩ := pinName_accepted (Config.AcceptedRoot.of_ofRecord hconfig) hoid
    exact ⟨Option.isNone_iff_eq_none.mp hvalid, hreserved, pinnedOid?_pinName _ hoid⟩
  · intro p q hroots name hp
    have hq : isReserved q name = false := by
      rw [Bool.eq_false_iff]
      exact fun hq => hroots (sameRoot_of_isReserved hp hq)
    refine ⟨fun t visible refs hmem => ?_, Sweep.run_others hq⟩
    rw [Sweep.isReserved_of_mem_dangling hmem] at hq
    cases hq

/-- The theorem at a root that is given with slashes at its end, and at a root below it. -/
theorem pinName_codec_nested :
    let config : Config := { pinRoot := "refs/keep" }
    let below := "refs/keep/a"
    let name := pinName config.pinRoot "a1"
    (Config.ofRecord (.object [("gc_ref_prefix", .text "refs/keep//")]) = .ok config ∧
      IsHex "a1" ∧ ¬ SameRoot config.pinRoot below) ∧
    name = "refs/keep/a1" ∧ RefName.fault? name = none ∧
      pinnedOid? config.pinRoot name = some "a1" ∧
      isReserved below "refs/keep/a/1" = true ∧
      ∀ t visible refs, name ∉ (Sweep.classify t below visible refs).dangling := by
  intro config below name
  have hconfig : Config.ofRecord (.object [("gc_ref_prefix", .text "refs/keep//")]) = .ok config :=
    rfl
  have hhex : IsHex "a1" := ⟨by decide, List.all_eq_true.mp rfl⟩
  have hroots : ¬ SameRoot config.pinRoot below := by decide
  obtain ⟨hpins, _, _, hapart⟩ := pinName_codec
  obtain ⟨hvalid, hreserved, hpinned⟩ := hpins _ config hconfig "a1" hhex
  exact ⟨⟨hconfig, hhex, hroots⟩, by decide, hvalid, hpinned, by decide,
    (hapart _ below hroots name hreserved).1⟩

end Reserved
end CommitStore
