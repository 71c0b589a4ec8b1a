import CommitStore.Reference.Reserved
set_option autoImplicit false

/-!
# Names of pins

The name that pins an object is a valid reference name whenever the root is one and the id is a text
of hexadecimal digits. A name is checked for faults as a whole, so this is shown along the name from
its start: `CleanStart` is what the start of a valid name has, a slash after a valid root keeps it,
and so does every further digit. What is left is the end of the name, which is a digit.

Reserved names lie under their root, and that keeps them apart from the names of branches, of tags
and of the head as long as the root does.
-/

namespace CommitStore

/-! ## 1. Names without faults -/

namespace RefName

/-- The head, a branch or a tag. -/
def IsUserName (name : RefName) : Prop :=
  name = head ∨ (∃ branch, name = ofBranch branch) ∨ ∃ tag, name = ofTag tag

/-- What may not occur anywhere in a name. -/
def badParts : List (List Char) :=
  [['/', '.'], ['.', '.'], atBrace, ['/', '/'], ".lock/".toList]

/-- The start of a name without faults. -/
structure CleanStart (cs : List Char) : Prop where
  noDot : ¬ ['.'] <+: cs
  noSlash : ¬ ['/'] <+: cs
  parts : ∀ part ∈ badParts, ¬ part <:+: cs
  chars : ∀ c ∈ cs, forbidden c = false

theorem pathFault?_eq_none_iff (cs : List Char) :
    pathFault? cs = none ↔
      '/' ∈ cs ∧ CleanStart cs ∧ ¬ ['/'] <:+ cs ∧ ¬ ['.'] <:+ cs ∧ ¬ ".lock".toList <:+ cs := by
  have hite : ∀ {c : Prop} [Decidable c] (fault : Fault) (rest : Option Fault),
      (if c then some fault else rest) = none ↔ ¬ c ∧ rest = none := by
    intro c _ fault rest
    by_cases h : c <;> simp [h]
  have hchars : (∀ c ∈ cs, forbidden c = false) ↔ cs.find? forbidden = none := by
    simp [List.find?_eq_none]
  rw [pathFault?]
  cases hfound : cs.find? forbidden with
  | some c =>
    simp only [hite, reduceCtorEq, and_false, false_iff]
    rintro ⟨_, hclean, _⟩
    rw [hchars.mp hclean.chars] at hfound
    cases hfound
  | none =>
    simp only [hite, Bool.or_eq_true, List.isPrefixOf_iff_prefix, List.isSuffixOf_iff_suffix,
      Text.occursIn_iff, not_or]
    constructor
    · rintro ⟨hslash, ⟨hdot, hpart⟩, hdots, hbrace, ⟨⟨hstart, hend⟩, hslashes⟩, htrailing,
        ⟨hlock, hlocks⟩, -⟩
      refine ⟨by simpa using hslash, ⟨hdot, hstart, ?_, hchars.mpr hfound⟩, hend, htrailing, hlock⟩
      simp only [badParts, List.forall_mem_cons]
      exact ⟨hpart, hdots, hbrace, hslashes, hlocks, fun _ h => absurd h List.not_mem_nil⟩
    · rintro ⟨hslash, hclean, hend, htrailing, hlock⟩
      have hparts := hclean.parts
      simp only [badParts, List.forall_mem_cons] at hparts
      obtain ⟨hpart, hdots, hbrace, hslashes, hlocks, -⟩ := hparts
      exact ⟨by simpa using hslash, ⟨hclean.noDot, hpart⟩, hdots, hbrace,
        ⟨⟨hclean.noSlash, hend⟩, hslashes⟩, htrailing, ⟨hlock, hlocks⟩, trivial⟩

theorem prefix_concat {p cs : List Char} {c : Char} (hp : p.length = 1) (hne : cs ≠ [])
    (h : p <+: cs ++ [c]) : p <+: cs := by
  refine List.prefix_of_prefix_length_le h (List.prefix_append cs [c]) ?_
  rw [hp]
  exact List.length_pos_iff.mpr hne

/-- A character that ends no bad part keeps a start clean. -/
theorem CleanStart.concat {cs : List Char} {c : Char} (h : CleanStart cs) (hne : cs ≠ [])
    (hchar : forbidden c = false) (hends : ∀ part ∈ badParts, ¬ part <:+ cs ++ [c]) :
    CleanStart (cs ++ [c]) where
  noDot hdot := h.noDot (prefix_concat rfl hne hdot)
  noSlash hslash := h.noSlash (prefix_concat rfl hne hslash)
  parts part hpart hinfix := by
    rcases List.infix_concat_iff.mp hinfix with hsuffix | hinfix
    · exact hends part hpart hsuffix
    · exact h.parts part hpart hinfix
  chars x hx := by
    rcases List.mem_append.mp hx with hx | hx
    · exact h.chars x hx
    · exact List.mem_singleton.mp hx ▸ hchar

/-- A bad part that ends with a character has another character before it, or a whole ending. -/
theorem ends_of_suffix_concat {part cs : List Char} {c : Char} (hpart : part ∈ badParts)
    (h : part <:+ cs ++ [c]) :
    c = '.' ∨ c = '\x7b' ∨ (c = '/' ∧ (['/'] <:+ cs ∨ ".lock".toList <:+ cs)) := by
  have hsplit : ∀ start : List Char, ∀ last : Char, part = start ++ [last] →
      last = c ∧ start <:+ cs := by
    rintro start last rfl
    rcases List.suffix_concat_iff.mp h with hnil | ⟨t, ht, hsuffix⟩
    · simp at hnil
    · obtain ⟨rfl, hlast⟩ := List.append_inj' ht rfl
      exact ⟨List.singleton_inj.mp hlast, hsuffix⟩
  simp only [badParts, List.mem_cons, List.not_mem_nil, or_false] at hpart
  rcases hpart with rfl | rfl | rfl | rfl | rfl
  · exact Or.inl (hsplit ['/'] '.' rfl).1.symm
  · exact Or.inl (hsplit ['.'] '.' rfl).1.symm
  · exact Or.inr (Or.inl (hsplit ['@'] '\x7b' rfl).1.symm)
  · obtain ⟨hlast, hstart⟩ := hsplit ['/'] '/' rfl
    exact Or.inr (Or.inr ⟨hlast.symm, Or.inl hstart⟩)
  · obtain ⟨hlast, hstart⟩ := hsplit ".lock".toList '/' rfl
    exact Or.inr (Or.inr ⟨hlast.symm, Or.inr hstart⟩)

/-- A slash after a name without faults keeps it clean. -/
theorem cleanStart_slash {cs : List Char} (h : pathFault? cs = none) :
    CleanStart (cs ++ ['/']) := by
  obtain ⟨hslash, hclean, hend, _, hlock⟩ := (pathFault?_eq_none_iff cs).mp h
  refine hclean.concat (List.ne_nil_of_mem hslash) (by decide) fun part hpart hsuffix => ?_
  rcases ends_of_suffix_concat hpart hsuffix with hdot | hbrace | ⟨_, hends | hends⟩
  · cases hdot
  · cases hbrace
  · exact hend hends
  · exact hlock hends

end RefName

namespace Reserved

/-! ## 2. Names under a root -/

/-- The code points of the hexadecimal digits. -/
theorem isHexDigit_iff (c : Char) :
    isHexDigit c = true ↔ (48 ≤ c.toNat ∧ c.toNat ≤ 57) ∨ (97 ≤ c.toNat ∧ c.toNat ≤ 102) := by
  simp only [isHexDigit, Char.isDigit, Bool.or_eq_true, Bool.and_eq_true, decide_eq_true_eq,
    Char.le_def, UInt32.le_iff_toNat_le, Char.toNat]
  exact Iff.rfl

theorem isHexDigit_ne {c d : Char} (hc : isHexDigit c = true) (hd : isHexDigit d = false) :
    c ≠ d := by
  rintro rfl
  rw [hc] at hd
  cases hd

theorem not_forbidden_of_isHexDigit {c : Char} (hc : isHexDigit c = true) :
    RefName.forbidden c = false := by
  have hnot : c ∉ RefName.forbiddenChars := by
    intro hmem
    simp only [RefName.forbiddenChars, List.mem_cons, List.not_mem_nil, or_false] at hmem
    rcases hmem with rfl | rfl | rfl | rfl | rfl | rfl | rfl | rfl | rfl <;> revert hc <;> decide
  have hcode := (isHexDigit_iff c).mp hc
  simp only [RefName.forbidden, Bool.or_eq_false_iff, decide_eq_false_iff_not, List.contains_eq_mem,
    hnot, not_false_eq_true, and_true]
  omega

open RefName in
/-- Digits keep the start of a name clean. -/
theorem cleanStart_digits {cs digits : List Char} (h : CleanStart cs) (hne : cs ≠ [])
    (hdigits : ∀ c ∈ digits, isHexDigit c = true) : CleanStart (cs ++ digits) := by
  induction digits generalizing cs with
  | nil => simpa using h
  | cons c rest ih =>
    obtain ⟨hc, hrest⟩ := List.forall_mem_cons.mp hdigits
    have hstep : CleanStart (cs ++ [c]) := by
      refine h.concat hne (not_forbidden_of_isHexDigit hc) fun part hpart hsuffix => ?_
      rcases ends_of_suffix_concat hpart hsuffix with hdot | hbrace | ⟨hslash, _⟩
      · exact isHexDigit_ne hc (by decide) hdot
      · exact isHexDigit_ne hc (by decide) hbrace
      · exact isHexDigit_ne hc (by decide) hslash
    have hrests := ih hstep (by simp) hrest
    rwa [List.append_assoc, List.singleton_append] at hrests

theorem dropTrailing_eq_self {c : Char} {cs : List Char} (h : ¬ [c] <:+ cs) :
    Text.dropTrailing c cs = cs := by
  unfold Text.dropTrailing
  rcases cs.eq_nil_or_concat with rfl | ⟨start, last, hconcat⟩
  · rfl
  · rw [List.concat_eq_append] at hconcat
    subst hconcat
    have hlast : (last == c) = false := by
      rw [beq_eq_false_iff_ne]
      rintro rfl
      exact h (List.suffix_append start [last])
    simp [hlast]

theorem rootPath_eq {root : String} (hroot : RefName.pathFault? root.toList = none) :
    rootPath root = root.toList ++ ['/'] := by
  rw [rootPath, dropTrailing_eq_self ((RefName.pathFault?_eq_none_iff _).mp hroot).2.2.1]

/-- A text of hexadecimal digits, and at least one of them. -/
def IsHex (oid : Oid) : Prop := oid.toList ≠ [] ∧ ∀ c ∈ oid.toList, isHexDigit c = true

theorem IsHex.last {oid : Oid} (h : IsHex oid) :
    ∃ start last, oid.toList = start ++ [last] ∧ isHexDigit last = true := by
  rcases oid.toList.eq_nil_or_concat with hnil | ⟨start, last, hconcat⟩
  · exact absurd hnil h.1
  · rw [List.concat_eq_append] at hconcat
    refine ⟨start, last, hconcat, h.2 last ?_⟩
    rw [hconcat]
    exact List.mem_append_right _ List.mem_cons_self

/-- **The pin of a hexadecimal id has a valid name.** -/
theorem isValid_pinName {root : String} {oid : Oid} (hroot : RefName.pathFault? root.toList = none)
    (hoid : IsHex oid) : RefName.isValid (pinName root oid) = true := by
  have hchars : (pinName root oid).toList = root.toList ++ ['/'] ++ oid.toList := by
    rw [pinName, String.toList_ofList, rootPath_eq hroot]
  have hclean : RefName.CleanStart (root.toList ++ ['/'] ++ oid.toList) :=
    cleanStart_digits (RefName.cleanStart_slash hroot) (by simp) hoid.2
  obtain ⟨start, last, hconcat, hlast⟩ := hoid.last
  have hends : ∀ ending c, isHexDigit c = false → ¬ ending ++ [c] <:+ (pinName root oid).toList := by
    intro ending c hc hsuffix
    rw [hchars, hconcat, ← List.append_assoc] at hsuffix
    rcases List.suffix_concat_iff.mp hsuffix with hnil | ⟨t, ht, _⟩
    · simp at hnil
    · have hsame : c = last := List.singleton_inj.mp (List.append_inj' ht rfl).2
      exact isHexDigit_ne hlast hc hsame.symm
  have hpath : RefName.pathFault? (pinName root oid).toList = none := by
    rw [RefName.pathFault?_eq_none_iff]
    refine ⟨?_, hchars ▸ hclean, hends [] '/' (by decide), hends [] '.' (by decide),
      hends ".loc".toList 'k' (by decide)⟩
    rw [hchars]
    simp
  have hne : pinName root oid ≠ "" := by
    intro hempty
    rw [hempty] at hpath
    cases hpath
  rw [RefName.isValid, RefName.fault?, if_neg hne]
  split
  · rfl
  · rw [hpath]
    rfl

/-- The pin of a hexadecimal id has a reserved name. -/
theorem isReserved_pinName (root : String) {oid : Oid} (hoid : IsHex oid) :
    isReserved root (pinName root oid) = true := by
  obtain ⟨start, last, hconcat, hlast⟩ := hoid.last
  have hline : isHexLine oid.toList = true := by
    have hnewline : dropNewline oid.toList = oid.toList := by
      rw [dropNewline, hconcat, List.getLast?_concat, if_neg]
      rintro ⟨⟩
      cases hlast
    rw [isHexLine, hnewline]
    simpa [hoid.1] using hoid.2
  have hunder : underRoot? root (pinName root oid) = some oid.toList := by
    rw [underRoot?, pinName, String.toList_ofList]
    simp
  rw [isReserved, pinnedOid?, hunder]
  dsimp only
  rw [if_pos hline]
  rfl

/-- A reserved name is the root with its slash, and a line of digits. -/
theorem exists_hexLine_of_isReserved {root : String} {name : RefName}
    (h : isReserved root name = true) :
    ∃ line, rootPath root ++ line = name.toList ∧ isHexLine line = true := by
  unfold isReserved pinnedOid? underRoot? at h
  dsimp only at h
  by_cases hprefix : (rootPath root).isPrefixOf name.toList = true
  · rw [if_pos hprefix] at h
    obtain ⟨line, hname⟩ := List.isPrefixOf_iff_prefix.mp hprefix
    rw [← hname, List.drop_left] at h
    refine ⟨line, hname, ?_⟩
    cases hline : isHexLine line with
    | true => rfl
    | false =>
      simp only [hline] at h
      cases h
  · rw [if_neg hprefix] at h
    cases h

/-- A reserved name begins with the root and its slash. -/
theorem rootPath_prefix_of_isReserved {root : String} {name : RefName}
    (h : isReserved root name = true) : rootPath root <+: name.toList :=
  (exists_hexLine_of_isReserved h).imp fun _ => And.left

theorem rootPath_prefix_pinName (root : String) (oid : Oid) :
    rootPath root <+: (pinName root oid).toList := by
  rw [pinName, String.toList_ofList]
  exact List.prefix_append _ _

/-- Under the default root lie no names of the user. -/
theorem not_isUserName_of_default {name : RefName} (h : rootPath defaultRoot <+: name.toList) :
    ¬ RefName.IsUserName name := by
  -- The character after `refs/` tells the names apart.
  have hchar : name.toList[5]? = some 'b' := by
    obtain ⟨rest, hrest⟩ := h
    rw [← hrest]
    rfl
  rintro (rfl | ⟨branch, rfl⟩ | ⟨tag, rfl⟩)
  · cases hchar
  · rw [RefName.ofBranch, String.toList_append] at hchar
    cases hchar
  · rw [RefName.ofTag, String.toList_append] at hchar
    cases hchar

theorem pinName_inj {root : String} {a b : Oid} (h : pinName root a = pinName root b) : a = b := by
  have hchars := congrArg String.toList h
  rw [pinName, pinName, String.toList_ofList, String.toList_ofList] at hchars
  exact String.toList_inj.mp (List.append_cancel_left hchars)

end Reserved
end CommitStore
