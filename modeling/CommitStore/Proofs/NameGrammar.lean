import CommitStore.Proofs.PinNames
set_option autoImplicit false

/-!
# The grammar of reference names

Faults of a reference name are looked for in the text as a whole, while the rules of naming speak of
the components between its slashes. `fault?_eq_none_iff` says that the two agree: `IsPath` are the
rules, with the components given by `Text.split`.

The bridge is `Text.mem_split_iff`. With a separator put before and behind a text, its parts are the
stretches between two neighbouring separators. So a word without separators starts some part exactly
if it starts the text or occurs behind a separator, and the same holds at the ends of the parts;
these are the searches that find the faults.
-/

namespace CommitStore

/-! ## 1. Parts of a text -/

namespace Text

variable {sep : Char}

theorem split_of_not_mem {cs : List Char} (h : sep ∉ cs) : split sep cs = [cs] := by
  induction cs with
  | nil => rfl
  | cons c rest ih =>
    obtain ⟨hc, hrest⟩ := List.ne_and_not_mem_of_not_mem_cons h
    rw [split, if_neg hc.symm, ih hrest]

/-- Up to the first separator stands the first part. -/
theorem split_append {front : List Char} (h : sep ∉ front) (rest : List Char) :
    split sep (front ++ sep :: rest) = front :: split sep rest := by
  induction front with
  | nil => rw [List.nil_append, split, if_pos rfl]
  | cons c front ih =>
    obtain ⟨hc, hfront⟩ := List.ne_and_not_mem_of_not_mem_cons h
    rw [List.cons_append, split, if_neg hc.symm, ih hfront]

theorem length_split (sep : Char) (cs : List Char) :
    (split sep cs).length = cs.count sep + 1 := by
  induction cs with
  | nil => rfl
  | cons c rest ih =>
    rw [split]
    by_cases hc : c = sep
    · rw [if_pos hc, hc, List.length_cons, ih, List.count_cons_self]
    · rw [if_neg hc, List.count_cons_of_ne hc, ← ih]
      cases hparts : split sep rest with
      | nil =>
        rw [hparts] at ih
        cases ih
      | cons part parts => rfl

/-- Behind its last separator a text has none. -/
theorem exists_last_sep {cs : List Char} (h : sep ∈ cs) :
    ∃ front back, cs = front ++ sep :: back ∧ sep ∉ back := by
  obtain ⟨front, back, hcut, hfront⟩ := List.eq_append_cons_of_mem (List.mem_reverse.mpr h)
  refine ⟨back.reverse, front.reverse, ?_, fun hmem => hfront (List.mem_reverse.mp hmem)⟩
  rw [← List.reverse_reverse cs, hcut]
  simp

/-- What starts with a separator does not start before the first one. -/
theorem infix_append_iff {front : List Char} (h : sep ∉ front) (word tail : List Char) :
    sep :: word <:+: front ++ tail ↔ sep :: word <:+: tail := by
  induction front with
  | nil => rfl
  | cons c front ih =>
    obtain ⟨hc, hfront⟩ := List.ne_and_not_mem_of_not_mem_cons h
    rw [List.cons_append, List.infix_cons_iff, ih hfront, List.cons_prefix_cons]
    exact or_iff_right fun hstart => hc hstart.1

/-- Up to its first separator a text starts with one stretch only. -/
theorem prefix_sep_iff {part front : List Char} (hpart : sep ∉ part) (hfront : sep ∉ front)
    (tail : List Char) : part ++ [sep] <+: front ++ sep :: tail ↔ part = front := by
  induction part generalizing front with
  | nil =>
    cases front with
    | nil => simp
    | cons c front => simp [List.ne_of_not_mem_cons hfront]
  | cons d part ih =>
    cases front with
    | nil => simp [(List.ne_of_not_mem_cons hpart).symm]
    | cons c front =>
      have hrest := ih (List.not_mem_of_not_mem_cons hpart) (List.not_mem_of_not_mem_cons hfront)
      rw [List.cons_append, List.cons_append, List.cons_prefix_cons, hrest, List.cons.injEq]

/-- A stretch between neighbouring separators is the first one, or one behind it. -/
theorem between_iff {part front : List Char} (hpart : sep ∉ part) (hfront : sep ∉ front)
    (tail : List Char) :
    sep :: (part ++ [sep]) <:+: sep :: (front ++ sep :: tail) ↔
      part = front ∨ sep :: (part ++ [sep]) <:+: sep :: tail := by
  rw [List.infix_cons_iff, infix_append_iff hfront, List.cons_prefix_cons,
    prefix_sep_iff hpart hfront, and_iff_right rfl]

/-- **The parts of a text are the stretches between neighbouring separators**, where the text itself
stands between two separators. -/
theorem mem_split_iff (sep : Char) (cs part : List Char) :
    part ∈ split sep cs ↔ sep ∉ part ∧ sep :: (part ++ [sep]) <:+: sep :: (cs ++ [sep]) := by
  by_cases h : sep ∈ cs
  · obtain ⟨front, rest, hcut, hfront⟩ := List.eq_append_cons_of_mem h
    have ih := mem_split_iff sep rest part
    rw [hcut, split_append hfront, List.mem_cons, ih, List.append_assoc, List.cons_append]
    constructor
    · rintro (rfl | ⟨hpart, hbetween⟩)
      · exact ⟨hfront, (between_iff hfront hfront _).mpr (Or.inl rfl)⟩
      · exact ⟨hpart, (between_iff hpart hfront _).mpr (Or.inr hbetween)⟩
    · rintro ⟨hpart, hbetween⟩
      exact ((between_iff hpart hfront _).mp hbetween).imp_right fun hrest => ⟨hpart, hrest⟩
  · rw [split_of_not_mem h, List.mem_singleton]
    constructor
    · rintro rfl
      exact ⟨h, List.infix_rfl⟩
    · rintro ⟨hpart, hbetween⟩
      refine ((between_iff hpart h []).mp hbetween).resolve_right fun hshort => ?_
      -- Two separators do not fit into one.
      have hlength := hshort.length_le
      simp at hlength
termination_by cs.length
decreasing_by
  rw [hcut, List.length_append, List.length_cons]
  omega

theorem infix_of_concat {part cs : List Char} (h : part ++ [sep] <:+: cs ++ [sep]) :
    part <:+: cs := by
  rcases List.infix_concat_iff.mp h with hend | hinside
  · exact (List.suffix_append_self_iff.mp hend).isInfix
  · exact (List.prefix_append part [sep]).isInfix.trans hinside

theorem infix_of_cons {part cs : List Char} (h : sep :: part <:+: sep :: cs) : part <:+: cs := by
  rcases List.infix_cons_iff.mp h with hstart | hinside
  · exact (List.cons_prefix_cons.mp hstart).2.isInfix
  · exact (List.suffix_cons sep part).isInfix.trans hinside

/-- A word without separators starts a part exactly if it starts the text or stands behind a
separator. -/
theorem exists_start_iff {word : List Char} (hword : sep ∉ word) (cs : List Char) :
    (∃ part ∈ split sep cs, word <+: part) ↔ word <+: cs ∨ sep :: word <:+: cs := by
  have hpadded : sep :: word <:+: sep :: cs ↔ word <+: cs ∨ sep :: word <:+: cs := by
    rw [List.infix_cons_iff, List.cons_prefix_cons, and_iff_right rfl]
  rw [← hpadded]
  constructor
  · rintro ⟨part, hmem, hstart⟩
    have hbetween := ((mem_split_iff sep cs part).mp hmem).2
    exact ((List.prefix_cons_inj sep).mpr hstart).isInfix.trans (infix_of_concat hbetween)
  · rintro ⟨x, y, htext⟩
    -- The part goes on to the next separator.
    obtain ⟨more, rest, hcut, hmore⟩ := List.eq_append_cons_of_mem (List.mem_append_right y
      (List.mem_singleton_self sep))
    refine ⟨word ++ more, (mem_split_iff sep cs _).mpr ⟨?_, x, rest, ?_⟩, List.prefix_append _ _⟩
    · exact fun hmem => (List.mem_append.mp hmem).elim hword hmore
    · calc x ++ sep :: (word ++ more ++ [sep]) ++ rest
          = x ++ sep :: word ++ (more ++ sep :: rest) := by simp
        _ = x ++ sep :: word ++ y ++ [sep] := by rw [← hcut, List.append_assoc _ y]
        _ = sep :: (cs ++ [sep]) := by rw [htext, List.cons_append]

/-- A word without separators ends a part exactly if it ends the text or stands before a
separator. -/
theorem exists_ending_iff {word : List Char} (hword : sep ∉ word) (cs : List Char) :
    (∃ part ∈ split sep cs, word <:+ part) ↔ word <:+ cs ∨ word ++ [sep] <:+: cs := by
  have hpadded : word ++ [sep] <:+: cs ++ [sep] ↔ word <:+ cs ∨ word ++ [sep] <:+: cs := by
    rw [List.infix_concat_iff, List.suffix_append_self_iff]
  rw [← hpadded]
  constructor
  · rintro ⟨part, hmem, hend⟩
    have hbetween := ((mem_split_iff sep cs part).mp hmem).2
    exact (List.suffix_append_self_iff.mpr hend).isInfix.trans (infix_of_cons hbetween)
  · rintro ⟨x, y, htext⟩
    -- The part goes back to the separator before.
    obtain ⟨rest, more, hcut, hmore⟩ := exists_last_sep (List.mem_cons_self (l := x))
    refine ⟨more ++ word, (mem_split_iff sep cs _).mpr ⟨?_, rest, y, ?_⟩, List.suffix_append _ _⟩
    · exact fun hmem => (List.mem_append.mp hmem).elim hmore hword
    · calc rest ++ sep :: (more ++ word ++ [sep]) ++ y
          = rest ++ sep :: more ++ (word ++ [sep] ++ y) := by simp
        _ = sep :: x ++ (word ++ [sep] ++ y) := by rw [← hcut]
        _ = sep :: (cs ++ [sep]) := by rw [List.cons_append, ← List.append_assoc, htext]

/-- A text has an empty part exactly if it is empty itself, or has a separator at one of its ends,
or two of them side by side. -/
theorem nil_mem_split_iff (sep : Char) (cs : List Char) :
    [] ∈ split sep cs ↔ cs = [] ∨ [sep] <+: cs ∨ [sep] <:+ cs ∨ [sep, sep] <:+: cs := by
  have hstart : [sep] <+: cs ++ [sep] ↔ cs = [] ∨ [sep] <+: cs := by
    cases cs with
    | nil => simp
    | cons c rest => simp
  have hend : [sep] ++ [sep] <:+ cs ++ [sep] ↔ [sep] <:+ cs := List.suffix_append_self_iff
  rw [mem_split_iff, and_iff_right List.not_mem_nil, List.nil_append, List.infix_cons_iff,
    List.cons_prefix_cons, and_iff_right rfl, hstart, List.infix_concat_iff, or_assoc]
  exact or_congr_right (or_congr_right (or_congr_left hend))

end Text

/-! ## 2. The grammar -/

namespace RefName

/-- A path of at least two components that follow the rules of naming. -/
structure IsPath (cs : List Char) : Prop where
  several : 2 ≤ (Text.split '/' cs).length
  components : ∀ part ∈ Text.split '/' cs,
    part ≠ [] ∧ ¬ ['.'] <+: part ∧ ¬ ".lock".toList <:+ part
  noDots : ¬ ['.', '.'] <:+: cs
  noBrace : ¬ ['@', '\x7b'] <:+: cs
  chars : ∀ c ∈ cs, 0x20 ≤ c.toNat ∧
    c ∉ [Char.ofNat 0x7F, ' ', '~', '^', ':', '?', '*', '[', '\\']
  noEndDot : ¬ ['.'] <:+ cs

/-- The head, or a path. -/
def InGrammar (name : RefName) : Prop := name = head ∨ IsPath name.toList

theorem forbidden_eq_false_iff (c : Char) :
    forbidden c = false ↔ 0x20 ≤ c.toNat ∧ c ∉ forbiddenChars := by
  rw [forbidden, Bool.or_eq_false_iff, decide_eq_false_iff_not, Nat.not_lt,
    List.contains_eq_mem, decide_eq_false_iff_not]

/-- Each rule on components is a search in the whole text. -/
theorem components_iff {cs : List Char} (hne : cs ≠ []) :
    (∀ part ∈ Text.split '/' cs, part ≠ [] ∧ ¬ ['.'] <+: part ∧ ¬ ".lock".toList <:+ part) ↔
      ¬ (['/'] <+: cs ∨ ['/'] <:+ cs ∨ ['/', '/'] <:+: cs) ∧
      ¬ (['.'] <+: cs ∨ ['/', '.'] <:+: cs) ∧
      ¬ (".lock".toList <:+ cs ∨ ".lock/".toList <:+: cs) := by
  have hempty := (Text.nil_mem_split_iff '/' cs).trans (or_iff_right hne)
  have hdot := Text.exists_start_iff (show '/' ∉ ['.'] by decide) cs
  have hlock := Text.exists_ending_iff (show '/' ∉ ".lock".toList by decide) cs
  rw [← hempty, ← hdot, show ".lock/".toList = ".lock".toList ++ ['/'] from rfl, ← hlock]
  simp only [imp_and, forall_and, not_exists, not_and]
  exact and_congr_left' ⟨fun h hmem => h [] hmem rfl, fun h part hpart hnil => h (hnil ▸ hpart)⟩

/-- A name has no fault of a path exactly if it is one. -/
theorem pathFault?_eq_none_iff_isPath (cs : List Char) : pathFault? cs = none ↔ IsPath cs := by
  have hseveral : 2 ≤ (Text.split '/' cs).length ↔ '/' ∈ cs := by
    rw [Text.length_split, ← List.count_pos_iff]
    omega
  rw [pathFault?_eq_none_iff]
  constructor
  · rintro ⟨hslash, hclean, hendslash, henddot, hlock⟩
    have hparts := hclean.parts
    simp only [badParts, List.forall_mem_cons] at hparts
    obtain ⟨hslashdot, hdots, hbrace, hslashes, hlockslash, -⟩ := hparts
    refine ⟨hseveral.mpr hslash, (components_iff (List.ne_nil_of_mem hslash)).mpr ?_, hdots, hbrace,
      fun c hc => (forbidden_eq_false_iff c).mp (hclean.chars c hc), henddot⟩
    exact ⟨not_or.mpr ⟨hclean.noSlash, not_or.mpr ⟨hendslash, hslashes⟩⟩,
      not_or.mpr ⟨hclean.noDot, hslashdot⟩, not_or.mpr ⟨hlock, hlockslash⟩⟩
  · intro h
    have hslash := hseveral.mp h.several
    obtain ⟨hslashes, hdot, hlock⟩ := (components_iff (List.ne_nil_of_mem hslash)).mp h.components
    obtain ⟨hstart, hends, hdouble⟩ := by simpa only [not_or] using hslashes
    obtain ⟨hdotstart, hslashdot⟩ := not_or.mp hdot
    obtain ⟨hlockend, hlockslash⟩ := not_or.mp hlock
    refine ⟨hslash, ⟨hdotstart, hstart, ?_, ?_⟩, hends, h.noEndDot, hlockend⟩
    · simp only [badParts, List.forall_mem_cons]
      exact ⟨hslashdot, h.noDots, h.noBrace, hdouble, hlockslash,
        fun _ hmem => absurd hmem List.not_mem_nil⟩
    · exact fun c hc => (forbidden_eq_false_iff c).mpr (h.chars c hc)

theorem fault?_eq_none_iff (name : RefName) : fault? name = none ↔ InGrammar name := by
  rw [fault?, InGrammar, ← pathFault?_eq_none_iff_isPath]
  by_cases hempty : name = ""
  · subst hempty
    decide
  · rw [if_neg hempty]
    by_cases hhead : name = head
    · rw [if_pos hhead]
      exact iff_of_true rfl (Or.inl hhead)
    · rw [if_neg hhead, or_iff_right hhead]

theorem branchFault?_eq_none_iff (branch : String) :
    branchFault? branch = none ↔
      branch ≠ "" ∧ ¬ ['-'] <+: branch.toList ∧ InGrammar (ofBranch branch) := by
  rw [branchFault?, ← fault?_eq_none_iff, ← List.isPrefixOf_iff_prefix]
  by_cases hempty : branch = ""
  · simp [hempty]
  · rw [if_neg hempty]
    by_cases hhyphen : ['-'].isPrefixOf branch.toList = true
    · simp [hhyphen]
    · simp [hempty, hhyphen]

/-- **Names without faults are those of the grammar.** A reference name has no fault exactly if it is
`HEAD`, or a path of at least two components that keeps the rules; a branch name has none exactly if
it is not empty, does not start with a hyphen, and its reference has a name of the grammar. -/
theorem noFault_iff_inGrammar :
    (∀ name, fault? name = none ↔ InGrammar name) ∧
      ∀ branch, branchFault? branch = none ↔
        branch ≠ "" ∧ ¬ ['-'] <+: branch.toList ∧ InGrammar (ofBranch branch) :=
  ⟨fault?_eq_none_iff, branchFault?_eq_none_iff⟩

end RefName
end CommitStore
