import CommitStore.Proofs.CanonicalText
import Mathlib.Algebra.Group.Int.Defs
import Mathlib.Data.List.Sort
set_option autoImplicit false

/-!
# Canonical texts of values

Two values have one canonical text exactly if they are the same up to the order of the fields of
their objects, at every depth. That is for values without doubles, whose objects hold each key once,
and which have a text: a value does exactly if no whole number in it has too many digits (`IsShort`).

From the values to the text: the printer sorts the fields, and the order of distinct keys is strict.
From the text to the values: a written value can be told from what follows it, as long as no digit
follows (`IsExact.render_append_inj`, by induction on the value). The first character tells which
kind of value was written; numbers end where the digits end, strings at their quote, arrays and
objects at their bracket.

The ids of objects rest on it: equal documents have equal kinds and payloads.
-/

namespace CommitStore
namespace Json

/-! ## 1. Values up to the order of fields -/

/-- A value without doubles, in which no object has a key twice. -/
inductive Value.IsExact : Value → Prop
  | null : IsExact .null
  | bool (b : Bool) : IsExact (.bool b)
  | integer (n : Int) : IsExact (.integer n)
  | text (s : String) : IsExact (.text s)
  | array {items : List Value} (hitems : ∀ item ∈ items, IsExact item) : IsExact (.array items)
  | object {fields : List (String × Value)} (hkeys : (fields.map (·.1)).Nodup)
      (hfields : ∀ field ∈ fields, IsExact field.2) : IsExact (.object fields)

/-- Two values are the same up to the order of the fields of objects, at any depth. -/
inductive Value.Reordered : Value → Value → Prop
  | refl (v : Value) : Reordered v v
  | trans {u v w : Value} (huv : Reordered u v) (hvw : Reordered v w) : Reordered u w
  | permute {fields fields' : List (String × Value)} (h : fields.Perm fields') :
      Reordered (.object fields) (.object fields')
  | item {v w : Value} (before after : List Value) (h : Reordered v w) :
      Reordered (.array (before ++ v :: after)) (.array (before ++ w :: after))
  | field {v w : Value} (before : List (String × Value)) (key : String)
      (after : List (String × Value)) (h : Reordered v w) :
      Reordered (.object (before ++ (key, v) :: after)) (.object (before ++ (key, w) :: after))

namespace Value.Reordered

variable {v w : Value} {items items' : List Value} {fields fields' : List (String × Value)}

theorem symm (h : Reordered v w) : Reordered w v := by
  induction h with
  | refl v => exact .refl v
  | trans _ _ ihuv ihvw => exact .trans ihvw ihuv
  | permute h => exact .permute h.symm
  | item before after _ ih => exact .item before after ih
  | field before key after _ ih => exact .field before key after ih

/-- Items may be changed all at once. -/
theorem of_items (h : List.Forall₂ Reordered items items') :
    Reordered (.array items) (.array items') := by
  suffices hfrom : ∀ before, Reordered (.array (before ++ items)) (.array (before ++ items')) from
    hfrom []
  induction h with
  | nil => exact fun before => .refl _
  | @cons v w items items' hone _ ih =>
    intro before
    have hrest := ih (before ++ [w])
    rw [List.append_assoc, List.append_assoc] at hrest
    exact .trans (.item before items hone) hrest

/-- Values of fields may be changed all at once. -/
theorem of_fields (h : List.Forall₂ (fun a b : String × Value => a.1 = b.1 ∧ Reordered a.2 b.2)
    fields fields') : Reordered (.object fields) (.object fields') := by
  suffices hfrom : ∀ before, Reordered (.object (before ++ fields)) (.object (before ++ fields')) from
    hfrom []
  induction h with
  | nil => exact fun before => .refl _
  | @cons a b fields fields' hone _ ih =>
    intro before
    obtain ⟨key, v⟩ := a
    obtain ⟨key', w⟩ := b
    obtain ⟨rfl, hvalue⟩ : key = key' ∧ Reordered v w := hone
    have hrest := ih (before ++ [(key, w)])
    rw [List.append_assoc, List.append_assoc] at hrest
    exact .trans (.field before key fields hvalue) hrest

/-- What is exact stays exact. -/
theorem isExact (h : Reordered v w) (hv : v.IsExact) : w.IsExact := by
  induction h with
  | refl => exact hv
  | trans _ _ ihuv ihvw => exact ihvw (ihuv hv)
  | permute hperm =>
    cases hv with
    | object hkeys hfields =>
      exact .object ((hperm.map _).nodup_iff.mp hkeys)
        fun field hmem => hfields field (hperm.mem_iff.mpr hmem)
  | @item v w before after _ ih =>
    cases hv with
    | array hitems =>
      refine .array fun x hx => ?_
      rcases List.mem_append.mp hx with hbefore | hafter
      · exact hitems x (List.mem_append_left _ hbefore)
      · rcases List.mem_cons.mp hafter with rfl | hafter
        · exact ih (hitems v (List.mem_append_right _ List.mem_cons_self))
        · exact hitems x (List.mem_append_right _ (List.mem_cons_of_mem _ hafter))
  | @field v w before key after _ ih =>
    cases hv with
    | object hkeys hfields =>
      refine .object ?_ fun x hx => ?_
      · simpa using hkeys
      · rcases List.mem_append.mp hx with hbefore | hafter
        · exact hfields x (List.mem_append_left _ hbefore)
        · rcases List.mem_cons.mp hafter with rfl | hafter
          · exact ih (hfields (key, v) (List.mem_append_right _ List.mem_cons_self))
          · exact hfields x (List.mem_append_right _ (List.mem_cons_of_mem _ hafter))

end Value.Reordered

/-! ## 2. Numbers in a value -/

/-- A whole number is in a value, at any depth. -/
inductive Value.Holds : Value → Int → Prop
  | integer (n : Int) : Holds (.integer n) n
  | item {items : List Value} {item : Value} {n : Int} (hmem : item ∈ items) (h : Holds item n) :
      Holds (.array items) n
  | field {fields : List (String × Value)} {field : String × Value} {n : Int}
      (hmem : field ∈ fields) (h : Holds field.2 n) : Holds (.object fields) n

/-- No whole number in a value has more digits than can be written. -/
def Value.IsShort (v : Value) : Prop :=
  ∀ n, v.Holds n → (Numeral.digits n).length ≤ Numeral.maxDigits

theorem itemsAreWritable_iff (items : List Value) :
    itemsAreWritable items = true ↔ ∀ item ∈ items, item.isWritable = true := by
  induction items with
  | nil => simp [itemsAreWritable]
  | cons item items ih => simp [itemsAreWritable, ih]

theorem fieldsAreWritable_iff (fields : List (String × Value)) :
    fieldsAreWritable fields = true ↔ ∀ field ∈ fields, field.2.isWritable = true := by
  induction fields with
  | nil => simp [fieldsAreWritable]
  | cons field fields ih => simp [fieldsAreWritable, ih]

/-- Every number in a value that can be written is short. -/
theorem Value.Holds.length_digits {v : Value} {n : Int} (h : v.Holds n) (hv : v.isWritable = true) :
    (Numeral.digits n).length ≤ Numeral.maxDigits := by
  induction h with
  | integer n => exact of_decide_eq_true hv
  | item hmem _ ih => exact ih ((itemsAreWritable_iff _).mp hv _ hmem)
  | field hmem _ ih => exact ih ((fieldsAreWritable_iff _).mp hv _ hmem)

/-- A value cannot be written only because of a number in it. -/
theorem Value.IsShort.isWritable : (v : Value) → v.IsShort → v.isWritable = true
  | .null, _ | .bool _, _ | .double _, _ | .text _, _ => rfl
  | .integer n, h => decide_eq_true (h n (.integer n))
  | .array items, h =>
    (itemsAreWritable_iff items).mpr fun item hmem =>
      IsShort.isWritable item fun n hn => h n (.item hmem hn)
  | .object fields, h =>
    (fieldsAreWritable_iff fields).mpr fun field hmem =>
      IsShort.isWritable field.2 fun n hn => h n (.field hmem hn)
termination_by v => sizeOf v
decreasing_by
  · have := List.sizeOf_lt_of_mem hmem
    simp_wf
    omega
  · have := List.sizeOf_lt_of_mem hmem
    have : sizeOf field.2 < sizeOf field := by
      obtain ⟨key, value⟩ := field
      simp only [Prod.mk.sizeOf_spec]
      omega
    simp_wf
    omega

/-- A power of ten with so many zeros has one digit more. -/
theorem not_isShort_power {zeros : Nat} (h : Numeral.maxDigits ≤ zeros) :
    ¬ (Value.integer (10 ^ zeros)).IsShort := by
  intro hshort
  have hdigits := hshort _ (.integer _)
  rw [Numeral.digits, Nat.length_toDigits_le_iff (by decide) (by decide), Int.natAbs_pow] at hdigits
  exact absurd hdigits (Nat.not_lt.mpr (Nat.pow_le_pow_right (by decide) h))

theorem Value.isWritable_iff {v : Value} : v.isWritable = true ↔ v.IsShort :=
  ⟨fun hv _ hn => hn.length_digits hv, IsShort.isWritable v⟩

/-- The order of fields makes no difference to the numbers in a value. -/
theorem Value.Reordered.holds {v w : Value} {n : Int} (h : v.Reordered w) (hv : v.Holds n) :
    w.Holds n := by
  induction h with
  | refl => exact hv
  | trans _ _ ihuv ihvw => exact ihvw (ihuv hv)
  | permute hperm =>
    cases hv with
    | field hmem hn => exact .field (hperm.mem_iff.mp hmem) hn
  | item before after _ ih =>
    cases hv with
    | @item _ x _ hmem hn =>
      rcases List.mem_append.mp hmem with hbefore | hafter
      · exact .item (List.mem_append_left _ hbefore) hn
      · rcases List.mem_cons.mp hafter with rfl | hafter
        · exact .item (List.mem_append_right _ List.mem_cons_self) (ih hn)
        · exact .item (List.mem_append_right _ (List.mem_cons_of_mem _ hafter)) hn
  | @field v w before key after _ ih =>
    cases hv with
    | @field _ x _ hmem hn =>
      rcases List.mem_append.mp hmem with hbefore | hafter
      · exact .field (List.mem_append_left _ hbefore) hn
      · rcases List.mem_cons.mp hafter with rfl | hafter
        · have hmem : (key, w) ∈ before ++ (key, w) :: after :=
            List.mem_append_right _ List.mem_cons_self
          exact .field hmem (ih hn)
        · exact .field (List.mem_append_right _ (List.mem_cons_of_mem _ hafter)) hn

theorem Value.Reordered.isShort {v w : Value} (h : v.Reordered w) (hv : v.IsShort) : w.IsShort :=
  fun n hn => hv n (h.symm.holds hn)

/-! ## 3. Sorted fields -/

/-- Fields in the order of their keys. -/
def arranged (fields : List (String × Value)) : List (String × Value) :=
  fields.mergeSort fun a b => Text.notAfter a.1 b.1

theorem arranged_perm (fields : List (String × Value)) : (arranged fields).Perm fields :=
  List.mergeSort_perm _ _

theorem arranged_sorted (fields : List (String × Value)) :
    (arranged fields).Pairwise fun a b => Text.notAfter a.1 b.1 = true := by
  unfold arranged
  refine List.pairwise_mergeSort ?_ ?_ fields
  · exact fun a b c => Text.notAfter_trans a.1 b.1 c.1
  · exact fun a b => Text.notAfter_total a.1 b.1

theorem renderValues_eq (style : Style) (fields : List (String × Value)) :
    renderValues style fields = fields.map fun field => (field.1, render style field.2) := by
  induction fields with
  | nil => rfl
  | cons field fields ih => rw [renderValues, ih, List.map_cons]

/-- The canonical text of a field. -/
def fieldText (field : String × Value) : List Char :=
  renderText false field.1 ++ ':' :: render canonical field.2

theorem render_object (fields : List (String × Value)) :
    render canonical (.object fields) =
      '\x7b' :: ([','].intercalate ((arranged fields).map fieldText) ++ ['\x7d']) := by
  have hsort : (arranged fields).map (fun field => (field.1, render canonical field.2)) =
      (fields.map fun field => (field.1, render canonical field.2)).mergeSort
        fun a b => Text.notAfter a.1 b.1 := List.map_mergeSort fun _ _ _ _ => rfl
  have harranged : arrangeFields canonical (renderValues canonical fields) =
      (arranged fields).map fun field => (field.1, render canonical field.2) := by
    rw [renderValues_eq, hsort]
    rfl
  have hfield : renderField canonical ∘ (fun field => (field.1, render canonical field.2)) =
      fieldText := by
    funext field
    simp [renderField, fieldText, Style.separator, canonical]
  rw [render, harranged, List.map_map, hfield]
  rfl

/-- Fields with distinct keys are arranged in one way. -/
theorem arranged_eq_of_perm {fields fields' : List (String × Value)}
    (hkeys : (fields.map (·.1)).Nodup) (h : fields.Perm fields') :
    arranged fields = arranged fields' := by
  have hperm : (arranged fields).Perm (arranged fields') :=
    ((arranged_perm fields).trans h).trans (arranged_perm fields').symm
  refine hperm.eq_of_pairwise ?_ (arranged_sorted fields) (arranged_sorted fields')
  intro a b ha hb hab hba
  have hkey : a.1 = b.1 := by
    rw [Text.notAfter, Bool.not_eq_true'] at hab hba
    exact Text.eq_of_not_before hba hab
  have hfields := (arranged_perm fields).mem_iff.mp ha
  have hfields' := h.mem_iff.mpr ((arranged_perm fields').mem_iff.mp hb)
  exact List.inj_on_of_nodup_map hkeys hfields hfields' hkey

theorem render_array (items : List Value) :
    render canonical (.array items) =
      '[' :: ([','].intercalate (items.map (render canonical)) ++ [']']) := by
  rw [render, renderItems_eq]
  rfl

/-- **The canonical text does not depend on the order of fields.** -/
theorem Value.Reordered.render_eq {v w : Value} (h : Reordered v w) (hv : v.IsExact) :
    render canonical v = render canonical w := by
  induction h with
  | refl => rfl
  | trans huv _ ihuv ihvw => exact (ihuv hv).trans (ihvw (huv.isExact hv))
  | permute h =>
    cases hv with
    | object hkeys _ => rw [render_object, render_object, arranged_eq_of_perm hkeys h]
  | @item v w before after _ ih =>
    cases hv with
    | array hitems =>
      have hone := ih (hitems v (List.mem_append_right _ List.mem_cons_self))
      rw [render_array, render_array, List.map_append, List.map_append, List.map_cons,
        List.map_cons, hone]
  | @field v w before key after _ ih =>
    cases hv with
    | object _ hfields =>
      have hone := ih (hfields (key, v) (List.mem_append_right _ List.mem_cons_self))
      have hvalues : renderValues canonical (before ++ (key, v) :: after) =
          renderValues canonical (before ++ (key, w) :: after) := by
        simp only [renderValues_eq, List.map_append, List.map_cons, hone]
      rw [render, render, hvalues]

/-! ## 4. Numbers -/

theorem takeWhile_of_delimited {rest : List Char} (h : Delimited rest) :
    rest.takeWhile Char.isDigit = [] := by
  cases rest with
  | nil => rfl
  | cons c rest => rw [List.takeWhile_cons, h c rfl]; rfl

/-- Digits end where no digit follows. -/
theorem toDigits_append_inj {m n : Nat} {rest rest' : List Char} (hrest : Delimited rest)
    (hrest' : Delimited rest')
    (h : Nat.toDigits 10 m ++ rest = Nat.toDigits 10 n ++ rest') : m = n ∧ rest = rest' := by
  have hdigits : ∀ (m : Nat) {rest : List Char}, Delimited rest →
      (Nat.toDigits 10 m ++ rest).takeWhile Char.isDigit = Nat.toDigits 10 m := by
    intro m rest hrest
    rw [List.takeWhile_append_of_pos fun c hc =>
      Nat.isDigit_of_mem_toDigits (by decide) (by decide) hc, takeWhile_of_delimited hrest,
      List.append_nil]
  have hsame : Nat.toDigits 10 m = Nat.toDigits 10 n := by
    rw [← hdigits m hrest, h, hdigits n hrest']
  have hnumbers := congrArg (fun cs => Nat.ofDigitChars 10 cs 0) hsame
  simp only [Nat.ofDigitChars_ten_toDigits] at hnumbers
  rw [hsame] at h
  exact ⟨hnumbers, List.append_cancel_left h⟩

theorem toDigits_eq_cons (n : Nat) :
    ∃ c cs, Nat.toDigits 10 n = c :: cs ∧ c.isDigit = true := by
  cases hdigits : Nat.toDigits 10 n with
  | nil => exact absurd hdigits Nat.toDigits_ne_nil
  | cons c cs =>
    refine ⟨c, cs, rfl, Nat.isDigit_of_mem_toDigits (by decide) (by decide) (b := 10) (n := n) ?_⟩
    rw [hdigits]
    exact List.mem_cons_self

theorem renderInt_append_inj {m n : Int} {rest rest' : List Char} (hrest : Delimited rest)
    (hrest' : Delimited rest') (h : renderInt m ++ rest = renderInt n ++ rest') :
    m = n ∧ rest = rest' := by
  -- A sign is no digit.
  have hsign : ∀ (n : Nat) (rest rest' : List Char),
      '-' :: rest ≠ Nat.toDigits 10 n ++ rest' := by
    intro n rest rest' heq
    obtain ⟨c, cs, hdigits, hc⟩ := toDigits_eq_cons n
    rw [hdigits] at heq
    rw [← (List.cons.inj heq).1] at hc
    cases hc
  rw [renderInt, renderInt] at h
  by_cases hm : m < 0 <;> by_cases hn : n < 0 <;> simp only [hm, hn, if_true, if_false] at h
  · obtain ⟨habs, hsame⟩ := toDigits_append_inj hrest hrest' (List.cons.inj h).2
    exact ⟨by omega, hsame⟩
  · exact absurd h (hsign _ _ _)
  · exact absurd h.symm (hsign _ _ _)
  · obtain ⟨habs, hsame⟩ := toDigits_append_inj hrest hrest' h
    exact ⟨by omega, hsame⟩

/-! ## 5. Reading a value back -/

/-- What the first character of a written value tells of the value. -/
inductive Shape
  | null
  | bool
  | number
  | text
  | array
  | object
  deriving DecidableEq

/-- The shape of a value. -/
def Value.shape : Value → Shape
  | .null => .null
  | .bool _ => .bool
  | .integer _ | .double _ => .number
  | .text _ => .text
  | .array _ => .array
  | .object _ => .object

/-- The shape of the values whose texts begin with a character; `none` if no text does. -/
def Shape.ofFirst? (c : Char) : Option Shape :=
  if c = 'n' then some .null
  else if c = 't' ∨ c = 'f' then some .bool
  else if c = Text.doubleQuote then some .text
  else if c = '[' then some .array
  else if c = '\x7b' then some .object
  else if c = '-' ∨ c.isDigit then some .number
  else none

theorem Shape.ofFirst?_digit {c : Char} (h : c.isDigit = true) :
    Shape.ofFirst? c = some .number := by
  have hother : ∀ d : Char, d.isDigit = false → c ≠ d := by
    rintro d hd rfl
    rw [h] at hd
    cases hd
  simp only [ofFirst?, hother 'n' (by decide), hother 't' (by decide), hother 'f' (by decide),
    hother Text.doubleQuote (by decide), hother '[' (by decide), hother '\x7b' (by decide), h,
    or_self, or_true, if_false, if_true]

/-- **The first character of a text tells what kind of value it is of.** -/
theorem Value.IsExact.exists_first {v : Value} (hv : v.IsExact) :
    ∃ c cs, render canonical v = c :: cs ∧ Shape.ofFirst? c = some v.shape := by
  cases hv with
  | null => exact ⟨_, _, rfl, rfl⟩
  | bool b => cases b <;> exact ⟨_, _, rfl, rfl⟩
  | integer n =>
    rw [render, renderInt]
    split
    · exact ⟨_, _, rfl, rfl⟩
    · obtain ⟨c, cs, hdigits, hc⟩ := toDigits_eq_cons n.natAbs
      exact ⟨c, cs, hdigits, Shape.ofFirst?_digit hc⟩
  | text s => exact ⟨_, _, rfl, rfl⟩
  | array _ => exact ⟨_, _, render_array _, rfl⟩
  | object _ _ => exact ⟨_, _, render_object _, rfl⟩

theorem Value.IsExact.shape_eq {v w : Value} (hv : v.IsExact) (hw : w.IsExact)
    {rest rest' : List Char} (h : render canonical v ++ rest = render canonical w ++ rest') :
    v.shape = w.shape := by
  obtain ⟨c, cs, hv', hshape⟩ := hv.exists_first
  obtain ⟨d, ds, hw', hshape'⟩ := hw.exists_first
  rw [hv', hw'] at h
  rw [(List.cons.inj h).1, hshape'] at hshape
  exact (Option.some.inj hshape).symm

/-- **What follows a written value can be told from it**, and the value up to the order of
fields. -/
theorem Value.IsExact.render_append_inj {v w : Value} (hv : v.IsExact) (hw : w.IsExact)
    {rest rest' : List Char} (hrest : Delimited rest) (hrest' : Delimited rest')
    (h : render canonical v ++ rest = render canonical w ++ rest') :
    Reordered v w ∧ rest = rest' := by
  have hshape := hv.shape_eq hw h
  induction hv generalizing w rest rest' with
  | null =>
    cases hw with
    | null => exact ⟨.refl _, List.append_cancel_left h⟩
    | _ => cases hshape
  | bool b =>
    cases hw with
    | bool b' =>
      cases b <;> cases b'
      · exact ⟨.refl _, List.append_cancel_left h⟩
      · exact absurd (List.cons.inj h).1 (by decide)
      · exact absurd (List.cons.inj h).1 (by decide)
      · exact ⟨.refl _, List.append_cancel_left h⟩
    | _ => cases hshape
  | integer n =>
    cases hw with
    | integer n' =>
      obtain ⟨rfl, hsame⟩ := renderInt_append_inj hrest hrest' h
      exact ⟨.refl _, hsame⟩
    | _ => cases hshape
  | text s =>
    cases hw with
    | text s' =>
      obtain ⟨rfl, hsame⟩ := renderText_append_inj h
      exact ⟨.refl _, hsame⟩
    | _ => cases hshape
  | @array items hitems ih =>
    cases hw with
    | @array items' hitems' =>
      rw [render_array, render_array] at h
      simp only [List.cons_append, List.append_assoc, List.nil_append, List.cons.injEq,
        true_and] at h
      have hbegins : ∀ item, item ∈ items ∨ item ∈ items' →
          ∃ c cs, render canonical item = c :: cs ∧ c ≠ ']' := by
        intro item hitem
        obtain ⟨c, cs, htext, hfirst⟩ := (hitem.elim (hitems item) (hitems' item)).exists_first
        refine ⟨c, cs, htext, ?_⟩
        rintro rfl
        cases hfirst
      obtain ⟨hall, hsame⟩ := entries_inj (R := Reordered) (by decide) (by decide) hbegins
        (fun item hitem item' hitem' _ _ hrest hrest' htext =>
          ih item hitem (hitems' item' hitem') hrest hrest' htext
            ((hitems item hitem).shape_eq (hitems' item' hitem') htext)) h
      exact ⟨.of_items hall, hsame⟩
    | _ => cases hshape
  | @object fields hkeys hfields ih =>
    cases hw with
    | @object fields' hkeys' hfields' =>
      rw [render_object, render_object] at h
      simp only [List.cons_append, List.append_assoc, List.nil_append, List.cons.injEq,
        true_and] at h
      -- The texts of the fields are those of the arranged fields.
      have hone : ∀ field ∈ arranged fields, ∀ field' ∈ arranged fields', ∀ rest rest',
          Delimited rest → Delimited rest' →
          fieldText field ++ rest = fieldText field' ++ rest' →
          (field.1 = field'.1 ∧ Reordered field.2 field'.2) ∧ rest = rest' := by
        intro field hfield field' hfield' rest rest' hrest hrest' htext
        have hmem := (arranged_perm fields).mem_iff.mp hfield
        have hexact := hfields' field' ((arranged_perm fields').mem_iff.mp hfield')
        simp only [fieldText, List.append_assoc, List.cons_append] at htext
        obtain ⟨hkey, hafter⟩ := renderText_append_inj htext
        have hvalue := (List.cons.inj hafter).2
        obtain ⟨hsame, hrest⟩ := ih field hmem hexact hrest hrest' hvalue
          ((hfields field hmem).shape_eq hexact hvalue)
        exact ⟨⟨hkey, hsame⟩, hrest⟩
      obtain ⟨hall, hsame⟩ := entries_inj
        (R := fun a b : String × Value => a.1 = b.1 ∧ Reordered a.2 b.2) (by decide) (by decide)
        (fun _ _ => ⟨_, _, rfl, by decide⟩) hone h
      have hfirst : Reordered (.object fields) (.object (arranged fields)) :=
        .permute (arranged_perm fields).symm
      exact ⟨(hfirst.trans (.of_fields hall)).trans (.permute (arranged_perm fields')), hsame⟩
    | _ => cases hshape

/-- **Two values have one canonical text exactly if they differ in the order of fields only.** -/
theorem Value.IsExact.print_eq_iff {v w : Value} (hv : v.IsExact) (hw : w.IsExact) :
    v.print canonical = w.print canonical ↔ v.Reordered w := by
  rw [Value.print, Value.print, String.ofList_inj]
  constructor
  · intro htext
    have hnil : Delimited [] := fun c hc => by cases hc
    exact (hv.render_append_inj hw hnil hnil (congrArg (· ++ []) htext)).1
  · exact fun h => h.render_eq hv

end Json

/-! ## 6. Hashed documents -/

namespace ObjectId

open Json (Value canonical)

theorem render_document (kind : String) (payload : Value) :
    Json.render canonical (document kind payload) =
      "\x7b\"payload\":".toList ++ (Json.render canonical payload ++
        ',' :: ("\"type\":".toList ++ (Json.renderText false kind ++ ['\x7d']))) := by
  have harranged : Json.arranged [("type", .text kind), ("payload", payload)] =
      [("payload", payload), ("type", .text kind)] := by
    have hlater : Text.notAfter "type" "payload" = false := by decide
    rw [Json.arranged, mergeSort_pair]
    simp [hlater]
  have hpayload : Json.renderText false "payload" = "\"payload\"".toList := by decide
  have htype : Json.renderText false "type" = "\"type\"".toList := by decide
  rw [document, Json.render_object, harranged]
  simp [Json.fieldText, hpayload, htype, List.intercalate, Json.render, canonical]

theorem document_isExact {payload : Value} (h : payload.IsExact) (kind : String) :
    (document kind payload).IsExact := by
  refine .object (by simp) fun field hfield => ?_
  simp only [List.mem_cons, List.not_mem_nil, or_false] at hfield
  rcases hfield with rfl | rfl
  · exact .text kind
  · exact h

/-- **A hashed document holds its kind and its payload.** -/
theorem print_document_eq_iff {kind kind' : String} {payload payload' : Value}
    (h : payload.IsExact) (h' : payload'.IsExact) :
    (document kind payload).print canonical = (document kind' payload').print canonical ↔
      kind = kind' ∧ payload.Reordered payload' := by
  constructor
  · intro htext
    rw [Value.print, Value.print, String.ofList_inj, render_document, render_document] at htext
    obtain ⟨hpayload, hafter⟩ := h.render_append_inj h' (Json.delimited_cons (by decide) _)
      (Json.delimited_cons (by decide) _) (List.append_cancel_left htext)
    have hkind := List.append_cancel_left (List.cons.inj hafter).2
    exact ⟨(Json.renderText_append_inj hkind).1, hpayload⟩
  · rintro ⟨rfl, hpayload⟩
    refine ((document_isExact h kind).print_eq_iff (document_isExact h' kind)).mpr ?_
    exact .field [("type", .text kind)] "payload" [] hpayload

/-- A value has canonical bytes exactly if it is short, and they are those of its text. -/
theorem canonicalBytes_eq_ok_iff {v : Value} {bytes : ByteArray} :
    canonicalBytes v = .ok bytes ↔ v.IsShort ∧ bytes = (v.print canonical).toUTF8 := by
  rw [canonicalBytes, canonicalText, Value.print?, ← Value.isWritable_iff]
  by_cases hv : v.isWritable = true
  · rw [if_pos hv]
    simp [Except.map, hv, eq_comm]
  · rw [if_neg hv]
    simp [Except.map, hv]

theorem canonicalBytes_eq_error_iff {v : Value} :
    canonicalBytes v = .error .unwritableNumber ↔ ¬ v.IsShort := by
  rw [canonicalBytes, canonicalText, Value.print?, ← Value.isWritable_iff]
  by_cases hv : v.isWritable = true
  · rw [if_pos hv]
    simp [Except.map, hv]
  · rw [if_neg hv]
    simp [Except.map, hv]

/-- Two values have the same canonical bytes. -/
def SameBytes (v w : Value) : Prop :=
  ∃ bytes, canonicalBytes v = .ok bytes ∧ canonicalBytes w = .ok bytes

theorem sameBytes_iff {v w : Value} :
    SameBytes v w ↔ v.IsShort ∧ w.IsShort ∧ v.print canonical = w.print canonical := by
  have hbytes : ∀ s t : String, s.toUTF8 = t.toUTF8 ↔ s = t := fun _ _ => String.toByteArray_inj
  simp only [SameBytes, canonicalBytes_eq_ok_iff]
  constructor
  · rintro ⟨_, ⟨hv, rfl⟩, hw, hsame⟩
    exact ⟨hv, hw, (hbytes _ _).mp hsame⟩
  · rintro ⟨hv, hw, hsame⟩
    exact ⟨_, ⟨hv, rfl⟩, hw, (hbytes _ _).mpr hsame⟩

/-- The numbers in a document are those in its payload. -/
theorem isShort_document {kind : String} {payload : Value} :
    (document kind payload).IsShort ↔ payload.IsShort := by
  rw [← Value.isWritable_iff, ← Value.isWritable_iff, document]
  simp [Value.isWritable, Json.fieldsAreWritable]

/-- There are no numbers in the payload of a commit. -/
theorem isShort_commitPayload (parents : List Oid) (message timestamp : String) :
    (commitPayload parents message timestamp).IsShort := by
  have hparents : Json.itemsAreWritable (parents.map .text) = true :=
    (Json.itemsAreWritable_iff _).mpr (List.forall_mem_map.mpr fun _ _ => rfl)
  rw [← Value.isWritable_iff, commitPayload]
  simp [Value.isWritable, Json.fieldsAreWritable, hparents]

theorem isShort_blobPayload (data : String) : (blobPayload data).IsShort :=
  Value.isWritable_iff.mp rfl

theorem isShort_tagPayload (name : String) (target : Oid) (message : Option String) :
    (tagPayload name target message).IsShort := by
  cases message <;> exact Value.isWritable_iff.mp rfl

theorem idOf_of_isShort {payload : Value} (h : payload.IsShort) (kind : String) :
    idOf kind payload = .ok (ofPayload kind payload) := by
  have hdocument : (document kind payload).isWritable = true :=
    Value.isWritable_iff.mpr (isShort_document.mpr h)
  rw [idOf, canonicalText, Value.print?, if_pos hdocument]
  rfl

/-- Every commit, blob and tag has an id, the one that its payload is given. -/
theorem idOf_payloads :
    (∀ parents message timestamp, idOf ObjectKind.commit.text (commitPayload parents message timestamp)
      = .ok (ofCommit parents message timestamp)) ∧
    (∀ data, idOf ObjectKind.blob.text (blobPayload data) = .ok (ofBlob data)) ∧
    ∀ name target message, idOf ObjectKind.tag.text (tagPayload name target message) =
      .ok (ofTag name target message) :=
  ⟨fun _ _ _ => idOf_of_isShort (isShort_commitPayload _ _ _) _,
    fun _ => idOf_of_isShort (isShort_blobPayload _) _,
    fun _ _ _ => idOf_of_isShort (isShort_tagPayload _ _ _) _⟩

/-- **Canonical bytes are canonical and injective.** For values of null, booleans, integers, strings,
arrays and objects with distinct keys: two values have the same canonical bytes exactly if they are
the same up to the order of fields at every depth, and no integer in them has more digits than can be
written. Only a value with such an integer has no canonical bytes. The documents that are hashed into
ids are the same exactly if kind and payload are, and those of commits, which always have bytes,
exactly if the parents in their order, the message and the time are. -/
theorem canonicalBytes_eq_iff :
    (∀ v w : Value, v.IsExact → w.IsExact → (SameBytes v w ↔ v.IsShort ∧ v.Reordered w)) ∧
    (∀ v : Value, canonicalBytes v = .error .unwritableNumber ↔
      ∃ n, v.Holds n ∧ Numeral.maxDigits < (Numeral.digits n).length) ∧
    (∀ kind kind' payload payload', payload.IsExact → payload'.IsExact →
      (SameBytes (document kind payload) (document kind' payload') ↔
        payload.IsShort ∧ kind = kind' ∧ payload.Reordered payload')) ∧
    ∀ parents parents' message message' timestamp timestamp',
      (SameBytes (document ObjectKind.commit.text (commitPayload parents message timestamp))
          (document ObjectKind.commit.text (commitPayload parents' message' timestamp')) ↔
        parents = parents' ∧ message = message' ∧ timestamp = timestamp') := by
  refine ⟨fun v w hv hw => ?_, fun v => ?_, fun kind kind' payload payload' h h' => ?_, ?_⟩
  · rw [sameBytes_iff, hv.print_eq_iff hw]
    exact ⟨fun ⟨hshort, _, hsame⟩ => ⟨hshort, hsame⟩,
      fun ⟨hshort, hsame⟩ => ⟨hshort, hsame.isShort hshort, hsame⟩⟩
  · rw [canonicalBytes_eq_error_iff, Value.IsShort]
    simp
  · rw [sameBytes_iff, isShort_document, isShort_document, print_document_eq_iff h h']
    exact ⟨fun ⟨hshort, _, hsame⟩ => ⟨hshort, hsame⟩,
      fun ⟨hshort, hkind, hsame⟩ => ⟨hshort, hsame.isShort hshort, hkind, hsame⟩⟩
  · intro parents parents' message message' timestamp timestamp'
    rw [sameBytes_iff, isShort_document, isShort_document]
    constructor
    · rintro ⟨_, _, hsame⟩
      exact commitPayload_eq_of_textOf_eq hsame
    · rintro ⟨rfl, rfl, rfl⟩
      exact ⟨isShort_commitPayload _ _ _, isShort_commitPayload _ _ _, rfl⟩

/-- The theorem at an object within an object, with the fields of both in another order. -/
theorem canonicalBytes_eq_iff_nested :
    let inner : Value := .object [("b", .null), ("a", .integer (-10))]
    let inner' : Value := .object [("a", .integer (-10)), ("b", .null)]
    let v : Value := .object [("y", .array [inner, .text "\n"]), ("x", .bool true)]
    let w : Value := .object [("x", .bool true), ("y", .array [inner', .text "\n"])]
    v.IsExact ∧ w.IsExact ∧ v.IsShort ∧ SameBytes v w := by
  intro inner inner' v w
  have hinner : inner.IsExact := by
    refine .object (by decide) fun field hfield => ?_
    simp only [List.mem_cons, List.not_mem_nil, or_false] at hfield
    rcases hfield with rfl | rfl
    · exact .null
    · exact .integer (-10)
  have hv : v.IsExact := by
    refine .object (by decide) fun field hfield => ?_
    simp only [List.mem_cons, List.not_mem_nil, or_false] at hfield
    rcases hfield with rfl | rfl
    · refine .array fun item hitem => ?_
      simp only [List.mem_cons, List.not_mem_nil, or_false] at hitem
      rcases hitem with rfl | rfl
      · exact hinner
      · exact .text "\n"
    · exact .bool true
  have hreordered : v.Reordered w := by
    have hswapped : inner.Reordered inner' := .permute (.swap _ _ _)
    refine .trans (.field [] "y" _ (.item [] [.text "\n"] hswapped)) (.permute (.swap _ _ _))
  have hw : w.IsExact := hreordered.isExact hv
  have hshort : v.IsShort := Value.isWritable_iff.mp (by decide)
  exact ⟨hv, hw, hshort, (canonicalBytes_eq_iff.1 v w hv hw).mpr ⟨hshort, hreordered⟩⟩

/-- **The first integer with too many digits has no canonical bytes**, and so not the same ones as
itself. -/
theorem canonicalBytes_longNumber :
    let v : Value := .integer (10 ^ 4300)
    v.IsExact ∧ v.Reordered v ∧ canonicalBytes v = .error .unwritableNumber ∧ ¬ SameBytes v v := by
  intro v
  have hlong : ¬ v.IsShort := Json.not_isShort_power (Nat.le_refl _)
  refine ⟨.integer _, .refl v, canonicalBytes_eq_error_iff.mpr hlong, ?_⟩
  rw [sameBytes_iff]
  exact fun h => hlong h.1

end ObjectId
end CommitStore
