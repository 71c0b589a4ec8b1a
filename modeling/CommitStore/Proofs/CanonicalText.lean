import CommitStore.Json.Reader
import CommitStore.Proofs.ObjectIds
import Mathlib.Data.List.Forall2
set_option autoImplicit false

/-!
# Reading a canonical text back

Two documents of one shape have one canonical text only if they hold the same texts. A string ends
at the first quote that is not escaped, so what is written after a string can be told from it; the
reader of `Json/Reader` is the left inverse that shows this. An array of strings ends at the bracket
that follows a string without a comma.

`commitPayload_eq_of_textOf_eq` is what the ids rest on: a commit is hashed from a text in which its
parents, its message and its time can be found again.
-/

namespace CommitStore
namespace Json

/-! ## 1. Strings -/

theorem hexValue?_digitChar {d : Nat} (h : d < 16) : hexValue? (Nat.digitChar d) = some d := by
  have hall : ∀ d < 16, hexValue? (Nat.digitChar d) = some d := by decide
  exact hall d h

/-- Four hexadecimal digits are read back as the number that they write. -/
theorem readUnit?_hexDigits {n : Nat} (h : n < 0x10000) (rest : List Char) :
    readUnit? (Text.hexDigits 4 n ++ rest) = some (n, rest) := by
  have hdigit : ∀ m, hexValue? (Nat.digitChar (m % 16)) = some (m % 16) := fun m =>
    hexValue?_digitChar (Nat.mod_lt m (by decide))
  have hvalue : ((n / 16 / 16 / 16 % 16 * 16 + n / 16 / 16 % 16) * 16 + n / 16 % 16) * 16 + n % 16 =
      n := by omega
  simp [Text.hexDigits, readUnit?, hdigit, hvalue]

theorem readString?_unitEscape (fuel : Nat) (acc : List Char) {n : Nat} (h : n < 0xD800)
    (rest : List Char) :
    readString? (fuel + 1) acc (unitEscape n ++ rest) =
      readString? fuel (Char.ofNat n :: acc) rest := by
  have hunit : readUnit? (Text.hexDigits 4 n ++ rest) = some (n, rest) :=
    readUnit?_hexDigits (by omega) rest
  have hplain : ¬ (0xD800 ≤ n ∧ n < 0xDC00) := by omega
  rw [unitEscape, List.cons_append, List.cons_append, readString?, hunit]
  simp only [bind, Option.bind, if_neg hplain]

/-- A character that is written by one letter after a backslash is read back. -/
theorem readString?_letter (fuel : Nat) (acc rest : List Char) {letter c : Char}
    (hletter : letterEscape? letter = some c) (hunit : letter ≠ 'u') :
    readString? (fuel + 1) acc ('\\' :: letter :: rest) = readString? fuel (c :: acc) rest := by
  rw [readString?]
  · simp only [hletter, bind, Option.bind]
  · intro h
    exact hunit h

theorem readString?_plain (fuel : Nat) (acc rest : List Char) {c : Char} (hbackslash : c ≠ '\\')
    (hquote : c ≠ Text.doubleQuote) :
    readString? (fuel + 1) acc (c :: rest) = readString? fuel (c :: acc) rest := by
  rw [readString?]
  · exact if_neg hquote
  · intro _ h
    exact absurd h hbackslash
  · intro _ _ h
    exact absurd h hbackslash

/-- Each written character is read back in one step. -/
theorem readString?_escapeChar (fuel : Nat) (acc : List Char) (c : Char) (rest : List Char) :
    readString? (fuel + 1) acc (escapeChar false c ++ rest) = readString? fuel (c :: acc) rest := by
  unfold escapeChar
  split
  · next hmark =>
    rcases hmark with rfl | rfl <;> exact readString?_letter fuel acc rest (by decide) (by decide)
  split
  · next h => exact h ▸ readString?_letter fuel acc rest (by decide) (by decide)
  split
  · next h => exact h ▸ readString?_letter fuel acc rest (by decide) (by decide)
  split
  · next h => exact h ▸ readString?_letter fuel acc rest (by decide) (by decide)
  split
  · next h =>
    have hc : c = Char.ofNat 0x08 := by rw [← h, Char.ofNat_toNat]
    exact hc ▸ readString?_letter fuel acc rest (by decide) (by decide)
  split
  · next h =>
    have hc : c = Char.ofNat 0x0C := by rw [← h, Char.ofNat_toNat]
    exact hc ▸ readString?_letter fuel acc rest (by decide) (by decide)
  split
  · next h =>
    rw [readString?_unitEscape fuel acc (by omega), Char.ofNat_toNat]
  · next hmark _ _ _ _ _ _ =>
    rw [if_neg (by simp)]
    exact readString?_plain fuel acc rest (fun h => hmark (Or.inr h)) fun h => hmark (Or.inl h)

/-- The rest of a string is read up to its closing quote, with one step for each character. -/
theorem readString?_escaped (cs : List Char) {fuel : Nat} (hfuel : cs.length < fuel)
    (acc rest : List Char) :
    readString? fuel acc (cs.flatMap (escapeChar false) ++ Text.doubleQuote :: rest) =
      some (cs.reverse ++ acc, rest) := by
  induction cs generalizing fuel acc with
  | nil =>
    obtain ⟨fuel, rfl⟩ : ∃ n, fuel = n + 1 := ⟨fuel - 1, by simp at hfuel; omega⟩
    rw [List.flatMap_nil, List.nil_append, readString?]
    · exact if_pos rfl
    · intro _ h
      exact absurd h (by decide)
    · intro _ _ h
      exact absurd h (by decide)
  | cons c cs ih =>
    obtain ⟨fuel, rfl⟩ : ∃ n, fuel = n + 1 := ⟨fuel - 1, by simp at hfuel; omega⟩
    rw [List.flatMap_cons, List.append_assoc, readString?_escapeChar,
      ih (by simpa using hfuel), List.reverse_cons, List.append_assoc]
    rfl

/-- What follows a written string can be told from it. -/
theorem renderText_append_inj {a b : String} {rest rest' : List Char}
    (h : renderText false a ++ rest = renderText false b ++ rest') : a = b ∧ rest = rest' := by
  have hchars : a.toList.flatMap (escapeChar false) ++ Text.doubleQuote :: rest =
      b.toList.flatMap (escapeChar false) ++ Text.doubleQuote :: rest' := by
    simpa [renderText] using h
  -- Both strings are read from one text, with fuel for either of them.
  let fuel := a.toList.length + b.toList.length + 1
  have ha : readString? fuel [] _ = some (a.toList.reverse ++ [], rest) :=
    readString?_escaped a.toList (by omega) [] rest
  have hb : readString? fuel [] _ = some (b.toList.reverse ++ [], rest') :=
    readString?_escaped b.toList (by omega) [] rest'
  rw [hchars, hb] at ha
  obtain ⟨hreverse, hrest⟩ := Prod.mk.inj (Option.some.inj ha)
  refine ⟨String.toList_inj.mp ?_, hrest.symm⟩
  simpa using hreverse.symm

/-! ## 2. Entries between brackets -/

theorem intercalate_cons {α : Type} (separator first : List α) (rest : List (List α)) :
    separator.intercalate (first :: rest) = first ++ rest.flatMap (separator ++ ·) := by
  induction rest generalizing first with
  | nil => simp [List.intercalate]
  | cons second rest ih => rw [List.intercalate_cons_cons, ih]; simp

/-- A text does not go on with a digit. -/
def Delimited (cs : List Char) : Prop := ∀ c, cs.head? = some c → c.isDigit = false

theorem delimited_cons {c : Char} (h : c.isDigit = false) (rest : List Char) :
    Delimited (c :: rest) := by
  intro other hother
  rw [List.head?_cons] at hother
  cases hother
  exact h

section

variable {α : Type} {f : α → List Char} {R : α → α → Prop} {close : Char} {xs ys : List α}
  {rest rest' : List Char}

theorem delimited_further (hclose : close.isDigit = false) (xs : List α) (rest : List Char) :
    Delimited (xs.flatMap (fun x => ',' :: f x) ++ close :: rest) := by
  cases xs with
  | nil => exact delimited_cons hclose rest
  | cons x xs => exact delimited_cons (by decide) _

/-- The entries after the first one end at the closing bracket, if the texts of the entries can be
told from what follows them. -/
theorem further_inj (hcomma : close ≠ ',') (hclose : close.isDigit = false)
    (hone : ∀ x ∈ xs, ∀ y ∈ ys, ∀ rest rest', Delimited rest → Delimited rest' →
      f x ++ rest = f y ++ rest' → R x y ∧ rest = rest')
    (h : xs.flatMap (fun x => ',' :: f x) ++ close :: rest =
      ys.flatMap (fun y => ',' :: f y) ++ close :: rest') :
    List.Forall₂ R xs ys ∧ rest = rest' := by
  induction xs generalizing ys with
  | nil =>
    cases ys with
    | nil => exact ⟨.nil, (List.cons.inj h).2⟩
    | cons y ys => exact absurd (List.cons.inj h).1 hcomma
  | cons x xs ih =>
    cases ys with
    | nil => exact absurd (List.cons.inj h).1.symm hcomma
    | cons y ys =>
      simp only [List.flatMap_cons, List.cons_append, List.append_assoc, List.cons.injEq,
        true_and] at h
      obtain ⟨hfirst, hfurther⟩ := hone x List.mem_cons_self y List.mem_cons_self _ _
        (delimited_further hclose xs rest) (delimited_further hclose ys rest') h
      obtain ⟨hall, hrest⟩ := ih (fun x hx y hy =>
        hone x (List.mem_cons_of_mem _ hx) y (List.mem_cons_of_mem _ hy)) hfurther
      exact ⟨.cons hfirst hall, hrest⟩

/-- All entries can be told from what follows their closing bracket, if none of them begins with
that bracket. -/
theorem entries_inj (hcomma : close ≠ ',') (hclose : close.isDigit = false)
    (hbegins : ∀ x, x ∈ xs ∨ x ∈ ys → ∃ c cs, f x = c :: cs ∧ c ≠ close)
    (hone : ∀ x ∈ xs, ∀ y ∈ ys, ∀ rest rest', Delimited rest → Delimited rest' →
      f x ++ rest = f y ++ rest' → R x y ∧ rest = rest')
    (h : [','].intercalate (xs.map f) ++ close :: rest =
      [','].intercalate (ys.map f) ++ close :: rest') :
    List.Forall₂ R xs ys ∧ rest = rest' := by
  cases xs with
  | nil =>
    cases ys with
    | nil => exact ⟨.nil, (List.cons.inj h).2⟩
    | cons y ys =>
      obtain ⟨c, cs, hy, hc⟩ := hbegins y (Or.inr List.mem_cons_self)
      rw [List.map_cons, intercalate_cons, hy] at h
      exact absurd (List.cons.inj h).1.symm hc
  | cons x xs =>
    cases ys with
    | nil =>
      obtain ⟨c, cs, hx, hc⟩ := hbegins x (Or.inl List.mem_cons_self)
      rw [List.map_cons, intercalate_cons, hx] at h
      exact absurd (List.cons.inj h).1 hc
    | cons y ys =>
      rw [List.map_cons, List.map_cons, intercalate_cons, intercalate_cons, List.flatMap_map,
        List.flatMap_map, List.append_assoc, List.append_assoc] at h
      obtain ⟨hfirst, hfurther⟩ := hone x List.mem_cons_self y List.mem_cons_self _ _
        (delimited_further hclose xs rest) (delimited_further hclose ys rest') h
      obtain ⟨hall, hrest⟩ := further_inj hcomma hclose (fun x hx y hy =>
        hone x (List.mem_cons_of_mem _ hx) y (List.mem_cons_of_mem _ hy)) hfurther
      exact ⟨.cons hfirst hall, hrest⟩

end

theorem renderItems_eq (style : Style) (items : List Value) :
    renderItems style items = items.map (render style) := by
  induction items with
  | nil => rfl
  | cons item items ih => rw [renderItems, ih, List.map_cons]

/-- What follows a written array of strings can be told from it. -/
theorem render_texts_append_inj {texts texts' : List String} {rest rest' : List Char}
    (h : render canonical (.array (texts.map .text)) ++ rest =
      render canonical (.array (texts'.map .text)) ++ rest') : texts = texts' ∧ rest = rest' := by
  have hrender : ∀ (texts : List String) (rest : List Char),
      render canonical (.array (texts.map .text)) ++ rest =
        '[' :: ([','].intercalate (texts.map (renderText false)) ++ ']' :: rest) := by
    intro texts rest
    rw [render, renderItems_eq, List.map_map, List.append_assoc]
    rfl
  rw [hrender, hrender] at h
  obtain ⟨hall, hrest⟩ := entries_inj (R := Eq) (by decide) (by decide)
    (fun _ _ => ⟨_, _, rfl, by decide⟩)
    (fun _ _ _ _ _ _ _ _ htext => renderText_append_inj htext) (List.cons.inj h).2
  exact ⟨List.forall₂_eq_eq_eq ▸ hall, hrest⟩

end Json

/-! ## 3. Commits -/

namespace ObjectId

/-- **The text that a commit is hashed from holds its parents, its message and its time.** -/
theorem commitPayload_eq_of_textOf_eq {parents parents' : List Oid}
    {message message' timestamp timestamp' : String}
    (h : textOf .commit (commitPayload parents message timestamp) =
      textOf .commit (commitPayload parents' message' timestamp')) :
    parents = parents' ∧ message = message' ∧ timestamp = timestamp' := by
  rw [textOf_eq, textOf_eq, String.ofList_inj, render_commitPayload, render_commitPayload] at h
  simp only [List.map_cons, List.map_nil, Json.intercalate_cons, List.flatMap_cons,
    List.flatMap_nil, List.append_nil, List.append_assoc, List.append_cancel_left_eq,
    List.cons_append, List.nil_append, List.cons.injEq, true_and, Json.renderField] at h
  obtain ⟨hmessage, hafter⟩ := Json.renderText_append_inj h
  simp only [List.append_cancel_left_eq, List.cons.injEq, true_and] at hafter
  obtain ⟨hparents, hlast⟩ := Json.render_texts_append_inj hafter
  simp only [List.append_cancel_left_eq, List.cons.injEq, true_and] at hlast
  exact ⟨hparents, hmessage, (Json.renderText_append_inj hlast).1⟩

end ObjectId
end CommitStore
