import CommitStore.Object.Id
import CommitStore.Proofs.PinNames
set_option autoImplicit false

/-!
# What ids are

The id of an object is a text of hexadecimal digits, so it can always be part of a reference name.
The text that is hashed ends with the kind of the object, so objects of different kinds are hashed
from different texts: where different texts have different digests, an id tells the kind.
-/

namespace CommitStore

/-! ## 1. Digests -/

namespace Sha256

theorem length_bigEndian (count n : Nat) : (bigEndian count n).length = count := by
  induction count generalizing n with
  | zero => rfl
  | succ count ih => rw [bigEndian, List.length_append, ih, List.length_singleton]

theorem length_digest (message : List UInt8) : (digest message).length = 32 := by
  simp [digest, length_bigEndian]

theorem isHexDigit_of_mem_hexDigits {width n : Nat} {c : Char} (h : c ∈ Text.hexDigits width n) :
    Reserved.isHexDigit c = true := by
  induction width generalizing n with
  | zero => exact absurd h List.not_mem_nil
  | succ width ih =>
    rw [Text.hexDigits, List.mem_append, List.mem_singleton] at h
    rcases h with h | rfl
    · exact ih h
    · have hdigits : ∀ d < 16, Reserved.isHexDigit (Nat.digitChar d) = true := by decide
      exact hdigits _ (Nat.mod_lt _ (by decide))

theorem isHex_hexOfText (s : String) : Reserved.IsHex (hexOfText s) := by
  unfold Reserved.IsHex hexOfText
  rw [String.toList_ofList]
  constructor
  · intro hnil
    -- The digest has a first byte, and a byte has digits.
    cases hdigest : digest s.toUTF8.data.toList with
    | nil =>
      have hlength := length_digest s.toUTF8.data.toList
      rw [hdigest] at hlength
      cases hlength
    | cons b rest =>
      rw [hdigest, List.flatMap_cons, List.append_eq_nil_iff] at hnil
      have hdigits := Text.length_hexDigits 2 b.toNat
      rw [hnil.1] at hdigits
      cases hdigits
  · intro c hc
    obtain ⟨b, _, hb⟩ := List.mem_flatMap.mp hc
    exact isHexDigit_of_mem_hexDigits hb

end Sha256

/-! ## 2. Hashed texts -/

namespace ObjectId

/-- The text of the document that an object's id is the digest of. -/
def textOf (kind : ObjectKind) (payload : Json.Value) : String :=
  (document kind.text payload).print Json.canonical

theorem ofPayload_eq (kind : ObjectKind) (payload : Json.Value) :
    ofPayload kind.text payload = Sha256.hexOfText (textOf kind payload) := rfl

theorem mergeSort_pair {α : Type} (le : α → α → Bool) (a b : α) :
    [a, b].mergeSort le = if le a b then [a, b] else [b, a] := by
  rw [List.mergeSort]
  simp [List.MergeSort.Internal.splitInTwo, List.splitAt, List.splitAt.go, List.merge]

theorem mergeSort_triple {α : Type} (le : α → α → Bool) (a b c : α) :
    [a, b, c].mergeSort le = (if le a b then [a, b] else [b, a]).merge [c] le := by
  rw [List.mergeSort]
  simp [List.MergeSort.Internal.splitInTwo, List.splitAt, List.splitAt.go, mergeSort_pair]

/-- In the text of a document the payload comes first, and the kind last. -/
theorem textOf_eq (kind : ObjectKind) (payload : Json.Value) :
    textOf kind payload = String.ofList ("\x7b\"payload\":".toList ++
      Json.render Json.canonical payload ++ ",\"type\":\"".toList ++ kind.text.toList ++
        "\"\x7d".toList) := by
  have harranged : ∀ x y : List Char,
      Json.arrangeFields Json.canonical [("type", x), ("payload", y)] =
        [("payload", y), ("type", x)] := by
    intro x y
    have hlater : Text.notAfter "type" "payload" = false := by decide
    show ([("type", x), ("payload", y)] : List (String × List Char)).mergeSort
      (fun a b => Text.notAfter a.1 b.1) = _
    rw [mergeSort_pair]
    simp [hlater]
  have hkey : Json.renderText false "payload" ++ [':'] = "\"payload\":".toList := by decide
  have hpayload : ∀ x, Json.renderField Json.canonical ("payload", x) =
      "\"payload\":".toList ++ x := by
    intro x
    show Json.renderText false "payload" ++ [':'] ++ x = _
    rw [hkey]
  have htype : Json.renderField Json.canonical ("type", Json.renderText false kind.text) =
      "\"type\":\"".toList ++ kind.text.toList ++ ['\"'] := by
    cases kind <;> decide
  rw [textOf, document, Json.Value.print, Json.render]
  simp only [Json.renderValues, harranged, Json.render, List.map_cons, List.map_nil, hpayload]
  rw [show Json.canonical.asciiOnly = false from rfl, htype]
  refine congrArg String.ofList ?_
  simp [List.intercalate, Json.Style.separator, Json.canonical]

theorem kind_eq_of_textOf_eq {kind kind' : ObjectKind} {payload payload' : Json.Value}
    (h : textOf kind payload = textOf kind' payload') : kind = kind' := by
  rw [textOf_eq, textOf_eq, String.ofList_inj] at h
  -- The names of the kinds end differently.
  have hlast := congrArg (fun cs => cs.reverse[2]?) h
  cases kind <;> cases kind' <;> simp [ObjectKind.text] at hlast ⊢

/-- The fields of a commit come in the order of their keys. -/
theorem render_commitPayload (parents : List Oid) (message timestamp : String) :
    Json.render Json.canonical (commitPayload parents message timestamp) =
      '\x7b' :: [','].intercalate ([("message", Json.renderText false message),
        ("parents", Json.render Json.canonical (.array (parents.map .text))),
        ("timestamp_iso", Json.renderText false timestamp)].map
          (Json.renderField Json.canonical)) ++ ['\x7d'] := by
  have harranged : ∀ x y z : List Char,
      Json.arrangeFields Json.canonical [("parents", x), ("message", y), ("timestamp_iso", z)] =
        [("message", y), ("parents", x), ("timestamp_iso", z)] := by
    intro x y z
    have hfirst : Text.notAfter "parents" "message" = false := by decide
    have hthird : Text.notAfter "message" "timestamp_iso" = true := by decide
    have hlast : Text.notAfter "parents" "timestamp_iso" = true := by decide
    show ([("parents", x), ("message", y), ("timestamp_iso", z)] :
      List (String × List Char)).mergeSort (fun a b => Text.notAfter a.1 b.1) = _
    rw [mergeSort_triple]
    simp [hfirst, hthird, hlast]
  simp only [commitPayload, Json.render, Json.renderValues, harranged]
  rfl

theorem render_blobPayload (data : String) :
    Json.render Json.canonical (blobPayload data) =
      '\x7b' :: [','].intercalate ([("data", Json.renderText false data)].map
          (Json.renderField Json.canonical)) ++ ['\x7d'] := by
  have harranged : ∀ x : List Char,
      Json.arrangeFields Json.canonical [("data", x)] = [("data", x)] := fun x =>
    List.mergeSort_singleton _
  simp only [blobPayload, Json.render, Json.renderValues, harranged]
  rfl

/-- The fields of an annotated tag come in the order of their keys. -/
theorem render_tagPayload (name : String) (target : Oid) (message : Option String) :
    Json.render Json.canonical (tagPayload name target message) =
      '\x7b' :: [','].intercalate ([("message", Json.render Json.canonical (.ofText? message)),
        ("name", Json.renderText false name), ("target", Json.renderText false target)].map
          (Json.renderField Json.canonical)) ++ ['\x7d'] := by
  have harranged : ∀ x y z : List Char,
      Json.arrangeFields Json.canonical [("name", x), ("target", y), ("message", z)] =
        [("message", z), ("name", x), ("target", y)] := by
    intro x y z
    have hfirst : Text.notAfter "name" "target" = true := by decide
    have hlast : Text.notAfter "name" "message" = false := by decide
    show ([("name", x), ("target", y), ("message", z)] :
      List (String × List Char)).mergeSort (fun a b => Text.notAfter a.1 b.1) = _
    rw [mergeSort_triple]
    simp [hfirst, hlast]
  simp only [tagPayload, Json.render, Json.renderValues, harranged]
  rfl

end ObjectId
end CommitStore
