set_option autoImplicit false

/-!
# Object ids

Objects are named by texts. The ids that this library makes are digests of 64 hexadecimal digits
(`Object/Id`), but every table takes any text as an id. Reports show the first few characters.
-/

namespace CommitStore

/-- The id of an object. -/
abbrev Oid := String

namespace Oid

/-- The first characters of an id. -/
def abbreviate (length : Nat) (oid : Oid) : String := String.ofList (oid.toList.take length)

end Oid
end CommitStore
