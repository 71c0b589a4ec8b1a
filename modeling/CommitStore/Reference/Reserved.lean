import CommitStore.Oid
import CommitStore.Reference.Name
set_option autoImplicit false

/-!
# Reserved names

A pin keeps a commit alive by a reference under a reserved root, one reference for each commit:
`<root>/<id>`. `pinName` builds that name and `pinnedOid?` takes it apart again. A root counts
without its trailing slashes, so `refs/keep` and `refs/keep//` reserve the same names.

A name is reserved when a run of lower-case hexadecimal digits follows the root and its slash. As a
line of text may end with a newline, one newline after the digits is allowed, and then belongs to
the id.
-/

namespace CommitStore

namespace Reserved

/-- The root that is reserved unless a configuration names another. -/
def defaultRoot : String := "refs/branchless"

/-- A root without its trailing slashes, as characters, with one slash behind it. -/
def rootPath (root : String) : List Char := Text.dropTrailing '/' root.toList ++ ['/']

/-- A lower-case hexadecimal digit. -/
def isHexDigit (c : Char) : Bool := c.isDigit || (decide ('a' ≤ c) && decide (c ≤ 'f'))

/-- The text without one newline at its end. -/
def dropNewline (cs : List Char) : List Char :=
  if cs.getLast? = some '\n' then cs.dropLast else cs

/-- A nonempty line of hexadecimal digits, with or without its newline. -/
def isHexLine (cs : List Char) : Bool :=
  let line := dropNewline cs
  !line.isEmpty && line.all isHexDigit

/-- The reserved name that pins an object. -/
def pinName (root : String) (oid : Oid) : RefName :=
  String.ofList (rootPath root ++ oid.toList)

/-- What a name has after the root and its slash. -/
def underRoot? (root : String) (name : RefName) : Option (List Char) :=
  let path := rootPath root
  if path.isPrefixOf name.toList then some (name.toList.drop path.length) else none

/-- The id that a reserved name pins, or `none` if the name is not reserved. -/
def pinnedOid? (root : String) (name : RefName) : Option Oid :=
  match underRoot? root name with
  | some rest => if isHexLine rest then some (String.ofList rest) else none
  | none => none

/-- Whether a name is reserved. -/
def isReserved (root : String) (name : RefName) : Bool := (pinnedOid? root name).isSome

end Reserved
end CommitStore
