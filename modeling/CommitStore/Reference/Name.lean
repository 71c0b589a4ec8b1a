import CommitStore.Text.Quoted
import CommitStore.Text.Search
set_option autoImplicit false

/-!
# Names of references

A reference name is `HEAD`, or a path of at least two components. `fault?` says what is wrong with a
text that is neither; of several faults it gives the first in a fixed order. A branch `b` is the
reference `refs/heads/b`, and a name is a branch name if that reference name has no fault and the
branch name does not look like an option.

All rules are stated on the characters of a name. `forbidden` holds the characters that no component
may contain.
-/

namespace CommitStore

/-- The name of a reference. -/
abbrev RefName := String

namespace RefName

/-! ## 1. Well-known names -/

/-- The reference that stands for the current position. -/
def head : RefName := "HEAD"

/-- Where branches and tags live. -/
def branchRoot : String := "refs/heads/"

@[inherit_doc branchRoot]
def tagRoot : String := "refs/tags/"

/-- The reference of a branch. -/
def ofBranch (branch : String) : RefName := branchRoot ++ branch

/-- The reference of a tag. -/
def ofTag (tag : String) : RefName := tagRoot ++ tag

/-! ## 2. Faults of reference names -/

/-- What can be wrong with a reference name. -/
inductive Fault
  | empty
  | noSlash
  | leadingDot
  | doubleDot
  | atBrace
  | forbidden (c : Char)
  | slashUsage
  | trailingDot
  | lockEnding
  deriving DecidableEq, Repr

/-- A text with a brace in it, which string literals of this library do not spell out. -/
def atBrace : List Char := ['@', '\x7b']

/-- The fault in words. -/
def Fault.describe : Fault → String
  | .empty => "name cannot be empty"
  | .noSlash => "name must contain at least one '/'"
  | .leadingDot => "path components cannot start with '.'"
  | .doubleDot => "name cannot contain '..'"
  | .atBrace => "name cannot contain '" ++ String.ofList RefName.atBrace ++ "'"
  | .forbidden c => "name contains forbidden character " ++ Text.quoted (String.singleton c)
  | .slashUsage => "name has invalid slash usage"
  | .trailingDot => "name cannot end with '.'"
  | .lockEnding => "path components cannot end with '.lock'"

/-- The characters other than controls that no name may contain. -/
def forbiddenChars : List Char :=
  [Char.ofNat 0x7F, ' ', '~', '^', ':', '?', '*', '[', '\\']

/-- A control, or one of `forbiddenChars`. -/
def forbidden (c : Char) : Bool := decide (c.toNat < 0x20) || forbiddenChars.contains c

/-- Whether a name has one of the faults of the path as a whole, in the order in which they are
looked for. -/
def pathFault? (cs : List Char) : Option Fault :=
  if !cs.contains '/' then some .noSlash
  else if ['.'].isPrefixOf cs || Text.occursIn ['/', '.'] cs then some .leadingDot
  else if Text.occursIn ['.', '.'] cs then some .doubleDot
  else if Text.occursIn RefName.atBrace cs then some .atBrace
  else
    match cs.find? forbidden with
    | some c => some (.forbidden c)
    | none =>
      if ['/'].isPrefixOf cs || ['/'].isSuffixOf cs || Text.occursIn ['/', '/'] cs then
        some .slashUsage
      else if ['.'].isSuffixOf cs then some .trailingDot
      else if ".lock".toList.isSuffixOf cs || Text.occursIn ".lock/".toList cs then
        some .lockEnding
      else none

/-- What is wrong with a name, if anything is. -/
def fault? (name : RefName) : Option Fault :=
  if name = "" then some .empty
  else if name = head then none
  else pathFault? name.toList

/-- A name without a fault. -/
def isValid (name : RefName) : Bool := (fault? name).isNone

/-! ## 3. Faults of branch names -/

/-- What can be wrong with the name of a branch. -/
inductive BranchFault
  | empty
  | leadingHyphen
  | reference (fault : Fault)
  deriving DecidableEq, Repr

/-- The fault in words. -/
def BranchFault.describe : BranchFault → String
  | .empty => "branch name cannot be empty"
  | .leadingHyphen => "branch name cannot start with '-'"
  | .reference fault => fault.describe

/-- What is wrong with the name of a branch, if anything is. -/
def branchFault? (branch : String) : Option BranchFault :=
  if branch = "" then some .empty
  else if ['-'].isPrefixOf branch.toList then some .leadingHyphen
  else (fault? (ofBranch branch)).map .reference

end RefName
end CommitStore
