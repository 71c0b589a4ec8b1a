import CommitStore.Error
import CommitStore.Reference.Reserved
set_option autoImplicit false

/-!
# Configuration

A repository is configured by where its tables are kept, which branch is the main one, under which
root commits are pinned and with which words, and whether hiding a commit sweeps at once. A
configuration is read from a record; all faults of the record are reported, in the order of the
fields, and the root of the pins has to be a reference name under `refs/` once its trailing slashes
are gone.
-/

namespace CommitStore

/-- The settings of a repository. -/
structure Config where
  path : String := ":memory:"
  url : Option String := none
  mainBranch : String := "main"
  pinRoot : String := Reserved.defaultRoot
  pinMessage : String := "branchless: marking commit as reachable"
  sweepMessage : String := "branchless: collecting garbage"
  /-- Whether hiding a commit sweeps at once. -/
  sweepsOnHide : Bool := false
  deriving DecidableEq, Repr, Inhabited

namespace Config

/-- Where every root of pins has to lie. -/
def pinSpace : String := "refs/"

/-- A root of pins without its trailing slashes, if it may be one. -/
def pinRoot? (root : String) : Except Record.Mismatch String :=
  let root := String.ofList (Text.dropTrailing '/' root.toList)
  match RefName.fault? root with
  | some fault =>
    .error (.refused ("invalid GC ref prefix " ++ Text.quoted root ++ ": " ++ fault.describe))
  | none =>
    if pinSpace.toList.isPrefixOf root.toList then .ok root
    else .error (.refused ("GC ref prefix must live under '" ++ pinSpace ++ "': " ++
      Text.quoted root))

/-- The value of a root of pins. -/
def readPinRoot (v : Json.Value) : Except Record.Mismatch String := do
  pinRoot? (← Record.text v)

/-- The configuration that a record gives. -/
def ofRecord (record : Json.Value) : Except Error Config :=
  let defaults : Config := {}
  let path := Record.field record "db_path" Record.text defaults.path
  let url := Record.field record "db_url" (Record.nullable Record.text) defaults.url
  let mainBranch := Record.field record "main_branch" Record.text defaults.mainBranch
  let pinRoot := Record.field record "gc_ref_prefix" readPinRoot defaults.pinRoot
  let pinMessage := Record.field record "pin_message" Record.text defaults.pinMessage
  let sweepMessage := Record.field record "gc_progress_message" Record.text defaults.sweepMessage
  let sweepsOnHide := Record.field record "auto_gc" Record.boolean defaults.sweepsOnHide
  match path, url, mainBranch, pinRoot, pinMessage, sweepMessage, sweepsOnHide with
  | .ok path, .ok url, .ok mainBranch, .ok pinRoot, .ok pinMessage, .ok sweepMessage,
      .ok sweepsOnHide =>
    .ok { path, url, mainBranch, pinRoot, pinMessage, sweepMessage, sweepsOnHide }
  | _, _, _, _, _, _, _ =>
    .error (.fields (Record.faultOf path ++ Record.faultOf url ++ Record.faultOf mainBranch ++
      Record.faultOf pinRoot ++ Record.faultOf pinMessage ++ Record.faultOf sweepMessage ++
      Record.faultOf sweepsOnHide))

/-- The record of a configuration. -/
def toRecord (c : Config) : Json.Value :=
  .object [("db_path", .text c.path), ("db_url", .ofText? c.url),
    ("main_branch", .text c.mainBranch), ("gc_ref_prefix", .text c.pinRoot),
    ("pin_message", .text c.pinMessage), ("gc_progress_message", .text c.sweepMessage),
    ("auto_gc", .bool c.sweepsOnHide)]

end Config
end CommitStore
