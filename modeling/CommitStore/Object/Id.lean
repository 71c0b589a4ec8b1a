import CommitStore.Digest.Sha256
import CommitStore.Error
import CommitStore.Json.Printer
import CommitStore.Object.Store
set_option autoImplicit false

/-!
# How ids are made

The id of an object is the digest of the canonical text of a document that holds the object's kind
and its payload. The kind is part of the document, so objects of different kinds never share an id
by having equal payloads. The payload of a commit is its parents in order, its message, and the time
it was made.

A document with a whole number of too many digits has no canonical text, and so no id (`idOf`). The
payloads of commits, blobs and tags hold no numbers; their ids are there in any case.
-/

namespace CommitStore
namespace ObjectId

open Json (Value)

/-- The document that an object's id is the digest of. -/
def document (kind : String) (payload : Value) : Value :=
  .object [("type", .text kind), ("payload", payload)]

/-- The canonical text of a value. -/
def canonicalText (v : Value) : Except Error String :=
  match v.print? Json.canonical with
  | some text => .ok text
  | none => .error .unwritableNumber

/-- The canonical text of a value, as bytes. -/
def canonicalBytes (v : Value) : Except Error ByteArray := (canonicalText v).map String.toUTF8

/-- The id of an object of a named kind with any payload. -/
def idOf (kind : String) (payload : Value) : Except Error Oid :=
  (canonicalText (document kind payload)).map Sha256.hexOfText

/-- The id of an object of a named kind, for a payload without numbers that cannot be written. -/
def ofPayload (kind : String) (payload : Value) : Oid :=
  Sha256.hexOfText ((document kind payload).print Json.canonical)

/-- The payload of a commit; `timestamp` is the calendar form of the time it was made. -/
def commitPayload (parents : List Oid) (message timestamp : String) : Value :=
  .object [("parents", .array (parents.map .text)), ("message", .text message),
    ("timestamp_iso", .text timestamp)]

/-- The payload of a blob. -/
def blobPayload (data : String) : Value := .object [("data", .text data)]

/-- The payload of an annotated tag. -/
def tagPayload (name : String) (target : Oid) (message : Option String) : Value :=
  .object [("name", .text name), ("target", .text target), ("message", .ofText? message)]

/-- The id of a commit. -/
def ofCommit (parents : List Oid) (message timestamp : String) : Oid :=
  ofPayload ObjectKind.commit.text (commitPayload parents message timestamp)

/-- The id of a blob. -/
def ofBlob (data : String) : Oid := ofPayload ObjectKind.blob.text (blobPayload data)

/-- The id of an annotated tag. -/
def ofTag (name : String) (target : Oid) (message : Option String) : Oid :=
  ofPayload ObjectKind.tag.text (tagPayload name target message)

end ObjectId
end CommitStore
