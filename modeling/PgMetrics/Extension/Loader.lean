import PgMetrics.Digest.Sha256
import PgMetrics.Extension.Reader
import PgMetrics.Session.World

namespace PgMetrics

/-- What became of one attempt to read the file of a document. -/
abbrev Content := Except FileError ByteArray

namespace Content

def hashsum? (c : Content) : Option String :=
  c.toOption.map fun bytes => Sha256.hex bytes.data.toList

/-- The document that the content at a path describes. -/
def document (path : String) : Content → Except Failure Document
  | .error _ => .error (.of (.documentUnreadable path))
  | .ok bytes =>
    match Text.decode bytes with
    | some s => Document.read s
    | none => .error (.of (.documentNotText path))

end Content

/-- How a load went; the hash sum is empty if there was nothing to read. -/
structure LoadStatus where
  path : String
  hashsum : String
  failed : Bool
  deriving DecidableEq, Repr

/-- What is remembered of a document: the last one that could be read, so that views that were active are never
partially replaced, and how the last load went. -/
structure Loader where
  path : String
  lastGood : Option Document := none
  status : Option LoadStatus := none

namespace Loader

/-- Takes the document of a content, or else keeps the one before. -/
def load (l : Loader) (c : Content) : Loader :=
  let document := (Content.document l.path c).toOption
  { l with
    lastGood := document.or l.lastGood
    status := some ⟨l.path, c.hashsum?.getD "", document.isNone⟩ }

def loadLog (path : String) (c : Content) : List LogEntry :=
  match Content.document path c with
  | .ok _ => []
  | .error e => [.documentRejected path e]

@[simp] theorem path_load (l : Loader) (c : Content) : (l.load c).path = l.path := rfl

theorem lastGood_load (l : Loader) (c : Content) :
    (l.load c).lastGood = (Content.document l.path c).toOption.or l.lastGood := rfl

theorem status_load (l : Loader) (c : Content) :
    (l.load c).status =
      some ⟨l.path, c.hashsum?.getD "", (Content.document l.path c).toOption.isNone⟩ := rfl

variable {m : Type → Type} [Monad m]

/-- Asks for the content of the file. -/
def read (w : World m) (path : String) : m Content := do
  let c ← w.contentOf path
  match c with
  | .ok _ => pure c
  | .error e => do
    w.log (.documentUnreadable path e)
    pure c

end Loader

end PgMetrics
