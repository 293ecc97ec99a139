import MonitorFeed.Payload.Document
import MonitorFeed.Storage

/-!
Payloads in files.
-/

namespace MonitorFeed.Document

/-- Reads the payload in a file. A file that cannot be read is told apart from one whose text is no
such payload, and only the latter is named. -/
def load {α : Type} [Document α] (storage : Storage) (path : String) : Except ClientError α := do
  let text ← (storage.readText path).mapError .io
  (decode text).mapError fun fault =>
    .serialization (path ++ ": " ++ (DocumentError.json fault).message)

end MonitorFeed.Document
