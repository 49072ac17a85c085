import ScriptSanitizer.Command.Run
import ScriptSanitizer.Proofs.Json.OneLine
import ScriptSanitizer.Proofs.Json.Order
import ScriptSanitizer.Proofs.Json.Parameters
import ScriptSanitizer.Proofs.MultiMap.Building

/-!
# Sanitized query strings

Whatever a query string is, the program answers it with one line.  The line holds an object, with
every name of the query once, in the order in which the names first occur, and under each name an
array of its sanitized values.
-/

namespace ScriptSanitizer

namespace MultiMap

open Json

end MultiMap

namespace Command

open Json

section

variable (sanitizer : Sanitizer)

end

/-- A reference to a line feed in front of a script, a name that occurs again, and a broken percent
code. -/
example :
    (((Task.query "?q=a%26%2310%3B%3Cscript%3E&r&q=%2".toList).perform
        ⟨[], fun _ => .error .notFound, []⟩ .default).value.toOption.map Report.output) =
      some "\x7b\"q\":[\"a\\n\",\"%2\"],\"r\":[\"\"]\x7d\n".toList := by
  decide +kernel

end Command

end ScriptSanitizer
