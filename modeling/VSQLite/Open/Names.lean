import VSQLite.Open.Validation
import VSQLite.Sqlite.Uri

/-!
# Which files are opened without being checked

`open` and `attach` check the path that they hand to SQLite, unless the name looks like
one of a database in memory.  SQLite reads the name by rules of its own, and as a URI
only where that is enabled: `make_open_flags` does not enable it, the process may have.
-/

set_option autoImplicit false

namespace VSQLite
open Lib

section Reading
variable (globalUri : Bool) (refuses : OpenFlags → Text → Bool) (followSymlinks : Bool) (db : Text)

end Reading

section Reading
variable (globalUri : Bool) (refuses : OpenFlags → Text → Bool) (flags : OpenFlags) (db : Text)

end Reading

section Calls
variable (followSymlinks : Bool) (db : Text)

end Calls

section Harmless
variable (globalUri followSymlinks : Bool) (refuses : OpenFlags → Text → Bool) (db : Text)

end Harmless

end VSQLite
