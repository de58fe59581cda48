import VSQLite.Command.Keyword

/-!
# How SQLite reads a URI

A URI starts with `file:`, its path ends at the first `?` or `#`, and its query is a list
of keys and values up to `#`.  Each piece may have bytes in it as two hexadecimal digits.
-/

set_option autoImplicit false

namespace VSQLite

end VSQLite
