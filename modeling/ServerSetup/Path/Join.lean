/-!
# Joining file paths

A file path is relative or starts at the root with a slash. Joining hangs a relative path below
another one; a path that starts at the root stands for itself wherever it is joined.
-/

namespace ServerSetup.Path

/-- Hangs `right` below `left`. An empty `left` adds nothing, an empty `right` adds a slash. -/
def join (left right : String) : String :=
  if right.toList.head? = some '/' then right
  else if left.isEmpty || left.toList.getLast? = some '/' then left ++ right
  else left ++ "/" ++ right

end ServerSetup.Path
