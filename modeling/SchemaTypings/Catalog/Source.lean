import SchemaTypings.Catalog.Fragment
import SchemaTypings.Json.Reader
import SchemaTypings.Text.Line

/-!
# Schema files

A schema file is JSON with comment lines, and holds a list of fragments. A file that is not JSON, or
holds something else, is reported and contributes nothing. What is JSON is up to the `JsonReader`.
-/

namespace SchemaTypings.Catalog

variable [JsonReader]

/-- Merge the fragments of a file; the answer also counts the accepted ones. -/
def mergeSource (catalog : Catalog) (source file : String) : Reporting (Catalog × Nat) :=
  match JsonReader.read (Text.stripLineComments source) with
  | .error cause => do
    Reporting.error none (.malformedFile file cause)
    pure (catalog, 0)
  | .ok (.array fragments) => mergeValues file catalog fragments
  | .ok _ => do
    Reporting.error none (.notAList file)
    pure (catalog, 0)

end SchemaTypings.Catalog
