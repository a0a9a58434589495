/-!
# Options of a generation
-/

namespace SchemaTypings

/-- Names that shape the generated module. -/
structure Options where
  /-- The ambient namespace that holds all others. -/
  rootNamespace : String := "messenger"
  /-- A second ambient namespace with the same contents. -/
  aliasNamespace : Option String := none
  /-- The interface of the host that exposes them. -/
  hostInterface : String := "Window"
  /-- Namespaces left out of the output. References still find their types. -/
  ignoredNamespaces : List String := []

/-- Whether a namespace is left out. -/
def Options.isIgnored (options : Options) (name : String) : Bool :=
  options.ignoredNamespaces.contains name

end SchemaTypings
