import SchemaTypings.Assembly.Namespace
import SchemaTypings.Assembly.Options
import SchemaTypings.Declaration.Printer

/-!
# The generated module

The module exposes the root namespace on the host interface, declares the interface that events share
and then the root namespace, which holds one namespace for each one of the catalog that is not
ignored. A second ambient namespace, if asked for, takes over every first segment of their names.
-/

namespace SchemaTypings

namespace Assembly

/-- The namespace declaration with a body. -/
def namespaceDeclaration (schema : NamespaceSchema) (body : List Declaration) : Declaration :=
  { name := schema.name, doc := { description := schema.description }, body := .namespace body }

/-- The namespace declarations, in the order of the catalog. -/
def namespaces (options : Options) (catalog : Catalog) :
    List NamespaceSchema → Reporting (List Declaration) :=
  Reporting.collect fun schema =>
    if options.isIgnored schema.name then do
      Reporting.note (.ignoringNamespace schema.name)
      pure none
    else do
      let body ← schema.generate catalog
      pure (some (namespaceDeclaration schema body))

/-- A property with the type of the value of that name. -/
def exposed (name : String) : Member TypeExpr := .property name (.query name) false .none

/-- The host interface with the ambient namespaces. -/
def hostDeclaration (options : Options) : Declaration :=
  { name := options.hostInterface, exported := false,
    body := .interface [] ((options.rootNamespace :: options.aliasNamespace.toList).map exposed) }

/-- The name of the listener type in the interface of events. -/
def listenerParameter : String := "TCallback"

/-- The type of every function. -/
def anyFunction : TypeExpr :=
  .function [{ name := "args", type := .array .any, rest := true }] .any

/-- The interface that events share. -/
def eventDeclaration : Declaration :=
  let method (name : String) (returns : Keyword) :=
    EventTyping.listenerMethod name (.reference listenerParameter) [] returns
  { name := EventTyping.eventInterface, exported := false,
    body := .interface [listenerParameter ++ " extends " ++ anyFunction.write]
      [method "addListener" .void, method "removeListener" .void, method "hasListener" .boolean] }

/-- An ambient namespace of the module. -/
def ambient (name : String) (body : List Declaration) : Declaration :=
  { name, exported := false, declared := true, body := .namespace body }

/-- The name up to its first dot. -/
def firstSegment (name : String) : String :=
  String.ofList (name.toList.takeWhile (· ≠ '.'))

/-- A name of the root namespace taken over under the same name. -/
def importAlias (root name : String) : Declaration :=
  { name, body := .importAlias (root ++ "." ++ name) }

/-- One name for each first segment of the namespaces. -/
def importAliases (root : String) (spaces : List Declaration) : List Declaration :=
  let segments := spaces.map fun d => firstSegment d.name
  let distinct := segments.foldl (fun seen name => if seen.contains name then seen else seen ++ [name]) []
  distinct.map (importAlias root)

/-- The statements of the module around its namespaces. -/
def statements (options : Options) (spaces : List Declaration) : List Declaration :=
  [hostDeclaration options, eventDeclaration, ambient options.rootNamespace spaces] ++
    options.aliasNamespace.toList.map fun name =>
      ambient name (importAliases options.rootNamespace spaces)

end Assembly

namespace Catalog

/-- The module for a catalog. -/
def assemble (catalog : Catalog) (options : Options) : Reporting Module :=
  let spaces := Assembly.namespaces options catalog catalog.namespaces
  let reported := spaces.diagnostics
  do
    let spaces ← spaces
    Reporting.note
      (.assembled spaces.length (Diagnostics.warningCount reported) (Diagnostics.errorCount reported))
    pure ⟨Assembly.statements options spaces⟩

end Catalog

end SchemaTypings
