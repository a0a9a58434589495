import SchemaTypings.Typing.Scope

/-!
# References

A bare name is looked up in its namespace: among the types of the catalog, the type entries beside it
and the declarations made so far; after that in the shared namespace `manifest`. A dotted name is
looked up in the namespace before its last dot. A name that is not found is reported and used as it
is.
-/

namespace SchemaTypings

/-- The namespace of the types that all others share. -/
def sharedNamespace : String := "manifest"

/-- The parts before and after the last dot. -/
def splitAtLastDot? (target : String) : Option (String × String) :=
  let reversed := target.toList.reverse
  let last := reversed.takeWhile (· ≠ '.')
  match reversed.dropWhile (· ≠ '.') with
  | [] => none
  | _ :: before => some (String.ofList before.reverse, String.ofList last.reverse)

namespace Scope

/-- Whether a bare name is a type of the namespace. -/
def isLocal (scope : Scope) (target : String) : Bool :=
  scope.catalog.hasType scope.space target || scope.isKnown target || scope.isDefined target

/-- The name to write for the target of a reference. -/
def resolve (scope : Scope) (target : String) : Reporting String :=
  match splitAtLastDot? target with
  | some (space, id) => do
    if !scope.catalog.hasType space id then
      scope.warn (.danglingReference target space)
    pure target
  | none =>
    if scope.isLocal target then pure target
    else if scope.catalog.hasType sharedNamespace target then do
      scope.warn (.misplacedReference target scope.space sharedNamespace)
      pure (sharedNamespace ++ "." ++ target)
    else do
      scope.warn (.danglingReference target scope.space)
      pure target

end Scope

namespace Descriptor

/-- A reference: the name of a type, a constant of that type or a property. -/
def referenceTyping (d : Descriptor) (target : String) (scope : Scope) (context : Context) :
    Generating Generated := do
  let slot ← d.slot "reference" context
  let target ← scope.resolve target
  pure (d.place (.reference target) slot)

end Descriptor

end SchemaTypings
