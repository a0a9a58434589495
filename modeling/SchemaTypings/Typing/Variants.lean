import SchemaTypings.Descriptor.Basic

/-!
# Variants of a parameter list

Optional parameters may stand only at the end of a list. A list with optional parameters before
mandatory ones is therefore spread over several lists, one for each choice of the inner optional
parameters to keep: those kept become mandatory and the others disappear. The list that keeps all of
them comes first. The callback takes no part.
-/

namespace SchemaTypings.Variants

/-- Above this many inner optional parameters only the full list is used. -/
def limit : Nat := 12

/-- Whether a parameter is optional while a later one is mandatory. -/
def isInner (p : Descriptor) (later : List Descriptor) : Bool :=
  !p.isCallback && p.isOptional && later.any fun q => !q.isCallback && !q.isOptional

/-- The positions of the inner optional parameters, counted from a start. -/
def innerPositionsFrom : Nat → List Descriptor → List Nat
  | _, [] => []
  | index, p :: rest =>
    if isInner p rest then index :: innerPositionsFrom (index + 1) rest
    else innerPositionsFrom (index + 1) rest

/-- The positions of the inner optional parameters. -/
def innerPositions (params : List Descriptor) : List Nat := innerPositionsFrom 0 params

/-- The list with some inner optional parameters kept; they are told apart by their rank, counted from
a start. -/
def variantFrom (keep : Nat → Bool) : Nat → List Descriptor → List Descriptor
  | _, [] => []
  | rank, p :: rest =>
    if isInner p rest then
      let others := variantFrom keep (rank + 1) rest
      if keep rank then p.withOptional false :: others else others
    else p :: variantFrom keep rank rest

/-- The list that keeps all of them. -/
def full (params : List Descriptor) : List Descriptor := variantFrom (fun _ => true) 0 params

/-- The list that keeps those whose bit is set. -/
def partialOf (bits : Nat) (params : List Descriptor) : List Descriptor :=
  variantFrom bits.testBit 0 params

/-- All lists of a parameter list, the full one first. -/
def all (params : List Descriptor) : List (List Descriptor) :=
  let count := (innerPositions params).length
  if count = 0 || limit < count then [full params]
  else full params :: (List.range (Nat.pow 2 count - 1)).map fun bits => partialOf bits params

end SchemaTypings.Variants
