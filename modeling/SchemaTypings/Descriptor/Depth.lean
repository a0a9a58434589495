import SchemaTypings.Descriptor.Basic

/-!
# Nesting depth

The depth of a descriptor counts the descriptors on the longest way down through items, choices,
properties, patterns, additional properties, methods, parameters and return types. A descriptor
without any of them has depth one.
-/

namespace SchemaTypings.Descriptor

mutual

/-- The nesting depth. -/
def depth : Descriptor → Nat
  | ⟨_, _, _, _, _, _, _, _, choices, _, _, items, properties, patternProperties,
      additionalProperties, functions, _, parameters, extraParameters, returns, _, _⟩ =>
    1 + max (listDepth? choices) (max (depth? items) (max (mapDepth? properties)
      (max (mapDepth? patternProperties) (max (additionalDepth? additionalProperties)
        (max (listDepth? functions) (max (listDepth? parameters)
          (max (listDepth? extraParameters) (depth? returns))))))))

/-- The depth of a present descriptor. -/
def depth? : Option Descriptor → Nat
  | none => 0
  | some d => depth d

/-- The depth of a present list. -/
def listDepth? : Option (List Descriptor) → Nat
  | none => 0
  | some ds => listDepth ds

/-- The greatest depth in a list. -/
def listDepth : List Descriptor → Nat
  | [] => 0
  | d :: ds => max (depth d) (listDepth ds)

/-- The depth of a present map. -/
def mapDepth? : Option (List (String × Descriptor)) → Nat
  | none => 0
  | some entries => mapDepth entries

/-- The greatest depth in a map. -/
def mapDepth : List (String × Descriptor) → Nat
  | [] => 0
  | entry :: rest => max (entryDepth entry) (mapDepth rest)

/-- The depth of an entry. -/
def entryDepth : String × Descriptor → Nat
  | (_, d) => depth d

/-- The depth of what is allowed under other keys. -/
def additionalDepth? : Option (Additional Descriptor) → Nat
  | none => 0
  | some additional => additionalDepth additional

/-- The depth of a flag or a descriptor. -/
def additionalDepth : Additional Descriptor → Nat
  | .allowed _ => 0
  | .schema d => depth d

end

theorem depth_pos (d : Descriptor) : 0 < d.depth := by
  cases d; simp only [depth]; omega

end SchemaTypings.Descriptor
