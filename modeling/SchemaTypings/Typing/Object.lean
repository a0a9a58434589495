import SchemaTypings.Descriptor.Override
import SchemaTypings.Text.Identifier
import SchemaTypings.Typing.Signature
import SchemaTypings.Typing.Variants

/-!
# Object types

An object collects declared properties, methods and patterns as members. Patterns that are identifiers
are optional properties; all others share one index signature over the union of their types. Beside
the members an object may have a host class as its base and a type for additional properties. Members
alone make an interface where a name is wanted; anything else is an intersection of the parts that are
there.
-/

namespace SchemaTypings.ObjectTyping

/-- The path of a member in messages. -/
def memberPath (scope : Scope) (d : Descriptor) (member : String) : String :=
  String.intercalate "." ([scope.space] ++ d.id.toList ++ [member])

/-- The property for a declared property. -/
def propertyMember (inline : InlineTyping) (scope : Scope) (d : Descriptor)
    (entry : String × Descriptor) : Reporting (Option (Member TypeExpr)) := do
  let (key, p) := entry
  match ← inline p with
  | some type => pure (some (.property key type p.isOptional p.docComment))
  | none =>
    if p.isUnsupported then scope.warn (.unsupportedProperty (memberPath scope d key))
    else scope.error (.untypedProperty (memberPath scope d key))
    pure none

/-- A signature of a method. -/
def methodSignature (inline : InlineTyping) (scope : Scope) (d : Descriptor)
    (params : List Descriptor) : Reporting (Option (Member TypeExpr)) := do
  match ← (Signature.typing inline d params .consume .interface).run with
  | .ok generated => pure generated.member?
  | .error cause =>
    scope.error (.failedMethod d.label cause)
    pure none

/-- The signatures of a method, one for each variant of its parameters. -/
def expandMethod (inline : InlineTyping) (scope : Scope) (d : Descriptor) :
    Reporting (List (Member TypeExpr)) :=
  match d.overridden? with
  | none => pure []
  | some d => Reporting.collect (methodSignature inline scope d) (Variants.all d.params)

/-- The methods for a declared function. -/
def methodMembers (inline : InlineTyping) (scope : Scope) (d : Descriptor) (f : Descriptor) :
    Reporting (List (Member TypeExpr)) :=
  if f.isUnsupported then do
    let name := f.identifier?.getD "<unnamed>"
    scope.warn (.unsupportedFunction (memberPath scope d name))
    pure []
  else expandMethod inline scope f

/-- The type of a pattern, with its key and comment. -/
def patternType (inline : InlineTyping) (scope : Scope) (d : Descriptor)
    (entry : String × Descriptor) : Reporting (Option (String × TypeExpr × DocComment)) := do
  let (pattern, p) := entry
  match ← inline p with
  | some type => pure (some (pattern, type, p.docComment))
  | none =>
    scope.warn (.untypedPattern (memberPath scope d pattern))
    pure none

/-- The index signature over the given types, if there are any. -/
def indexMember : List TypeExpr → List (Member TypeExpr)
  | [] => []
  | [type] => [.index "key" type]
  | types => [.index "key" (.union types)]

/-- The members for patterns with their types: a property for each identifier, then the index
signature for the others. -/
def patternMembers (patterns : List (String × TypeExpr × DocComment)) : List (Member TypeExpr) :=
  let (bare, others) := patterns.partition fun (pattern, _, _) => Text.isIdentifier pattern
  (bare.map fun (pattern, type, doc) => .property pattern type true doc) ++
    indexMember (others.map fun (_, type, _) => type)

/-- The members of an object in order. -/
def members (inline : InlineTyping) (scope : Scope) (d : Descriptor) :
    Reporting (List (Member TypeExpr)) := do
  let properties ← Reporting.collect (propertyMember inline scope d) (d.properties.getD [])
  let methods ← Reporting.collectAll (methodMembers inline scope d) (d.functions.getD [])
  let patterns ← Reporting.collect (patternType inline scope d) (d.patternProperties.getD [])
  pure (properties ++ methods ++ patternMembers patterns)

/-- The type for additional properties, if they are allowed. -/
def additionalType (inline : InlineTyping) (d : Descriptor) : Reporting (Option TypeExpr) :=
  match d.additionalProperties with
  | none | some (.allowed false) => pure none
  | some (.allowed true) => pure (some (.stringIndex .any))
  | some (.schema schema) => do
    match ← inline schema with
    | some type => pure (some (.stringIndex type))
    | none => pure (some .any)

/-- The type made of the parts that are there. -/
def combine : List TypeExpr → TypeExpr
  | [] => .stringIndex .any
  | [part] => part
  | parts => .intersection parts

/-- The type of an object with the given members and additional properties. -/
def objectType (d : Descriptor) (members : List (Member TypeExpr))
    (additional : Option TypeExpr) : TypeExpr :=
  let own := if members.isEmpty then [] else [TypeExpr.object members]
  combine ((d.isInstanceOf.map TypeExpr.reference).toList ++ own ++ additional.toList)

/-- What a named object declares: an interface where there are members alone. -/
def namedBody (d : Descriptor) (members : List (Member TypeExpr))
    (additional : Option TypeExpr) : DeclarationBody Declaration :=
  if d.isInstanceOf.isNone && additional.isNone then .interface [] members
  else .alias (objectType d members additional)

/-- An object type, or a declaration of one. -/
def typing (inline : InlineTyping) (d : Descriptor) (scope : Scope) (context : Context) :
    Generating Generated := do
  let id ← d.contextId (.missingIdentifier "object" context) context
  let members ← members inline scope d
  let additional ← additionalType inline d
  pure (match id with
    | none => .type (objectType d members additional)
    | some name => .declaration (d.declared name (namedBody d members additional)))

/-! ## Values

What an object is made of does not depend on its own id, which only shows in messages. -/

variable (inline : InlineTyping) (scope : Scope)

theorem value_propertyMember (d : Descriptor) (entry : String × Descriptor) :
    (propertyMember inline scope d entry).value =
      (inline entry.2).value.map fun type =>
        .property entry.1 type entry.2.isOptional entry.2.docComment := by
  unfold propertyMember
  rw [Reporting.value_bind]
  cases (inline entry.2).value with
  | some type => rfl
  | none =>
    dsimp only
    split <;> rfl

theorem value_patternType (d : Descriptor) (entry : String × Descriptor) :
    (patternType inline scope d entry).value =
      (inline entry.2).value.map fun type => (entry.1, type, entry.2.docComment) := by
  unfold patternType
  rw [Reporting.value_bind]
  cases (inline entry.2).value <;> rfl

theorem value_methodMembers (d f : Descriptor) :
    (methodMembers inline scope d f).value =
      if f.isUnsupported then [] else (expandMethod inline scope f).value := by
  unfold methodMembers
  split <;> rfl

theorem value_members (d : Descriptor) :
    (members inline scope d).value =
      (d.properties.getD []).filterMap (fun entry => (propertyMember inline scope d entry).value) ++
        (d.functions.getD []).flatMap (fun f => (methodMembers inline scope d f).value) ++
        patternMembers ((d.patternProperties.getD []).filterMap fun entry =>
          (patternType inline scope d entry).value) := by
  rw [members, Reporting.value_bind, Reporting.value_bind, Reporting.value_bind,
    Reporting.value_pure, Reporting.value_collect, Reporting.value_collectAll,
    Reporting.value_collect]

/-- Inline an object is its type. -/
theorem value_typing_inline (d : Descriptor) :
    (typing inline d scope .inline).run.value =
      .ok (.type (objectType d (members inline scope d).value (additionalType inline d).value)) :=
  rfl

/-- Under a name an object is a declaration of it. -/
theorem value_typing_named {d : Descriptor} {name : String} (h : d.id = some name) :
    (typing inline d scope .namespace).run.value =
      .ok (.declaration (d.declared name
        (namedBody d (members inline scope d).value (additionalType inline d).value))) := by
  unfold typing Descriptor.contextId
  rw [h]
  rfl

end SchemaTypings.ObjectTyping
