import SchemaTypings.Text.Uppercase
import SchemaTypings.Typing.Generate

/-!
# Functions of a namespace

A function is declared once for each variant of its parameters. When there are several variants, its
object parameters with declared properties become interfaces of their own, so that the variants share
them; such an interface is named by the function and the parameter. A function whose name is reserved
is declared under another name and exported once under its own.
-/

namespace SchemaTypings.FunctionTyping

/-- Whether a parameter is an object with declared properties, other than the callback. -/
def isHoistable (p : Descriptor) : Bool :=
  match p.kind? with
  | some .object => !p.isCallback && !(p.properties.getD []).isEmpty
  | _ => false

/-- The name of the interface for a parameter. -/
def hoistedName (functionName paramName : String) : String :=
  Text.pascalCase [functionName, paramName]

/-- The parameter as a named type of the namespace. -/
def asNamedType (p : Descriptor) (name : String) : Descriptor :=
  { p with id := some name, name := none, optional := none }

/-- Whether a name stands for a type already, by a declaration made before the function or for a
parameter before. -/
def isTaken (scope : Scope) (made : List Declaration) (name : String) : Bool :=
  scope.isDefined name || made.any (·.name == name)

/-- One parameter, with the interfaces made for the parameters before it. -/
def hoistParam (functionName : String) (scope : Scope) (made : List Declaration) (p : Descriptor) :
    Reporting (Descriptor × List Declaration) :=
  match p.name with
  | none => pure (p, made)
  | some paramName =>
    if !isHoistable p then pure (p, made)
    else
      let name := hoistedName functionName paramName
      if isTaken scope made name then
        pure (p.asReferenceTo name, made)
      else do
        match ← scope.declaration (asNamedType p name) .namespace with
        | some d => pure (p.asReferenceTo name, made ++ [d])
        | none => pure (p, made)

/-- The parameters in order, with all interfaces made for them. -/
def hoistParams (functionName : String) (scope : Scope) :
    List Declaration → List Descriptor → Reporting (List Descriptor × List Declaration)
  | made, [] => pure ([], made)
  | made, p :: rest => do
    let (p, made) ← hoistParam functionName scope made p
    let (others, made) ← hoistParams functionName scope made rest
    pure (p :: others, made)

/-- The parameters for the variants, with the interfaces made for them; a single variant shares
nothing. -/
def prepare (d : Descriptor) (name : String) (scope : Scope) :
    Reporting (List Descriptor × List Declaration) :=
  if (Variants.innerPositions d.params).isEmpty then pure (d.params, [])
  else hoistParams name scope [] d.params

/-- The name under which a function with a reserved name is declared. -/
def localName (name : String) : String := "__" ++ name

/-- A declaration under the local name, for the namespace alone. -/
def hide (name : String) (d : Declaration) : Declaration :=
  { d with name := localName name, exported := false }

/-- The declaration for one variant of the parameters. -/
def overload (d : Descriptor) (name : String) (scope : Scope) (params : List Descriptor) :
    Reporting (Option Declaration) := do
  match ← (Signature.typing scope.inlineType d params .consume .namespace).run with
  | .ok generated =>
    let declaration := generated.declaration?
    pure (if Text.isReserved name then declaration.map (hide name) else declaration)
  | .error cause =>
    scope.error (.failedFunction name cause)
    pure none

/-- The export of a function with a reserved name under its own, if it is declared at all. -/
def reservedExport (name : String) (overloads : List Declaration) : List Declaration :=
  if Text.isReserved name && !overloads.isEmpty then
    [{ name, body := .exportAlias (localName name) }]
  else []

/-- The declarations for a function with a name. -/
def expandNamed (d : Descriptor) (name : String) (scope : Scope) :
    Reporting (List Declaration) := do
  let count := (Variants.innerPositions d.params).length
  if Variants.limit < count then
    scope.warn (.tooManyVariants name count)
  let (params, made) ← prepare d name scope
  let overloads ← Reporting.collect (overload d name (scope.extend made)) (Variants.all params)
  pure (made ++ overloads ++ reservedExport name overloads)

/-- The declarations for a function. -/
def expand (d : Descriptor) (scope : Scope) : Reporting (List Declaration) :=
  match d.overridden? with
  | none => pure []
  | some d =>
    match d.identifier? with
    | some name => expandNamed d name scope
    | none => do
      scope.error (.unnamedFunction (.missingIdentifier "function" .namespace))
      pure []

/-! ## Values and diagnostics -/

theorem value_expandNamed (d : Descriptor) (name : String) (scope : Scope) :
    (expandNamed d name scope).value =
      let prepared := (prepare d name scope).value
      let overloads := (Variants.all prepared.1).filterMap fun ps =>
        (overload d name (scope.extend prepared.2) ps).value
      prepared.2 ++ overloads ++ reservedExport name overloads := by
  unfold expandNamed
  dsimp only
  split <;>
    simp only [Reporting.value_bind, Reporting.value_pure, Reporting.value_collect]

theorem diagnostics_expandNamed (d : Descriptor) (name : String) (scope : Scope) :
    (expandNamed d name scope).diagnostics =
      let count := (Variants.innerPositions d.params).length
      let prepared := prepare d name scope
      (if Variants.limit < count then
          [⟨.warning, some scope.space, .tooManyVariants name count⟩] else []) ++
        (prepared.diagnostics ++ (Variants.all prepared.value.1).flatMap fun ps =>
          (overload d name (scope.extend prepared.value.2) ps).diagnostics) := by
  unfold expandNamed
  dsimp only
  split <;>
    simp only [Reporting.diagnostics_bind, Reporting.diagnostics_pure,
      Reporting.diagnostics_collect, Scope.warn, Reporting.diagnostics_warn, List.append_nil,
      List.nil_append]

end SchemaTypings.FunctionTyping
