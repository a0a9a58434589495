import SchemaTypings.Typing.Scope

/-!
# Function signatures

A function completes through a parameter named `callback`. In most signatures that parameter is
consumed: it disappears, and if it takes exactly one parameter, the type of that parameter is the
result. Signatures that are callbacks themselves keep their parameters as they are.
-/

namespace SchemaTypings

/-- What a signature does with the parameter that receives the result. -/
inductive CallbackHandling where
  | consume
  | keep
deriving DecidableEq

/-- The handling of a function type: a callback keeps its own parameters. -/
def Descriptor.callbackHandling (d : Descriptor) : CallbackHandling :=
  if d.isCallback then .keep else .consume

namespace Signature

/-- The single parameter of the callback, whose type is the result. -/
def resultParameter? (params : List Descriptor) : Option Descriptor :=
  match params.find? (·.isCallback) with
  | none => none
  | some callback =>
    match callback.params with
    | [result] => some result
    | _ => none

/-- The descriptor whose type a consumed callback hands over. -/
def consumed? (handling : CallbackHandling) (params : List Descriptor) : Option Descriptor :=
  match handling with
  | .consume => resultParameter? params
  | .keep => none

/-- The type of a descriptor, or a type for when there is no descriptor or it has no type. -/
def typeOr (inline : InlineTyping) (fallback : TypeExpr) :
    Option Descriptor → Reporting TypeExpr
  | none => pure fallback
  | some d => do
    let type ← inline d
    pure (type.getD fallback)

/-- The declared return type where the callback hands over nothing. -/
def declaredOr (inline : InlineTyping) (d : Descriptor) (own : TypeExpr) : Reporting TypeExpr :=
  if own.isVoid then typeOr inline own d.returns else pure own

/-- The return type: the result of the callback, else the declared return type, else `void`; an
asynchronous function returns a promise of it. -/
def returnType (inline : InlineTyping) (d : Descriptor) (params : List Descriptor)
    (handling : CallbackHandling) : Reporting TypeExpr := do
  let own ← typeOr inline (.keyword .void) (consumed? handling params)
  let type ← declaredOr inline d own
  pure (if d.isAsync then .generic "Promise" [type] else type)

/-- The parameters that stay in the signature. -/
def visible (handling : CallbackHandling) (params : List Descriptor) : List Descriptor :=
  match handling with
  | .consume => params.filter fun p => !p.isCallback
  | .keep => params

/-- The name of a parameter; one without a name is numbered. -/
def paramName (index : Nat) (p : Descriptor) : String :=
  p.name.getD ("param" ++ toString index)

/-- Parameters from a position on. One whose type cannot be generated takes any value. -/
def paramsFrom (inline : InlineTyping) :
    Nat → List Descriptor → Reporting (List (Param TypeExpr))
  | _, [] => pure []
  | index, p :: rest => do
    let type ← typeOr inline .any (some p)
    let others ← paramsFrom inline (index + 1) rest
    pure ({ name := paramName index p, type, optional := p.isOptional } :: others)

/-- The parameters of a signature. -/
def params (inline : InlineTyping) (ps : List Descriptor) : Reporting (List (Param TypeExpr)) :=
  paramsFrom inline 0 ps

/-- The documented parameters with their descriptions. -/
def paramDocs (ps : List Descriptor) : List (String × String) :=
  ps.zipIdx.filterMap fun (p, index) => p.description.map (paramName index p, ·)

/-- The comment of a signature. -/
def doc (d : Descriptor) (shown : List Descriptor) : DocComment :=
  { d.docComment with params := paramDocs shown }

/-- A signature in its place. -/
def place (d : Descriptor) (shown : List Descriptor) (params : List (Param TypeExpr))
    (returns : TypeExpr) : Slot → Generated
  | .inline => .type (.function params returns)
  | .declared name =>
    .declaration { name, doc := doc d shown, body := .function params returns }
  | .member name => .member (.method name params returns (doc d shown))

/-- A signature over the given parameters: a function type, a function or a method. -/
def typing (inline : InlineTyping) (d : Descriptor) (ps : List Descriptor)
    (handling : CallbackHandling) (context : Context) : Generating Generated := do
  let slot ← d.slot "function" context
  let returns ← returnType inline d ps handling
  let shown := visible handling ps
  let params ← params inline shown
  pure (place d shown params returns slot)

/-! ## Values and diagnostics -/

variable (inline : InlineTyping)

@[simp] theorem value_typeOr (fallback : TypeExpr) (d? : Option Descriptor) :
    (typeOr inline fallback d?).value = (d?.bind fun d => (inline d).value).getD fallback := by
  cases d? <;> rfl

@[simp] theorem diagnostics_typeOr (fallback : TypeExpr) (d? : Option Descriptor) :
    (typeOr inline fallback d?).diagnostics = d?.elim [] fun d => (inline d).diagnostics := by
  cases d? with
  | none => rfl
  | some d => rw [typeOr, Reporting.diagnostics_bind, Reporting.diagnostics_pure, List.append_nil]; rfl

/-- The result that the callback hands over, `void` if there is none. -/
def handedOver (params : List Descriptor) (handling : CallbackHandling) : TypeExpr :=
  (typeOr inline (.keyword .void) (consumed? handling params)).value

theorem diagnostics_declaredOr (d : Descriptor) (own : TypeExpr) :
    (declaredOr inline d own).diagnostics =
      if own.isVoid then d.returns.elim [] fun e => (inline e).diagnostics else [] := by
  unfold declaredOr
  split
  · rw [diagnostics_typeOr]
  · rfl

theorem diagnostics_returnType (d : Descriptor) (params : List Descriptor)
    (handling : CallbackHandling) :
    (returnType inline d params handling).diagnostics =
      ((consumed? handling params).elim [] fun e => (inline e).diagnostics) ++
        if (handedOver inline params handling).isVoid then
          d.returns.elim [] fun e => (inline e).diagnostics
        else [] := by
  rw [returnType, Reporting.diagnostics_bind, Reporting.diagnostics_bind,
    Reporting.diagnostics_pure, List.append_nil, diagnostics_typeOr, diagnostics_declaredOr,
    handedOver]

/-- The parameter of a signature at a position. -/
def param (index : Nat) (p : Descriptor) : Param TypeExpr :=
  { name := paramName index p, type := (inline p).value.getD .any, optional := p.isOptional }

theorem value_paramsFrom (index : Nat) (ps : List Descriptor) :
    (paramsFrom inline index ps).value = ps.mapIdx fun i p => param inline (index + i) p := by
  induction ps generalizing index with
  | nil => rfl
  | cons p rest ih =>
    rw [paramsFrom, Reporting.value_bind, Reporting.value_bind, Reporting.value_pure, ih,
      List.mapIdx_cons, Nat.add_zero]
    simp only [Nat.add_assoc, Nat.add_comm 1]
    rfl

theorem diagnostics_paramsFrom (index : Nat) (ps : List Descriptor) :
    (paramsFrom inline index ps).diagnostics = ps.flatMap fun p => (inline p).diagnostics := by
  induction ps generalizing index with
  | nil => rfl
  | cons p rest ih =>
    rw [paramsFrom, Reporting.diagnostics_bind, Reporting.diagnostics_bind,
      Reporting.diagnostics_pure, ih, List.append_nil, diagnostics_typeOr, List.flatMap_cons]
    rfl

/-- Every parameter is generated on its own. -/
theorem value_params (ps : List Descriptor) :
    (params inline ps).value = ps.mapIdx (param inline) := by
  rw [params, value_paramsFrom]
  simp only [Nat.zero_add]

theorem types_params (ps : List Descriptor) :
    (params inline ps).value.map (·.type) = ps.map fun p => (inline p).value.getD .any := by
  refine List.ext_getElem? fun i => ?_
  rw [value_params, List.getElem?_map, List.getElem?_mapIdx, List.getElem?_map, Option.map_map]
  rfl

theorem diagnostics_params (ps : List Descriptor) :
    (params inline ps).diagnostics = ps.flatMap fun p => (inline p).diagnostics :=
  diagnostics_paramsFrom inline 0 ps

/-- A signature with a place comes out there. -/
theorem value_typing {d : Descriptor} {context : Context} {slot : Slot}
    (h : (d.slot "function" context).run = pure (.ok slot)) (ps : List Descriptor)
    (handling : CallbackHandling) :
    (typing inline d ps handling context).run.value =
      .ok (place d (visible handling ps) (params inline (visible handling ps)).value
        (returnType inline d ps handling).value slot) := by
  unfold typing
  rw [ExceptT.run_bind, h]
  rfl

end Signature

end SchemaTypings
