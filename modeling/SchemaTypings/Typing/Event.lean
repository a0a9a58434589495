import SchemaTypings.Typing.Generate

/-!
# Events of a namespace

An event is a constant. Its listener takes the parameters of the event; where optional parameters come
before the first mandatory one, it is a union of listeners, each leaving out some of the first of them
and taking the others as mandatory. An event whose listeners are added with extra parameters is an
object with its own three methods; any other is an instance of one interface.
-/

namespace SchemaTypings.EventTyping

/-- The interface that events share. -/
def eventInterface : String := "WebExtEvent"

/-- The listener over the given parameters. -/
def listener (event : Descriptor) (scope : Scope) (params : List Descriptor) :
    Generating TypeExpr := do
  let generated ← Signature.typing scope.inlineType event params .keep .inline
  pure (generated.type?.getD .any)

/-- Several listeners in order. -/
def listeners (event : Descriptor) (scope : Scope) :
    List (List Descriptor) → Generating (List TypeExpr)
  | [] => pure []
  | params :: rest => do
    let first ← listener event scope params
    let others ← listeners event scope rest
    pure (first :: others)

/-- The parameter lists that leave out the first `n` optional parameters, for every `n` up to all of
them; those that stay in front are mandatory. -/
def shiftedParams : List Descriptor → List Descriptor → List (List Descriptor)
  | [], rest => [rest]
  | p :: leading, rest =>
    ((p :: leading).map (·.withOptional false) ++ rest) :: shiftedParams leading rest

/-- The type of the listeners of an event. -/
def listenerType (event : Descriptor) (scope : Scope) : Generating TypeExpr :=
  let leading := event.params.takeWhile (·.isOptional)
  let rest := event.params.drop leading.length
  if leading.isEmpty || rest.isEmpty then listener event scope event.params
  else if event.hasExtraParameters then throw (.conflictingEventShapes event.label)
  else do
    let types ← listeners event scope (shiftedParams leading rest)
    pure (.union types)

/-- A method of an event that takes a listener. -/
def listenerMethod (name : String) (callback : TypeExpr) (extra : List (Param TypeExpr))
    (returns : Keyword) : Member TypeExpr :=
  .method name ({ name := "cb", type := callback } :: extra) (.keyword returns) .none

/-- An event as an object with methods. -/
def eventObject (callback : TypeExpr) (extra : List (Param TypeExpr)) : TypeExpr :=
  .object [
    listenerMethod "addListener" callback extra .void,
    listenerMethod "removeListener" callback [] .void,
    listenerMethod "hasListener" callback [] .boolean]

/-- The declaration of an event. -/
def typing (event : Descriptor) (scope : Scope) : Generating Declaration := do
  match event.identifier? with
  | none => throw (.missingIdentifier "event" .namespace)
  | some name =>
    let callback ← listenerType event scope
    if event.hasExtraParameters then
      let extra ← Signature.params scope.inlineType event.extraParams
      pure (event.declared name (.const (eventObject callback extra)))
    else pure (event.declared name (.const (.generic eventInterface [callback])))

/-- The declaration of an event, unless it is skipped; a failure is reported. -/
def expand (event : Descriptor) (scope : Scope) : Reporting (Option Declaration) :=
  match event.overridden? with
  | none => pure none
  | some event => do
    match ← (typing event scope).run with
    | .ok d => pure (some d)
    | .error cause =>
      scope.error (.failedEvent scope.space event.label cause)
      pure none

end SchemaTypings.EventTyping
