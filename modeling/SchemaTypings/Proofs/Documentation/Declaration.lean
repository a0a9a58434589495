import SchemaTypings.Declaration.Basic

/-!
# Declarations without documentation

Comments stand at declarations, at members, and in front of types. Without them a documented type is the
type itself, and everything else is built as before.

* `TypeExpr.undocumented`, `Declaration.undocumented`, `Module.undocumented`: what is left without comments.
* `Declaration.sharesName_undocumented`: names and forms stay.
* `Module.undocumented_undocumented`: there are no comments left.
-/

namespace SchemaTypings

namespace TypeExpr

mutual

/-- The type without comments. -/
def undocumented : TypeExpr → TypeExpr
  | keyword k => keyword k
  | literal l => literal l
  | array item => array (undocumented item)
  | union types => union (undocumentedAll types)
  | intersection types => intersection (undocumentedAll types)
  | object members => object (undocumentedMembers members)
  | function params returns => function (undocumentedParams params) (undocumented returns)
  | reference name => reference name
  | generic name args => generic name (undocumentedAll args)
  | query name => query name
  | documented _ type => undocumented type

/-- Types without comments. -/
def undocumentedAll : List TypeExpr → List TypeExpr
  | [] => []
  | t :: ts => undocumented t :: undocumentedAll ts

/-- Parameters without comments in their types. -/
def undocumentedParams : List (Param TypeExpr) → List (Param TypeExpr)
  | [] => []
  | p :: ps => undocumentedParam p :: undocumentedParams ps

/-- A parameter without comments in its type. -/
def undocumentedParam : Param TypeExpr → Param TypeExpr
  | ⟨name, type, optional, rest⟩ => ⟨name, undocumented type, optional, rest⟩

/-- Members without comments. -/
def undocumentedMembers : List (Member TypeExpr) → List (Member TypeExpr)
  | [] => []
  | m :: ms => undocumentedMember m :: undocumentedMembers ms

/-- A member without comments. -/
def undocumentedMember : Member TypeExpr → Member TypeExpr
  | .property name type optional _ => .property name (undocumented type) optional .none
  | .method name params returns _ =>
    .method name (undocumentedParams params) (undocumented returns) .none
  | .index key value => .index key (undocumented value)

end

theorem undocumentedAll_eq_map (types : List TypeExpr) :
    undocumentedAll types = types.map undocumented := by
  induction types with
  | nil => rfl
  | cons t ts ih => rw [undocumentedAll, ih, List.map_cons]

theorem undocumentedParams_eq_map (params : List (Param TypeExpr)) :
    undocumentedParams params = params.map undocumentedParam := by
  induction params with
  | nil => rfl
  | cons p ps ih => rw [undocumentedParams, ih, List.map_cons]

theorem undocumentedMembers_eq_map (members : List (Member TypeExpr)) :
    undocumentedMembers members = members.map undocumentedMember := by
  induction members with
  | nil => rfl
  | cons m ms ih => rw [undocumentedMembers, ih, List.map_cons]

mutual

theorem undocumented_undocumented : ∀ t : TypeExpr, t.undocumented.undocumented = t.undocumented
  | keyword _ => rfl
  | literal _ => rfl
  | array item => by simp only [undocumented, undocumented_undocumented item]
  | union types => by simp only [undocumented, undocumentedAll_undocumentedAll types]
  | intersection types => by simp only [undocumented, undocumentedAll_undocumentedAll types]
  | object members => by simp only [undocumented, undocumentedMembers_undocumentedMembers members]
  | function params returns => by
    simp only [undocumented, undocumentedParams_undocumentedParams params,
      undocumented_undocumented returns]
  | reference _ => rfl
  | generic _ args => by simp only [undocumented, undocumentedAll_undocumentedAll args]
  | query _ => rfl
  | documented _ type => by simp only [undocumented, undocumented_undocumented type]

theorem undocumentedAll_undocumentedAll :
    ∀ types : List TypeExpr, undocumentedAll (undocumentedAll types) = undocumentedAll types
  | [] => rfl
  | t :: ts => by
    simp only [undocumentedAll, undocumented_undocumented t, undocumentedAll_undocumentedAll ts]

theorem undocumentedParams_undocumentedParams : ∀ params : List (Param TypeExpr),
    undocumentedParams (undocumentedParams params) = undocumentedParams params
  | [] => rfl
  | ⟨_, type, _, _⟩ :: ps => by
    simp only [undocumentedParams, undocumentedParam, undocumented_undocumented type,
      undocumentedParams_undocumentedParams ps]

theorem undocumentedMembers_undocumentedMembers : ∀ members : List (Member TypeExpr),
    undocumentedMembers (undocumentedMembers members) = undocumentedMembers members
  | [] => rfl
  | .property _ type _ _ :: ms => by
    simp only [undocumentedMembers, undocumentedMember, undocumented_undocumented type,
      undocumentedMembers_undocumentedMembers ms]
  | .method _ params returns _ :: ms => by
    simp only [undocumentedMembers, undocumentedMember, undocumentedParams_undocumentedParams params,
      undocumented_undocumented returns, undocumentedMembers_undocumentedMembers ms]
  | .index _ value :: ms => by
    simp only [undocumentedMembers, undocumentedMember, undocumented_undocumented value,
      undocumentedMembers_undocumentedMembers ms]

end

/-- Whether the type has a comment of its own. -/
def isDocumented : TypeExpr → Bool
  | documented _ _ => true
  | _ => false

theorem isVoid_undocumented {t : TypeExpr} (h : t.isDocumented = false) :
    t.undocumented.isVoid = t.isVoid := by
  cases t with
  | documented => cases h
  | _ => rfl

end TypeExpr

/-! ## Declarations -/

namespace Declaration

mutual

/-- The declaration without comments. -/
def undocumented : Declaration → Declaration
  | ⟨name, exported, declared, _, body⟩ => ⟨name, exported, declared, .none, undocumentedBody body⟩

/-- What is declared, without comments. -/
def undocumentedBody : DeclarationBody Declaration → DeclarationBody Declaration
  | .interface typeParams members => .interface typeParams (members.map TypeExpr.undocumentedMember)
  | .alias type => .alias type.undocumented
  | .function params returns =>
    .function (params.map TypeExpr.undocumentedParam) returns.undocumented
  | .const type => .const type.undocumented
  | .exportAlias target => .exportAlias target
  | .importAlias target => .importAlias target
  | .namespace body => .namespace (undocumentedAll body)

/-- Declarations without comments. -/
def undocumentedAll : List Declaration → List Declaration
  | [] => []
  | d :: ds => undocumented d :: undocumentedAll ds

end

theorem undocumentedAll_eq_map (ds : List Declaration) :
    undocumentedAll ds = ds.map undocumented := by
  induction ds with
  | nil => rfl
  | cons d ds ih => rw [undocumentedAll, ih, List.map_cons]

theorem undocumentedBody_namespace (body : List Declaration) :
    undocumentedBody (.namespace body) = .namespace (body.map undocumented) :=
  congrArg DeclarationBody.namespace (undocumentedAll_eq_map body)

mutual

theorem undocumented_undocumented : ∀ d : Declaration, d.undocumented.undocumented = d.undocumented
  | ⟨_, _, _, _, body⟩ => by simp only [undocumented, undocumentedBody_undocumentedBody body]

theorem undocumentedBody_undocumentedBody : ∀ body : DeclarationBody Declaration,
    undocumentedBody (undocumentedBody body) = undocumentedBody body
  | .interface _ members => by
    simp only [undocumentedBody, ← TypeExpr.undocumentedMembers_eq_map,
      TypeExpr.undocumentedMembers_undocumentedMembers]
  | .alias type => by simp only [undocumentedBody, TypeExpr.undocumented_undocumented]
  | .function params returns => by
    simp only [undocumentedBody, ← TypeExpr.undocumentedParams_eq_map,
      TypeExpr.undocumentedParams_undocumentedParams, TypeExpr.undocumented_undocumented]
  | .const type => by simp only [undocumentedBody, TypeExpr.undocumented_undocumented]
  | .exportAlias _ => rfl
  | .importAlias _ => rfl
  | .namespace body => by simp only [undocumentedBody, undocumentedAll_undocumentedAll body]

theorem undocumentedAll_undocumentedAll : ∀ ds : List Declaration,
    undocumentedAll (undocumentedAll ds) = undocumentedAll ds
  | [] => rfl
  | d :: ds => by
    simp only [undocumentedAll, undocumented_undocumented d, undocumentedAll_undocumentedAll ds]

end

/-! Without comments a declaration keeps its name and its form. -/

section Form

variable (d e : Declaration)

@[simp] theorem name_undocumented : d.undocumented.name = d.name := by cases d; rfl

@[simp] theorem declaresType_undocumented : d.undocumented.declaresType = d.declaresType := by
  obtain ⟨_, _, _, _, body⟩ := d
  cases body <;> rfl

@[simp] theorem mayRepeat_undocumented : d.undocumented.mayRepeat = d.mayRepeat := by
  obtain ⟨_, _, _, _, body⟩ := d
  cases body <;> rfl

@[simp] theorem inTypeSpace_undocumented : d.undocumented.inTypeSpace = d.inTypeSpace := by
  obtain ⟨_, _, _, _, body⟩ := d
  cases body <;> rfl

@[simp] theorem sharesName_undocumented :
    d.undocumented.sharesName e.undocumented = d.sharesName e := by
  simp only [sharesName, name_undocumented, inTypeSpace_undocumented]

end Form

end Declaration

/-- The declaration file without comments. -/
def Module.undocumented (m : Module) : Module := ⟨m.statements.map Declaration.undocumented⟩

theorem Module.undocumented_undocumented (m : Module) :
    m.undocumented.undocumented = m.undocumented := by
  simp only [undocumented, List.map_map]
  congr 2
  exact funext Declaration.undocumented_undocumented

end SchemaTypings
