import SchemaTypings.Binary64.Basic

/-!
# Declarations

The contents of a declaration file: type expressions with their parameters and members, documentation
comments, and declarations, which nest by namespaces.
-/

namespace SchemaTypings

/-- The types that have a keyword. -/
inductive Keyword where
  | any | string | number | boolean | null | void | never
deriving DecidableEq

/-- A value used as a type. -/
inductive Literal where
  | string (value : String)
  | integer (value : Int)
  | number (value : Binary64)
  | bool (value : Bool)

/-- A documentation comment. An empty text is not the same as a missing one. -/
structure DocComment where
  description : Option String := none
  params : List (String × String) := []
  deprecated : Option String := none
deriving DecidableEq

/-- The comment that says nothing. -/
def DocComment.none : DocComment := {}

/-- Whether the comment has no part. -/
def DocComment.isEmpty (doc : DocComment) : Bool :=
  doc.description.isNone && doc.params.isEmpty && doc.deprecated.isNone

/-- A parameter of a function. -/
structure Param (τ : Type) where
  name : String
  type : τ
  optional : Bool := false
  rest : Bool := false

/-- A member of an object type or of an interface. -/
inductive Member (τ : Type) where
  | property (name : String) (type : τ) (optional : Bool) (doc : DocComment)
  | method (name : String) (params : List (Param τ)) (returns : τ) (doc : DocComment)
  | index (key : String) (value : τ)

namespace Member

variable {τ : Type}

/-- The name of a member; an index signature has none. -/
def name? : Member τ → Option String
  | property name _ _ _ => some name
  | method name _ _ _ => some name
  | index _ _ => none

/-- The comment of a member. -/
def doc : Member τ → DocComment
  | property _ _ _ doc => doc
  | method _ _ _ doc => doc
  | index _ _ => .none

end Member

/-- A type expression. -/
inductive TypeExpr where
  | keyword (keyword : Keyword)
  | literal (literal : Literal)
  | array (item : TypeExpr)
  | union (types : List TypeExpr)
  | intersection (types : List TypeExpr)
  | object (members : List (Member TypeExpr))
  | function (params : List (Param TypeExpr)) (returns : TypeExpr)
  | reference (name : String)
  | generic (name : String) (args : List TypeExpr)
  /-- The type of a value. -/
  | query (name : String)
  /-- A type with a comment of its own. -/
  | documented (doc : DocComment) (type : TypeExpr)

namespace TypeExpr

/-- The type of every value. -/
def any : TypeExpr := keyword .any

/-- An object type with values of one type under every key. -/
def stringIndex (value : TypeExpr) : TypeExpr := object [.index "key" value]

/-- Whether the type is the keyword `void`. -/
def isVoid : TypeExpr → Bool
  | keyword .void => true
  | _ => false

end TypeExpr

/-- What a declaration declares. -/
inductive DeclarationBody (δ : Type) where
  | interface (typeParams : List String) (members : List (Member TypeExpr))
  | alias (type : TypeExpr)
  | function (params : List (Param TypeExpr)) (returns : TypeExpr)
  | const (type : TypeExpr)
  /-- Another name under which a local declaration is exported. -/
  | exportAlias (target : String)
  /-- A name for something declared elsewhere. -/
  | importAlias (target : String)
  | namespace (body : List δ)

/-- A declaration with its modifiers. -/
structure Declaration where
  name : String
  exported : Bool := true
  declared : Bool := false
  doc : DocComment := .none
  body : DeclarationBody Declaration

namespace Declaration

/-- Whether references may point at the name. -/
def declaresType (d : Declaration) : Bool :=
  match d.body with
  | .interface _ _ | .alias _ | .function _ _ => true
  | _ => false

/-- Whether several declarations may stand under one name. -/
def mayRepeat (d : Declaration) : Bool :=
  match d.body with
  | .interface _ _ | .function _ _ | .namespace _ => true
  | _ => false

/-- Whether the name is a type; any other declaration binds a value. -/
def inTypeSpace (d : Declaration) : Bool :=
  match d.body with
  | .interface _ _ | .alias _ => true
  | _ => false

/-- Whether two declarations bind the same name, both as a type or both as a value. -/
def sharesName (a b : Declaration) : Bool :=
  a.name == b.name && a.inTypeSpace == b.inTypeSpace

theorem sharesName_comm (a b : Declaration) : a.sharesName b = b.sharesName a := by
  simp only [sharesName, Bool.beq_comm]

end Declaration

/-- A declaration file. -/
structure Module where
  statements : List Declaration

end SchemaTypings
