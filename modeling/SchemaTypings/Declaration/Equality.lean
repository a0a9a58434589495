import SchemaTypings.Declaration.Basic

/-!
# Equality of declarations

Two declarations are equal when they are built alike. Numbers are compared by value, so that the two
zeros are one literal.
-/

namespace SchemaTypings

instance : BEq Literal where
  beq
    | .string a, .string b => a == b
    | .integer a, .integer b => a == b
    | .number a, .number b => a == b
    | .bool a, .bool b => a == b
    | _, _ => false

namespace TypeExpr

mutual

/-- Equality of type expressions. -/
def same : TypeExpr → TypeExpr → Bool
  | .keyword a, .keyword b => decide (a = b)
  | .literal a, .literal b => a == b
  | .array a, .array b => same a b
  | .union as, .union bs => sameAll as bs
  | .intersection as, .intersection bs => sameAll as bs
  | .object as, .object bs => sameMembers as bs
  | .function as a, .function bs b => sameParams as bs && same a b
  | .reference a, .reference b => a == b
  | .generic a as, .generic b bs => a == b && sameAll as bs
  | .query a, .query b => a == b
  | .documented c a, .documented d b => decide (c = d) && same a b
  | _, _ => false

/-- Equality of lists of type expressions. -/
def sameAll : List TypeExpr → List TypeExpr → Bool
  | [], [] => true
  | a :: as, b :: bs => same a b && sameAll as bs
  | _, _ => false

/-- Equality of lists of parameters. -/
def sameParams : List (Param TypeExpr) → List (Param TypeExpr) → Bool
  | [], [] => true
  | a :: as, b :: bs => sameParam a b && sameParams as bs
  | _, _ => false

/-- Equality of parameters. -/
def sameParam : Param TypeExpr → Param TypeExpr → Bool
  | ⟨n, a, o, r⟩, ⟨m, b, p, s⟩ => n == m && o == p && r == s && same a b

/-- Equality of lists of members. -/
def sameMembers : List (Member TypeExpr) → List (Member TypeExpr) → Bool
  | [], [] => true
  | a :: as, b :: bs => sameMember a b && sameMembers as bs
  | _, _ => false

/-- Equality of members. -/
def sameMember : Member TypeExpr → Member TypeExpr → Bool
  | .property n a o c, .property m b p d => n == m && o == p && decide (c = d) && same a b
  | .method n as a c, .method m bs b d => n == m && decide (c = d) && sameParams as bs && same a b
  | .index n a, .index m b => n == m && same a b
  | _, _ => false

end

instance : BEq TypeExpr := ⟨same⟩

end TypeExpr

namespace Declaration

mutual

/-- Equality of declarations. -/
def same : Declaration → Declaration → Bool
  | ⟨n, e, d, c, a⟩, ⟨m, f, g, h, b⟩ =>
    n == m && e == f && d == g && decide (c = h) && sameBody a b

/-- Equality of what is declared. -/
def sameBody : DeclarationBody Declaration → DeclarationBody Declaration → Bool
  | .interface as a, .interface bs b => as == bs && TypeExpr.sameMembers a b
  | .alias a, .alias b => a == b
  | .function as a, .function bs b => TypeExpr.sameParams as bs && a == b
  | .const a, .const b => a == b
  | .exportAlias a, .exportAlias b => a == b
  | .importAlias a, .importAlias b => a == b
  | .namespace as, .namespace bs => sameAll as bs
  | _, _ => false

/-- Equality of lists of declarations. -/
def sameAll : List Declaration → List Declaration → Bool
  | [], [] => true
  | a :: as, b :: bs => same a b && sameAll as bs
  | _, _ => false

end

instance : BEq Declaration := ⟨same⟩

end Declaration

end SchemaTypings
