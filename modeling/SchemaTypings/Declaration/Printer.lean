import SchemaTypings.Binary64.Layout
import SchemaTypings.Declaration.Doc
import SchemaTypings.Text.Identifier

/-!
# Writing declarations

A type expression is written on one line. Parentheses stand where the written form would otherwise be
read differently: around a union, intersection, function or documented type before `[]`, around a
union or function in an intersection, and around a function in a union.

A declaration is a list of lines, those of nested declarations and members one level further in. Its
text puts the indentation before each line and a line feed behind it.
-/

namespace SchemaTypings

/-- The text of a keyword type. -/
def Keyword.write : Keyword → String
  | any => "any"
  | string => "string"
  | number => "number"
  | boolean => "boolean"
  | null => "null"
  | void => "void"
  | never => "never"

/-- The text of a literal type. -/
def Literal.write : Literal → String
  | string value => Text.stringLiteral value
  | integer value => toString value
  | number value => Layout.literal.write value
  | bool true => "true"
  | bool false => "false"

namespace TypeExpr

/-- Whether the type takes parentheses before `[]`. -/
def groupedInArray : TypeExpr → Bool
  | union _ | intersection _ | function _ _ | documented _ _ => true
  | _ => false

/-- Whether the type takes parentheses in a union. -/
def groupedInUnion : TypeExpr → Bool
  | function _ _ => true
  | _ => false

/-- Whether the type takes parentheses in an intersection. -/
def groupedInIntersection : TypeExpr → Bool
  | union _ | function _ _ => true
  | _ => false

/-- A text in parentheses if asked for. -/
def group (grouped : Bool) (text : String) : String :=
  if grouped then "(" ++ text ++ ")" else text

/-- A mark if asked for. -/
def mark (on : Bool) (text : String) : String := if on then text else ""

mutual

/-- The text of a type expression. -/
def write : TypeExpr → String
  | .keyword k => k.write
  | .literal l => l.write
  | .array item => group item.groupedInArray (write item) ++ "[]"
  | .union [] => Keyword.never.write
  | .union (t :: ts) => String.intercalate " | " (writeGrouped groupedInUnion (t :: ts))
  | .intersection ts => String.intercalate " & " (writeGrouped groupedInIntersection ts)
  | .object [] => "\x7b\x7d"
  | .object (m :: ms) => "\x7b " ++ String.intercalate "; " (writeMembers (m :: ms)) ++ " \x7d"
  | .function params returns =>
    "(" ++ String.intercalate ", " (writeParams params) ++ ") => " ++ write returns
  | .reference name => name
  | .generic name args => name ++ "<" ++ String.intercalate ", " (writeAll args) ++ ">"
  | .query name => "typeof " ++ name
  | .documented doc type =>
    match doc.inlineText? with
    | some comment => comment ++ " " ++ write type
    | none => write type

/-- The texts of several types. -/
def writeAll : List TypeExpr → List String
  | [] => []
  | t :: ts => write t :: writeAll ts

/-- The texts of several types, some in parentheses. -/
def writeGrouped (grouped : TypeExpr → Bool) : List TypeExpr → List String
  | [] => []
  | t :: ts => group (grouped t) (write t) :: writeGrouped grouped ts

/-- The texts of parameters. -/
def writeParams : List (Param TypeExpr) → List String
  | [] => []
  | p :: ps => writeParam p :: writeParams ps

/-- The text of a parameter. -/
def writeParam : Param TypeExpr → String
  | ⟨name, type, optional, rest⟩ =>
    mark rest "..." ++ name ++ mark optional "?" ++ ": " ++ write type

/-- The texts of members. -/
def writeMembers : List (Member TypeExpr) → List String
  | [] => []
  | m :: ms => writeMember m :: writeMembers ms

/-- The text of a member without its comment. -/
def writeMember : Member TypeExpr → String
  | .property name type optional _ =>
    Text.propertyKey name ++ mark optional "?" ++ ": " ++ write type
  | .method name params returns _ =>
    Text.propertyKey name ++ "(" ++ String.intercalate ", " (writeParams params) ++ "): " ++
      write returns
  | .index key value => "[" ++ key ++ ": string]: " ++ write value

end

end TypeExpr

/-- The text of a parameter. -/
def Param.write (p : Param TypeExpr) : String := TypeExpr.writeParam p

/-- The text of a member without its comment. -/
def Member.write (m : Member TypeExpr) : String := TypeExpr.writeMember m

/-- Parameters between parentheses. -/
def Param.writeList (params : List (Param TypeExpr)) : String :=
  "(" ++ String.intercalate ", " (TypeExpr.writeParams params) ++ ")"

/-! ## Lines -/

/-- The blanks of an indentation, two a level. -/
def indentation (levels : Nat) : String := String.ofList (List.replicate (2 * levels) ' ')

/-- A line one level further in. -/
def indented (line : String) : String := "  " ++ line

/-- The text of lines at an indentation. -/
def layLines (levels : Nat) (lines : List String) : String :=
  String.join (lines.map fun line => indentation levels ++ line ++ "\n")

/-- The text of a comment. -/
def DocComment.write (doc : DocComment) (levels : Nat) : String := layLines levels doc.lines

/-- The lines of a member in the body of an interface. -/
def Member.lines (m : Member TypeExpr) : List String := m.doc.lines ++ [m.write ++ ";"]

/-- The text of a member in the body of an interface. -/
def Member.writeLines (m : Member TypeExpr) (levels : Nat) : String := layLines levels m.lines

namespace Declaration

/-- A body between braces, on one line if it is empty. -/
def braced (head : String) (lines : List String) : List String :=
  match lines with
  | [] => [head ++ " \x7b\x7d"]
  | lines => [head ++ " \x7b"] ++ lines.map indented ++ ["\x7d"]

/-- Type parameters between angle brackets, if there are any. -/
def writeTypeParams (typeParams : List String) : String :=
  if typeParams.isEmpty then "" else "<" ++ String.intercalate ", " typeParams ++ ">"

mutual

/-- The lines of a declaration. -/
def lines : Declaration → List String
  | ⟨name, exported, declared, doc, body⟩ =>
    doc.lines ++
      bodyLines name (TypeExpr.mark exported "export " ++ TypeExpr.mark declared "declare ") body

/-- The lines of what is declared, behind the modifiers. -/
def bodyLines (name modifiers : String) : DeclarationBody Declaration → List String
  | .interface typeParams members =>
    braced (modifiers ++ "interface " ++ name ++ writeTypeParams typeParams)
      (members.flatMap Member.lines)
  | .alias type => [modifiers ++ "type " ++ name ++ " = " ++ type.write ++ ";"]
  | .function params returns =>
    [modifiers ++ "function " ++ name ++ Param.writeList params ++ ": " ++ returns.write ++ ";"]
  | .const type => [modifiers ++ "const " ++ name ++ ": " ++ type.write ++ ";"]
  | .exportAlias target => ["export \x7b " ++ target ++ " as " ++ name ++ " \x7d;"]
  | .importAlias target => [modifiers ++ "import " ++ name ++ " = " ++ target ++ ";"]
  | .namespace body => braced (modifiers ++ "namespace " ++ name) (allLines body)

/-- The lines of several declarations. -/
def allLines : List Declaration → List String
  | [] => []
  | d :: ds => lines d ++ allLines ds

end

/-- The text of a declaration at an indentation. -/
def write (d : Declaration) (levels : Nat) : String := layLines levels d.lines

end Declaration

/-- The text of a declaration file: its statements with an empty line between them. -/
def Module.write (m : Module) : String :=
  String.intercalate "\n" (m.statements.map fun d => d.write 0)

end SchemaTypings
