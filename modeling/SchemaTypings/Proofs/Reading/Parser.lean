import SchemaTypings.Proofs.Reading.Lexer
import SchemaTypings.Proofs.Reading.Normal

/-!
# Reading types

The grammar of type expressions, loosest first: a function type reaches as far as it can; a union is made of
intersections, an intersection of types with any number of `[]` behind them, and such a type is a word, a
literal, a reference with or without arguments, the type of a value, an object type or any type in
parentheses. Parentheses leave no trace. An opening parenthesis begins a function type if `)`, `...` or a
name with `:` or `?` stands behind it.

Keys of objects may be any identifiers, keywords too. One of them needs care: `new` before a parameter list
is not a method but a construct signature, which no type expression here can hold.

* `typeWithin`: types nested at most a number of levels deep.
* `parse?`: the type that a text shows, if it shows nothing else.
-/

namespace SchemaTypings.Reading

/-- Something read from the front of a list of tokens, and what stands behind it. -/
abbrev Parser (α : Type) := List Token → Option (α × List Token)

/-! ## Names -/

/-- The words with a meaning of their own. -/
def keywords : List String := Text.reservedWords ++ [
  "any", "unknown", "never", "object", "string", "number", "boolean", "symbol", "bigint", "undefined",
  "keyof", "unique", "readonly", "infer"]

/-- Identifiers with dots between them. -/
def isDotted (name : String) : Bool :=
  (name.toList.splitOn '.').all fun part => Text.isIdentifier (String.ofList part)

/-- Whether a word is a name. -/
def isName (word : String) : Bool := isDotted word && !keywords.contains word

/-- The words that are types on their own. -/
def meanings : List (String × TypeExpr) := [
  ("any", .keyword .any), ("string", .keyword .string), ("number", .keyword .number),
  ("boolean", .keyword .boolean), ("null", .keyword .null), ("void", .keyword .void),
  ("never", .keyword .never), ("true", .literal (.bool true)), ("false", .literal (.bool false))]

/-- The type that a word alone means, if it has a meaning of its own. -/
def meaning? (word : String) : Option TypeExpr := meanings.lookup word

/-- The type of keys in an index signature. -/
def keyWord : String := "string"

/-- The word before the name of a value whose type is meant. -/
def queryWord : String := "typeof"

/-- The word that makes a construct signature of a parameter list. -/
def constructWord : String := "new"

/-! ## Lists -/

/-- The tokens behind an expected one. -/
def expect? (token : Token) : List Token → Option (List Token)
  | [] => none
  | t :: ts => if t = token then some ts else none

variable {α : Type}

/-- At least one and at most a number of things with separators between them. -/
def separatedWithin (separator : Token) (one : Parser α) : Nat → Parser (List α)
  | 0, _ => none
  | more + 1, ts => do
    let (first, ts) ← one ts
    match expect? separator ts with
    | none => some ([first], ts)
    | some ts => do
      let (others, ts) ← separatedWithin separator one more ts
      some (first :: others, ts)

/-- Things with separators between them; there are fewer separators than tokens. -/
def separated (separator : Token) (one : Parser α) : Parser (List α) := fun ts =>
  separatedWithin separator one (ts.length + 1) ts

/-- Things with separators between them up to a closing token; there may be none. -/
def enclosed (separator closing : Token) (one : Parser α) : Parser (List α) := fun ts =>
  match expect? closing ts with
  | some ts => some ([], ts)
  | none => do
    let (things, ts) ← separated separator one ts
    let ts ← expect? closing ts
    some (things, ts)

/-! ## Types

Types inside of others are read by the parser for them. -/

section Types

variable (inner : Parser TypeExpr)

/-- The rest of a parameter behind its dots. -/
def namedParam (rest : Bool) : Parser (Param TypeExpr)
  | .word name :: .sign '?' :: .sign ':' :: ts => do
    let (type, ts) ← inner ts
    if isName name then some ({ name, type, optional := true, rest }, ts) else none
  | .word name :: .sign ':' :: ts => do
    let (type, ts) ← inner ts
    if isName name then some ({ name, type, rest }, ts) else none
  | _ => none

/-- A parameter. -/
def param : Parser (Param TypeExpr)
  | .ellipsis :: ts => namedParam inner true ts
  | ts => namedParam inner false ts

/-- Parameters behind the opening parenthesis. -/
def params : Parser (List (Param TypeExpr)) := enclosed (.sign ',') (.sign ')') (param inner)

/-- A function type. -/
def functionType : Parser TypeExpr := fun ts => do
  let ts ← expect? (.sign '(') ts
  let (ps, ts) ← params inner ts
  let ts ← expect? .arrow ts
  let (returns, ts) ← inner ts
  some (.function ps returns, ts)

/-- The rest of a member behind its key. -/
def keyedMember (key : String) : Parser (Member TypeExpr)
  | .sign '?' :: .sign ':' :: ts => do
    let (type, ts) ← inner ts
    some (.property key type true .none, ts)
  | .sign ':' :: ts => do
    let (type, ts) ← inner ts
    some (.property key type false .none, ts)
  | .sign '(' :: ts => do
    let (ps, ts) ← params inner ts
    let ts ← expect? (.sign ':') ts
    let (returns, ts) ← inner ts
    some (.method key ps returns .none, ts)
  | _ => none

/-- Whether a word and the tokens behind it are a construct signature. -/
def isConstruct (word : String) (ts : List Token) : Bool :=
  word = constructWord && ts.head? = some (.sign '(')

/-- A member of an object type. -/
def member : Parser (Member TypeExpr)
  | .sign '[' :: .word key :: .sign ':' :: .word keyType :: .sign ']' :: .sign ':' :: ts => do
    let (value, ts) ← inner ts
    if isName key && keyType = keyWord then some (.index key value, ts) else none
  | .text key :: ts => keyedMember inner key ts
  | .word key :: ts =>
    if Text.isIdentifier key && !isConstruct key ts then keyedMember inner key ts else none
  | _ => none

/-- The type that begins with a word. -/
def worded (word : String) (ts : List Token) : Option (TypeExpr × List Token) :=
  match meaning? word with
  | some type => some (type, ts)
  | none =>
    match ts with
    | .word name :: ts => if word = queryWord && isName name then some (.query name, ts) else none
    | .sign '<' :: ts => do
      let (args, ts) ← enclosed (.sign ',') (.sign '>') inner ts
      if isName word then some (.generic word args, ts) else none
    | ts => if isName word then some (.reference word, ts) else none

/-- A type that needs no parentheses anywhere. -/
def primary : Parser TypeExpr
  | .text value :: ts => some (.literal (.string value), ts)
  | .numeral value :: ts => some (.literal (.integer value), ts)
  | .sign '-' :: .numeral value :: ts => some (.literal (.integer (-value)), ts)
  | .word word :: ts => worded inner word ts
  | .sign '\x7b' :: ts => do
    let (members, ts) ← enclosed (.sign ';') (.sign '\x7d') (member inner) ts
    some (.object members, ts)
  | .sign '(' :: ts => do
    let (type, ts) ← inner ts
    let ts ← expect? (.sign ')') ts
    some (type, ts)
  | _ => none

/-- The type with the brackets behind it, and what stands behind these. -/
def withBrackets (type : TypeExpr) : List Token → TypeExpr × List Token
  | .sign '[' :: .sign ']' :: ts => withBrackets (.array type) ts
  | ts => (type, ts)

/-- A type with brackets behind it. -/
def postfixType : Parser TypeExpr := fun ts => do
  let (type, ts) ← primary inner ts
  some (withBrackets type ts)

end Types

/-- The sign of a junction. -/
def junctionSign : Junction → Token
  | .union => .sign '|'
  | .intersection => .sign '&'

/-- Operands with the sign of a junction between them. -/
def junction (j : Junction) (operand : Parser TypeExpr) : Parser TypeExpr := fun ts => do
  let (operands, ts) ← separated (junctionSign j) operand ts
  some (j.joined operands, ts)

/-- Whether the tokens behind an opening parenthesis begin a parameter list. -/
def beginParams : List Token → Bool
  | .sign ')' :: _ | .ellipsis :: _ | .word _ :: .sign ':' :: _ | .word _ :: .sign '?' :: _ => true
  | _ => false

/-- Whether the tokens begin a function type. -/
def beginFunction : List Token → Bool
  | .sign '(' :: ts => beginParams ts
  | _ => false

/-- A type. -/
def typeOver (inner : Parser TypeExpr) : Parser TypeExpr := fun ts =>
  if beginFunction ts then functionType inner ts
  else junction .union (junction .intersection (postfixType inner)) ts

/-- A type nested at most a number of levels deep. -/
def typeWithin : Nat → Parser TypeExpr
  | 0 => fun _ => none
  | levels + 1 => typeOver (typeWithin levels)

/-- The type that a text shows. A type is not nested deeper than it has tokens. -/
def parse? (text : String) : Option TypeExpr := do
  let ts ← lex? text
  match typeWithin (ts.length + 1) ts with
  | some (type, []) => some type
  | _ => none

end SchemaTypings.Reading
