/-!
# Documentation markup

Descriptions carry a little markup, which `plainMarkup` turns into what documentation comments
understand: code and emphasis tags become marks, cross references and anchors become links, and the
end of a comment is broken up. Each kind is one pass over the text from left to right; a pass takes
the longest marks it can and goes on behind them.
-/

namespace SchemaTypings.Text

/-- A mark at the front of a text: what it becomes and the number of characters it takes, at least
one. -/
abbrev Mark := List Char → Option (List Char × Nat)

/-- Replace the marks of a text, first skipping some characters that a mark has taken. -/
def replaceMarksFrom (mark : Mark) : Nat → List Char → List Char
  | _, [] => []
  | skip + 1, _ :: rest => replaceMarksFrom mark skip rest
  | 0, c :: rest =>
    match mark (c :: rest) with
    | some (replacement, taken) => replacement ++ replaceMarksFrom mark (taken - 1) rest
    | none => c :: replaceMarksFrom mark 0 rest

/-- Replace the marks of a text. -/
def replaceMarks (mark : Mark) (text : List Char) : List Char :=
  replaceMarksFrom mark 0 text

/-- The text behind a given beginning. -/
def dropLead? (lead : String) (text : List Char) : Option (List Char) :=
  if lead.toList.isPrefixOf text then some (text.drop lead.toList.length) else none

/-- Any of the given texts, each standing for the same replacement. -/
def anyOf (leads : List String) (replacement : String) : Mark := fun text =>
  (leads.find? fun lead => (dropLead? lead text).isSome).map fun lead =>
    (replacement.toList, lead.toList.length)

/-- Code and variable tags become backquotes. -/
def codeTag : Mark := anyOf ["<var>", "</var>", "<code>", "</code>"] "`"

/-- Emphasis tags become underscores. -/
def emphasisTag : Mark := anyOf ["<em>", "</em>"] "_"

/-- The comment terminator gets a backslash before its slash. -/
def commentEnd : Mark := anyOf ["*/"] "*\\/"

/-- A character of the name in a cross reference. -/
def isReferenceChar (c : Char) : Bool := c.isAlphanum || c = '.'

/-- A cross reference `$(ref:name)` becomes a link. -/
def crossReference : Mark := fun text => do
  let rest ← dropLead? "$(ref:" text
  let name := rest.takeWhile isReferenceChar
  let rest := rest.drop name.length
  if name.isEmpty then none
  else
    let rest ← dropLead? ")" rest
    some ("\x7b@link ".toList ++ name ++ ['\x7d'], text.length - rest.length)

/-- A character of the address in an anchor. -/
def isAddressChar (c : Char) : Bool :=
  c.isAlphanum || c = '.' || c = '/' || c = '-' || c = '_' || c = '#'

/-- The text behind a quotation mark, if there is one. -/
def dropQuotationMark : List Char → List Char
  | c :: rest => if c = '"' || c = '\x27' then rest else c :: rest
  | [] => []

/-- An anchor with a secure address becomes a link with its caption. The address ends at the first
character that cannot belong to one, and the rest of the tag is dropped. -/
def anchor : Mark := fun text => do
  let rest ← dropLead? "<a href=" text
  let rest ← dropLead? "https://" (dropQuotationMark rest)
  let address := rest.takeWhile isAddressChar
  if address.isEmpty then none
  else
    let rest ← dropLead? ">" ((rest.drop address.length).dropWhile (· ≠ '>'))
    let caption := rest.takeWhile (· ≠ '<')
    let rest ← dropLead? "</a>" (rest.drop caption.length)
    some ("\x7b@link https://".toList ++ address ++ ['|'] ++ caption ++ ['\x7d'],
      text.length - rest.length)

/-- The passes in order. -/
def markupPasses : List Mark := [codeTag, emphasisTag, crossReference, anchor, commentEnd]

/-- A description without markup. -/
def plainMarkup (description : String) : String :=
  String.ofList (markupPasses.foldl (fun text mark => replaceMarks mark text) description.toList)

end SchemaTypings.Text
