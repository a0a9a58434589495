/-!
# Descriptor keys

The keys with a meaning of their own, in the order in which a descriptor is written. The host class of
an object has two spellings; the longer one is written.
-/

namespace SchemaTypings

/-- A key of a descriptor with a meaning of its own. -/
inductive Key where
  | type | id | name | description | deprecated | unsupported | optional | reference | choices
  | value | enumChoices | items | properties | patternProperties | additionalProperties | functions
  | isInstanceOf | parameters | extraParameters | returns | asynchronous
deriving DecidableEq

namespace Key

/-- The spelling of a key. -/
def spelling : Key → String
  | type => "type"
  | id => "id"
  | name => "name"
  | description => "description"
  | deprecated => "deprecated"
  | unsupported => "unsupported"
  | optional => "optional"
  | reference => "$ref"
  | choices => "choices"
  | value => "value"
  | enumChoices => "enum"
  | items => "items"
  | properties => "properties"
  | patternProperties => "patternProperties"
  | additionalProperties => "additionalProperties"
  | functions => "functions"
  | isInstanceOf => "isInstanceOf"
  | parameters => "parameters"
  | extraParameters => "extraParameters"
  | returns => "returns"
  | asynchronous => "async"

/-- Every key, in writing order. -/
def all : List Key :=
  [type, id, name, description, deprecated, unsupported, optional, reference, choices, value,
    enumChoices, items, properties, patternProperties, additionalProperties, functions, isInstanceOf,
    parameters, extraParameters, returns, asynchronous]

/-- The other spelling of the host class. -/
def instanceAlias : String := "instanceOf"

/-- The key with this spelling. -/
def ofString? (s : String) : Option Key :=
  if s = instanceAlias then some isInstanceOf else all.find? fun key => key.spelling == s

theorem mem_all (key : Key) : key ∈ all := by cases key <;> decide

theorem ofString?_spelling (key : Key) : ofString? key.spelling = some key := by
  cases key <;> decide

end Key

end SchemaTypings
