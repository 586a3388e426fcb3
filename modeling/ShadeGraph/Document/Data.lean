/-! Plain data, the form in which a document is exchanged. A record keeps the
order of its fields, which have distinct keys. -/

namespace ShadeGraph

inductive Data (α : Type)
  | null
  | bool (value : Bool)
  | number (value : α)
  | text (value : String)
  | list (items : List (Data α))
  | record (fields : List (String × Data α))

inductive DataType
  | null | string | number | nan | boolean | array | object
deriving DecidableEq

def DataType.name : DataType → String
  | null => "null"
  | string => "string"
  | number => "number"
  | nan => "nan"
  | boolean => "boolean"
  | array => "array"
  | object => "object"

variable {α : Type}

/-- A number that differs from itself is none. -/
def Data.type [BEq α] : Data α → DataType
  | null => .null
  | bool _ => .boolean
  | number value => if value == value then .number else .nan
  | text _ => .string
  | list _ => .array
  | record _ => .object

end ShadeGraph
