import Mustache.Value

namespace Mustache

inductive Data where
  | null
  | bool (b : Bool)
  | int (n : Int64)
  | uint (n : UInt64)
  | float (bits : UInt64)
  | text (content : String)
  | bytes (content : Bytes)
  | list (items : List Data)
  | map (entries : List (String × Data))
  | object (adapter : Adapter)
  deriving Inhabited

namespace Data

mutual

def toValue : Data → Value
  | .null => .null
  | .bool b => .bool b
  | .int n => .int n
  | .uint n => .uint n
  | .float bits => .float bits
  | .text content => .text content
  | .bytes content => .bytes content
  | .list items => .list (toValues items)
  | .map entries => .object (.fields entries.isEmpty (field entries))
  | .object adapter => .object adapter

def toValues : List Data → List Value
  | [] => []
  | item :: items => item.toValue :: toValues items

def field : List (String × Data) → String → Value
  | [], _ => .null
  | (name, item) :: entries, wanted => if name = wanted then item.toValue else field entries wanted

end

theorem toValues_eq_map (items : List Data) : toValues items = items.map toValue := by
  induction items <;> simp_all [toValues]

mutual

def describe : Data → String
  | .list items => "[" ++ ", ".intercalate (describeItems items) ++ "]"
  | .map entries => "\x7b" ++ ", ".intercalate (describeEntries entries) ++ "\x7d"
  | .null => Value.describe .null
  | .bool b => Value.describe (.bool b)
  | .int n => Value.describe (.int n)
  | .uint n => Value.describe (.uint n)
  | .float bits => Value.describe (.float bits)
  | .text content => Value.describe (.text content)
  | .bytes content => Value.describe (.bytes content)
  | .object adapter => Value.describe (.object adapter)

def describeItems : List Data → List String
  | [] => []
  | item :: items => item.describe :: describeItems items

def describeEntries : List (String × Data) → List String
  | [] => []
  | (name, item) :: entries =>
    (Text.quoted name ++ ": " ++ item.describe) :: describeEntries entries

end

end Data

end Mustache
