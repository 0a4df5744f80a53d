import Mustache.Value

namespace Mustache

inductive Json where
  | null
  | bool (b : Bool)
  | int (n : Int64)
  | uint (n : UInt64)
  | float (bits : UInt64)
  | text (content : String)
  | list (items : List Json)
  | map (entries : List (String × Json))
  deriving Inhabited

namespace Json

mutual

def toValue : Json → Value
  | .null => .null
  | .bool b => .bool b
  | .int n => .int n
  | .uint n => .uint n
  | .float bits => .float bits
  | .text content => .text content
  | .list items => .list (toValues items)
  | .map entries => .object (.fields entries.isEmpty (field entries))

def toValues : List Json → List Value
  | [] => []
  | item :: items => item.toValue :: toValues items

def field : List (String × Json) → String → Value
  | [], _ => .null
  | (name, item) :: entries, wanted => if name = wanted then item.toValue else field entries wanted

end

theorem toValues_eq_map (items : List Json) : toValues items = items.map toValue := by
  induction items <;> simp_all [toValues]

end Json

end Mustache
