import Mustache.Host.Data
import Mustache.Host.Json

namespace Mustache

inductive Host where
  | null
  | bool (b : Bool)
  | int (n : Int64)
  | uint (n : UInt64)
  | float (bits : UInt64)
  | float32 (bits : UInt32)
  | text (content : String)
  | bytes (content : Bytes)
  | list (items : List Host)
  | map (entries : List (String × Host))
  -- A value behind an indirection.
  | behind (inner : Host)
  -- A value that is to be the subject although it has no fields.
  | scalar (inner : Host)
  | json (content : Json)
  | data (content : Data)
  | adapter (own : Adapter)
  deriving Inhabited

namespace Host

mutual

def toValue : Host → Value
  | .null => .null
  | .bool b => .bool b
  | .int n => .int n
  | .uint n => .uint n
  | .float bits => .float bits
  | .float32 bits => .float32 bits
  | .text content => .text content
  | .bytes content => .bytes content
  | .list items => .list (toValues items)
  | .map entries => .object (.fields entries.isEmpty (field entries))
  | .behind inner => inner.toValue
  | .scalar inner => .object (.scalar inner.toValue)
  | .json content => content.toValue
  | .data content => content.toValue
  | .adapter own => .object own

def toValues : List Host → List Value
  | [] => []
  | item :: items => item.toValue :: toValues items

def field : List (String × Host) → String → Value
  | [], _ => .null
  | (name, item) :: entries, wanted => if name = wanted then item.toValue else field entries wanted

end

theorem toValues_eq_map (items : List Host) : toValues items = items.map toValue := by
  induction items <;> simp_all [toValues]

end Host

end Mustache
