import Mustache.Bytes
import Mustache.Decimal.Layout
import Mustache.Error
import Mustache.Text.Quoted

/-!
# Values

A value is what a template sees of its data. Objects are seen through an adapter, which usually
answers the names of fields; what it does not know is null. Floating point numbers are kept as their
bits, so that equal values are equal as data.

Main statements: every value with no text is a list or an object (`text?_eq_none_iff`), and numbers
are always truthy (`isTruthy_number`).
-/

namespace Mustache

mutual

inductive Value where
  | null
  | bool (b : Bool)
  | int (n : Int64)
  | uint (n : UInt64)
  | float (bits : UInt64)
  | float32 (bits : UInt32)
  | text (content : String)
  | bytes (content : Bytes)
  | list (items : List Value)
  | object (adapter : Adapter)

inductive Adapter where
  | fields (empty : Bool) (lookup : String → Value)
  | scalar (value : Value)
  | mute (empty : Bool) (outcome : Except RenderError Unit)
  /-- Has another adapter take part in its place, and turns the outcome of that into its own. -/
  | delegate (empty : Bool) (inner : Adapter)
      (settle : Except RenderError Unit → Except RenderError Unit)

end

instance : Inhabited Value := ⟨.null⟩

instance : Inhabited Adapter := ⟨.fields true fun _ => .null⟩

def Adapter.isEmpty : Adapter → Bool
  | .fields empty _ | .mute empty _ | .delegate empty _ _ => empty
  | .scalar _ => false

namespace Value

def isTruthy : Value → Bool
  | .null => false
  | .bool b => b
  | .int _ | .uint _ | .float _ | .float32 _ => true
  | .text content => content ≠ ""
  | .bytes content => !content.isEmpty
  | .list items => !items.isEmpty
  | .object adapter => !adapter.isEmpty

def typeName : Value → String
  | .null => "null"
  | .bool _ => "bool"
  | .int _ => "int"
  | .uint _ => "uint"
  | .float _ | .float32 _ => "float"
  | .text _ => "string"
  | .bytes _ => "bytes"
  | .list _ => "list"
  | .object _ => "object"

def isObject : Value → Bool
  | .object _ => true
  | _ => false

def doubleText (layout : Decimal.Layout) (bits : UInt64) : String :=
  layout.text (Decimal.Format.double.decode bits.toNat)

def singleText (layout : Decimal.Layout) (bits : UInt32) : String :=
  layout.text (Decimal.Format.single.decode bits.toNat)

def text? : Value → Option Bytes
  | .null => some []
  | .bool b => some (.ofText (if b then "true" else "false"))
  | .int n => some (.ofText (toString n.toInt))
  | .uint n => some (.ofText (toString n.toNat))
  | .float bits => some (.ofText (doubleText .rendered bits))
  | .float32 bits => some (.ofText (singleText .rendered bits))
  | .text content => some (.ofText content)
  | .bytes content => some content
  | .list _ | .object _ => none

def describe : Value → String
  | .null => "Null"
  | .bool b => "Bool(" ++ toString b ++ ")"
  | .int n => "Int(" ++ toString n.toInt ++ ")"
  | .uint n => "UInt(" ++ toString n.toNat ++ ")"
  | .float bits => "Float(" ++ doubleText .diagnostic bits ++ ")"
  | .float32 bits => "Float32(" ++ singleText .diagnostic bits ++ ")"
  | .text content => "Str(" ++ Text.quoted content ++ ")"
  | .bytes content => "Bytes([" ++ ", ".intercalate (content.map fun b => toString b.toNat) ++ "])"
  | .list items => "List(len=" ++ toString items.length ++ ")"
  | .object _ => "Object"

theorem text?_eq_none_iff (value : Value) :
    value.text? = none ↔ value.typeName = "list" ∨ value.typeName = "object" := by
  cases value <;> simp [text?, typeName]

theorem isTruthy_number (value : Value)
    (number : value.typeName ∈ ["int", "uint", "float"]) : value.isTruthy = true := by
  cases value <;> simp_all [typeName, isTruthy]

end Value

end Mustache
