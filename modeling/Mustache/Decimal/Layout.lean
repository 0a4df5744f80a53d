import Mustache.Decimal.Shortest

namespace Mustache.Decimal

structure Layout where
  wholeMark : String
  places : Option (Int × Int)

def Layout.rendered : Layout := ⟨"", none⟩

def Layout.diagnostic : Layout := ⟨".0", some (-3, 16)⟩

def Digits.positional (wholeMark : String) (d : Digits) : String :=
  let whole :=
    if d.point ≤ 0 then ['0']
    else d.digits.take d.point.toNat ++ List.replicate (d.point.toNat - d.digits.length) '0'
  let places :=
    if d.point ≤ 0 then List.replicate (-d.point).toNat '0' ++ d.digits
    else d.digits.drop d.point.toNat
  String.ofList whole ++ if places = [] then wholeMark else "." ++ String.ofList places

def Digits.scientific (d : Digits) : String :=
  let places := d.digits.drop 1
  String.ofList (d.digits.take 1) ++ (if places = [] then "" else "." ++ String.ofList places) ++
    "e" ++ toString (d.point - 1)

def Layout.digits (layout : Layout) (d : Digits) : String :=
  match layout.places with
  | none => d.positional layout.wholeMark
  | some (least, most) =>
    if least ≤ d.point ∧ d.point ≤ most then d.positional layout.wholeMark else d.scientific

def sign (negative : Bool) : String := if negative then "-" else ""

def Layout.text (layout : Layout) : Number → String
  | .nan => "NaN"
  | .infinite negative => sign negative ++ "inf"
  | .zero negative => sign negative ++ "0" ++ layout.wholeMark
  | .finite negative magnitude => sign negative ++ layout.digits magnitude.shortest

end Mustache.Decimal
