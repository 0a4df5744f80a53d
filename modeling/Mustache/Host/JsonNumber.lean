import Mustache.Host.Json

/-!
# Numbers of JSON texts

A number without a fraction and an exponent is a signed integer if it fits in 64 bits, else an
unsigned one if it fits, else a floating point number; all others are floating point numbers, and so
is a negative zero. The digits are gathered in a machine word as long as they fit, the rest only
count as places, and one multiplication or division by a power of ten does the scaling.

Main statements: a whole number keeps its value exactly if some machine word holds it
(`integer?_ofWhole`), and then it is rendered as it was written (`text?_ofNumber`).
-/

namespace Mustache.Json

def maxWord : Nat := 0xffffffffffffffff

def signedBound : Int := 0x8000000000000000

structure Significand where
  digits : Nat
  exponent : Int
  -- Whether a digit has been dropped, after which none is kept.
  full : Bool
  deriving DecidableEq, Repr

namespace Significand

def addWhole : Significand → List Nat → Significand
  | s, [] => s
  | s, digit :: rest =>
    if !s.full && s.digits * 10 + digit ≤ maxWord then
      addWhole { s with digits := s.digits * 10 + digit } rest
    else addWhole { s with exponent := s.exponent + 1, full := true } rest

def addPlaces : Significand → List Nat → Significand
  | s, [] => s
  | s, digit :: rest =>
    if s.digits * 10 + digit ≤ maxWord then
      addPlaces { s with digits := s.digits * 10 + digit, exponent := s.exponent - 1 } rest
    else s

def scale (steps : Nat) (x : Float) (exponent : Int) : Float :=
  if 0 ≤ exponent then x * Float.ofScientific 1 false (min exponent.toNat 309)
  else if exponent < -308 then
    match steps with
    | 0 => 0
    | steps + 1 => scale steps (x / Float.ofScientific 1 false 308) (exponent + 308)
  else x / Float.ofScientific 1 false (-exponent).toNat

def toFloat (s : Significand) : Float :=
  if s.digits = 0 then 0 else scale 3 (UInt64.ofNat s.digits).toFloat s.exponent

end Significand

def ofWhole (negative : Bool) (digits : List Nat) : Json :=
  let s := Significand.addWhole ⟨0, 0, false⟩ digits
  let value : Int := if negative then -s.digits else s.digits
  if s.full || negative && (s.digits = 0 || value < -signedBound) then
    .float (if negative then -s.toFloat else s.toFloat).toBits
  else if value < signedBound then .int (.ofInt value)
  else .uint (.ofNat s.digits)

def ofNumber (negative : Bool) (whole : List Nat) (places : Option (List Nat))
    (exponent : Option Int) : Json :=
  if places.isNone && exponent.isNone then ofWhole negative whole
  else
    let s := (Significand.addWhole ⟨0, 0, false⟩ whole).addPlaces (places.getD [])
    let x := Significand.toFloat { s with exponent := s.exponent + exponent.getD 0 }
    .float (if negative then -x else x).toBits

def wholeFrom (n : Nat) (digits : List Nat) : Nat := digits.foldl (fun n digit => n * 10 + digit) n

theorem le_wholeFrom (n : Nat) (digits : List Nat) : n ≤ wholeFrom n digits := by
  induction digits generalizing n with
  | nil => exact Nat.le_refl n
  | cons digit rest ih => exact Nat.le_trans (by omega) (ih (n * 10 + digit))

theorem Significand.full_addWhole {s : Significand} (digits : List Nat) (full : s.full = true) :
    (s.addWhole digits).full = true := by
  fun_induction Significand.addWhole s digits with
  | case1 s => exact full
  | case2 s digit rest fits ih => simp [full] at fits
  | case3 s digit rest _ ih => exact ih rfl

theorem Significand.addWhole_of_fits {n : Nat} (exponent : Int) {digits : List Nat}
    (fits : wholeFrom n digits ≤ maxWord) :
    Significand.addWhole ⟨n, exponent, false⟩ digits = ⟨wholeFrom n digits, exponent, false⟩ := by
  induction digits generalizing n with
  | nil => rfl
  | cons digit rest ih =>
    -- The numbers of the digits so far only grow, so none of them is too large either.
    have next : n * 10 + digit ≤ maxWord := Nat.le_trans (le_wholeFrom _ rest) fits
    rw [Significand.addWhole, if_pos (by simpa using next)]
    exact ih fits

theorem Significand.full_addWhole_of_large {n : Nat} (exponent : Int) {digits : List Nat}
    (fits : n ≤ maxWord) (large : maxWord < wholeFrom n digits) :
    (Significand.addWhole ⟨n, exponent, false⟩ digits).full = true := by
  induction digits generalizing n with
  | nil => exact absurd fits (Nat.not_le_of_lt large)
  | cons digit rest ih =>
    rw [Significand.addWhole]
    split
    · next more => exact ih (by simpa using more) large
    · exact Significand.full_addWhole rest rfl

def integer? : Json → Option Int
  | .int n => some n.toInt
  | .uint n => some n.toNat
  | _ => none

theorem integer?_signed {value : Int} (low : -signedBound ≤ value) (high : value < signedBound) :
    (Json.int (.ofInt value)).integer? = some value := by
  simp only [signedBound] at low high
  rw [integer?, Int64.toInt_ofInt_of_le (by omega) (by omega)]

theorem integer?_unsigned {n : Nat} (fits : n ≤ maxWord) :
    (Json.uint (.ofNat n)).integer? = some (n : Int) := by
  simp only [maxWord] at fits
  rw [integer?, UInt64.toNat_ofNat_of_lt' (by simp only [UInt64.size]; omega)]

/-- Whether some machine word holds the number with this sign. There is no zero with one. -/
def IsHeld (negative : Bool) (n : Nat) : Prop :=
  if negative then 0 < n ∧ n ≤ signedBound else n ≤ maxWord

instance (negative : Bool) (n : Nat) : Decidable (IsHeld negative n) :=
  inferInstanceAs (Decidable (if negative then _ ∧ _ else _ ≤ _))

def withSign (negative : Bool) (n : Nat) : Int := if negative then -n else n

theorem integer?_ofWhole (negative : Bool) (digits : List Nat) :
    (ofWhole negative digits).integer? =
      if IsHeld negative (wholeFrom 0 digits) then some (withSign negative (wholeFrom 0 digits))
      else none := by
  generalize number : wholeFrom 0 digits = n
  by_cases fits : n ≤ maxWord
  · rw [ofWhole, Significand.addWhole_of_fits 0 (number ▸ fits), number]
    cases negative with
    | false =>
      by_cases small : (n : Int) < signedBound
      · have low : -signedBound ≤ (n : Int) := by simp only [signedBound]; omega
        simp [IsHeld, withSign, fits, small, integer?_signed low small]
      · simp [IsHeld, withSign, fits, small, integer?_unsigned fits]
    | true =>
      by_cases held : 0 < n ∧ (n : Int) ≤ signedBound
      · have high : -(n : Int) < signedBound := by simp only [signedBound]; omega
        have low : -signedBound ≤ -(n : Int) := by omega
        have kept : ¬(n = 0 ∨ signedBound < n) := by omega
        simp [IsHeld, withSign, held, kept, high, integer?_signed low high, -Int64.ofInt_neg]
      · have lost : n = 0 ∨ signedBound < n := by omega
        simp [IsHeld, held, lost, integer?]
  · have full := Significand.full_addWhole_of_large 0 (Nat.zero_le _)
      (Nat.lt_of_not_le (number ▸ fits))
    have beyond : ¬(n : Int) ≤ signedBound := by
      simp only [maxWord] at fits
      simp only [signedBound]
      omega
    simp [IsHeld, ofWhole, full, fits, beyond, integer?]

/-! ## Whole numbers are rendered as they were written -/

inductive Numeral : List Nat → Prop
  | zero : Numeral [0]
  | led {digit : Nat} {rest : List Nat} :
      0 < digit → (∀ d ∈ digit :: rest, d < 10) → Numeral (digit :: rest)

theorem toDigits_wholeFrom {n : Nat} (positive : 0 < n) {digits : List Nat}
    (small : ∀ d ∈ digits, d < 10) :
    Nat.toDigits 10 (wholeFrom n digits) = Nat.toDigits 10 n ++ digits.map Nat.digitChar := by
  induction digits generalizing n with
  | nil => exact (List.append_nil _).symm
  | cons digit rest ih =>
    obtain ⟨first, others⟩ := List.forall_mem_cons.mp small
    have next : Nat.toDigits 10 (n * 10 + digit) = Nat.toDigits 10 n ++ [digit.digitChar] := by
      rw [Nat.mul_comm, ← Nat.toDigits_append_toDigits (by decide) positive first,
        Nat.toDigits_of_lt_base first]
    have later := ih (n := n * 10 + digit) (by omega) others
    rw [next, List.append_assoc] at later
    exact later

theorem Numeral.toDigits {digits : List Nat} (numeral : Numeral digits) :
    Nat.toDigits 10 (wholeFrom 0 digits) = digits.map Nat.digitChar := by
  cases numeral with
  | zero => rfl
  | @led digit rest positive small =>
    obtain ⟨first, others⟩ := List.forall_mem_cons.mp small
    have later := toDigits_wholeFrom positive others
    rw [Nat.toDigits_of_lt_base first] at later
    rw [wholeFrom, List.foldl_cons, Nat.zero_mul, Nat.zero_add]
    exact later

theorem text?_of_integer? {json : Json} {value : Int} (known : json.integer? = some value) :
    json.toValue.text? = some (Bytes.ofText (toString value)) := by
  cases json with
  | int n | uint n =>
    cases known
    rfl
  | _ => cases known

theorem toString_withSign {negative : Bool} {n : Nat} (held : IsHeld negative n) :
    toString (withSign negative n) = (if negative then "-" else "") ++ toString n := by
  cases negative with
  | false => simp [withSign]; rfl
  | true =>
    obtain ⟨m, rfl⟩ := Nat.exists_eq_add_one_of_ne_zero (Nat.ne_of_gt held.1)
    rfl

/-- A whole number that some machine word holds is rendered with the digits that it was read
from. -/
theorem text?_ofNumber {negative : Bool} {digits : List Nat} (numeral : Numeral digits)
    (held : IsHeld negative (wholeFrom 0 digits)) :
    (ofNumber negative digits none none).toValue.text? =
      some (Bytes.ofText ((if negative then "-" else "") ++
        String.ofList (digits.map Nat.digitChar))) := by
  have known : (ofNumber negative digits none none).integer? = _ := integer?_ofWhole negative digits
  rw [if_pos held] at known
  rw [text?_of_integer? known, toString_withSign held, ← numeral.toDigits]
  rfl

end Mustache.Json
