import Mustache.Bytes

namespace Mustache.Utf8

def replacement : Char := '\ufffd'

inductive State where
  | between
  | inside (bits : Nat) (due : Nat) (low high : UInt8)

/-- The state after the first byte of a character, or none where no character starts so. The bounds
on the second byte shut out overlong forms, surrogates and code points beyond the last one. -/
def lead? (b : UInt8) : Option State :=
  let n := b.toNat
  if b < 0xc2 then none
  else if b < 0xe0 then some (.inside (n - 0xc0) 1 0x80 0xbf)
  else if b < 0xf0 then
    some (.inside (n - 0xe0) 2 (if b = 0xe0 then 0xa0 else 0x80) (if b = 0xed then 0x9f else 0xbf))
  else if b < 0xf5 then
    some (.inside (n - 0xf0) 3 (if b = 0xf0 then 0x90 else 0x80) (if b = 0xf4 then 0x8f else 0xbf))
  else none

def begin (text : String) (b : UInt8) : String × State :=
  if b < 0x80 then (text.push (Char.ofUInt8 b), .between)
  else match lead? b with
    | some state => (text, state)
    | none => (text.push replacement, .between)

def step : String × State → UInt8 → String × State
  | (text, .between), b => begin text b
  | (text, .inside bits due low high), b =>
    if low ≤ b ∧ b ≤ high then
      let bits := bits * 64 + (b.toNat - 0x80)
      if due ≤ 1 then (text.push (Char.ofNat bits), .between)
      else (text, .inside bits (due - 1) 0x80 0xbf)
    else begin (text.push replacement) b

def finish : String × State → String
  | (text, .between) => text
  | (text, .inside _ _ _ _) => text.push replacement

def decodeLossy (bytes : Bytes) : String := finish (bytes.foldl step ("", .between))

theorem step_ascii {b : UInt8} (ascii : b < 0x80) (text : String) :
    step (text, .between) b = (text.push (Char.ofUInt8 b), .between) := by
  simp [step, begin, ascii]

theorem foldl_step_ascii (bytes : Bytes) (ascii : ∀ b ∈ bytes, b < 0x80) (text : String) :
    bytes.foldl step (text, .between) =
      (bytes.foldl (fun text b => text.push (Char.ofUInt8 b)) text, .between) := by
  induction bytes generalizing text with
  | nil => rfl
  | cons b rest ih =>
    have later := ih fun c member => ascii c (by simp [member])
    rw [List.foldl_cons, step_ascii (ascii b (by simp)), later]
    rfl

theorem foldl_push (bytes : Bytes) (text : String) :
    bytes.foldl (fun text b => text.push (Char.ofUInt8 b)) text =
      text ++ String.ofList (bytes.map Char.ofUInt8) := by
  induction bytes generalizing text with
  | nil => simp
  | cons b rest ih =>
    rw [List.foldl_cons, ih]
    apply String.toList_inj.mp
    simp

theorem decodeLossy_ascii (bytes : Bytes) (ascii : ∀ b ∈ bytes, b < 0x80) :
    decodeLossy bytes = nameText bytes := by
  simp [decodeLossy, foldl_step_ascii bytes ascii, foldl_push, finish, nameText]

end Mustache.Utf8
