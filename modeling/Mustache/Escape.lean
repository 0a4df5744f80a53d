import Mustache.Bytes

namespace Mustache

def entity? (b : UInt8) : Option Bytes :=
  if b = 0x26 then some [0x26, 0x61, 0x6d, 0x70, 0x3b]        -- & is &amp;
  else if b = 0x3c then some [0x26, 0x6c, 0x74, 0x3b]         -- < is &lt;
  else if b = 0x3e then some [0x26, 0x67, 0x74, 0x3b]         -- > is &gt;
  else if b = 0x22 then some [0x26, 0x23, 0x33, 0x34, 0x3b]   -- " is &#34;
  else if b = 0x27 then some [0x26, 0x23, 0x33, 0x39, 0x3b]   -- ' is &#39;
  else none

def isReserved (b : UInt8) : Bool := (entity? b).isSome

def escapeByte (b : UInt8) : Bytes := (entity? b).getD [b]

def escape (text : Bytes) : Bytes := text.flatMap escapeByte

def isPlain (text : Bytes) : Bool := !text.any isReserved

/-- The escaped text where it has to be made: bytes are copied or replaced from left to right, and
what no replacement follows is used as it is. There is none where the whole text can be used. -/
def escaped? : Bytes → Option Bytes
  | [] => none
  | b :: rest =>
    match entity? b with
    | some entity => some (entity ++ (escaped? rest).getD rest)
    | none => (escaped? rest).map (b :: ·)

def unescape : Bytes → Bytes
  | 0x26 :: 0x61 :: 0x6d :: 0x70 :: 0x3b :: rest => 0x26 :: unescape rest
  | 0x26 :: 0x6c :: 0x74 :: 0x3b :: rest => 0x3c :: unescape rest
  | 0x26 :: 0x67 :: 0x74 :: 0x3b :: rest => 0x3e :: unescape rest
  | 0x26 :: 0x23 :: 0x33 :: 0x34 :: 0x3b :: rest => 0x22 :: unescape rest
  | 0x26 :: 0x23 :: 0x33 :: 0x39 :: 0x3b :: rest => 0x27 :: unescape rest
  | b :: rest => b :: unescape rest
  | [] => []

theorem escape_nil : escape [] = [] := rfl

theorem escape_cons (b : UInt8) (text : Bytes) : escape (b :: text) = escapeByte b ++ escape text :=
  List.flatMap_cons

theorem escape_append (left right : Bytes) : escape (left ++ right) = escape left ++ escape right :=
  List.flatMap_append

theorem escapeByte_eq_self {b : UInt8} (plain : isReserved b = false) : escapeByte b = [b] := by
  simp only [isReserved, Option.isSome_eq_false_iff, Option.isNone_iff_eq_none] at plain
  simp [escapeByte, plain]

theorem escape_eq_self {text : Bytes} (plain : isPlain text = true) : escape text = text := by
  induction text with
  | nil => rfl
  | cons b rest ih =>
    simp only [isPlain, List.any_cons, Bool.not_or, Bool.and_eq_true, Bool.not_eq_true'] at plain
    rw [escape_cons, escapeByte_eq_self plain.1, ih (by simp [isPlain, plain.2])]
    rfl

theorem escaped?_getD (text : Bytes) : (escaped? text).getD text = escape text := by
  induction text with
  | nil => rfl
  | cons b rest ih =>
    rw [escape_cons, ← ih, escaped?]
    cases stands : entity? b with
    | some entity => simp [escapeByte, stands]
    | none => cases escaped? rest <;> simp [escapeByte, stands]

theorem isPlain_cons (b : UInt8) (text : Bytes) :
    isPlain (b :: text) = (!isReserved b && isPlain text) := by
  simp [isPlain]

theorem escaped?_eq_none_iff (text : Bytes) : escaped? text = none ↔ isPlain text = true := by
  induction text with
  | nil => simp [escaped?, isPlain]
  | cons b rest ih =>
    rw [isPlain_cons, escaped?]
    cases stands : entity? b with
    | some entity => simp [isReserved, stands]
    | none => simp [isReserved, stands, ih]

end Mustache
