namespace Mustache

abbrev Bytes := List UInt8

namespace Bytes

def ofText (text : String) : Bytes := text.toList.flatMap String.utf8EncodeChar

def lastPart (n : Nat) (bytes : Bytes) : Bytes := bytes.drop (bytes.length - n)

end Bytes

-- Two braces open a tag and two end it. The mark behind the opening braces says what a tag is for:
-- a section, an inverted section, a partial, or the end of a block. A dot alone is the key of the
-- current subject.

def openBrace : UInt8 := 0x7b

def closeBrace : UInt8 := 0x7d

def hashMark : UInt8 := 0x23

def caretMark : UInt8 := 0x5e

def angleMark : UInt8 := 0x3e

def slashMark : UInt8 := 0x2f

def dotMark : UInt8 := 0x2e

def isBlank (b : UInt8) : Bool := b == 0x20 || b == 0x0a || b == 0x09

def isLetter (b : UInt8) : Bool := (0x41 ≤ b && b ≤ 0x5a) || (0x61 ≤ b && b ≤ 0x7a)

def isDigit (b : UInt8) : Bool := 0x30 ≤ b && b ≤ 0x39

def isKeyStart (b : UInt8) : Bool := isLetter b || b == 0x5f || b == dotMark

def isKeyByte (b : UInt8) : Bool :=
  isLetter b || isDigit b || b == 0x5f || b == 0x2d || b == dotMark

def isPathByte (b : UInt8) : Bool := isKeyByte b || b == slashMark

theorem isKeyByte_of_isKeyStart {b : UInt8} (start : isKeyStart b = true) : isKeyByte b = true := by
  simp only [isKeyStart, isKeyByte, Bool.or_eq_true] at start ⊢
  rcases start with (letter | underscore) | dot
  · exact .inl (.inl (.inl (.inl letter)))
  · exact .inl (.inl (.inr underscore))
  · exact .inr dot

theorem isPathByte_of_isKeyByte {b : UInt8} (key : isKeyByte b = true) : isPathByte b = true := by
  simp [isPathByte, key]

theorem isPathByte_of_isKeyStart {b : UInt8} (start : isKeyStart b = true) : isPathByte b = true :=
  isPathByte_of_isKeyByte (isKeyByte_of_isKeyStart start)

theorem isKeyByte_ascii {b : UInt8} (key : isKeyByte b = true) : b < 0x80 := by
  simp only [isKeyByte, isLetter, isDigit, Bool.or_eq_true, Bool.and_eq_true, decide_eq_true_eq,
    beq_iff_eq, dotMark] at key
  grind

theorem isPathByte_ascii {b : UInt8} (path : isPathByte b = true) : b < 0x80 := by
  rcases Bool.or_eq_true _ _ ▸ path with key | slash
  · exact isKeyByte_ascii key
  · rw [eq_of_beq slash]
    decide

def nameText (name : Bytes) : String := String.ofList (name.map Char.ofUInt8)

theorem val_ofUInt8 (b : UInt8) : (Char.ofUInt8 b).val = b.toUInt32 := rfl

theorem ofUInt8_injective {a b : UInt8} (same : Char.ofUInt8 a = Char.ofUInt8 b) : a = b := by
  have values : a.toUInt32.toNat = b.toUInt32.toNat := congrArg (fun c : Char => c.val.toNat) same
  simpa [UInt8.toNat_inj] using values

theorem nameText_injective {a b : Bytes} (same : nameText a = nameText b) : a = b := by
  have texts : a.map Char.ofUInt8 = b.map Char.ofUInt8 := by
    simpa [nameText] using congrArg String.toList same
  exact (List.map_inj_right fun _ _ => ofUInt8_injective).mp texts

theorem utf8EncodeChar_ofUInt8 {b : UInt8} (ascii : b < 0x80) :
    String.utf8EncodeChar (Char.ofUInt8 b) = [b] := by
  have bound : b.toNat ≤ 0x7f := Nat.le_of_lt_succ (UInt8.lt_iff_toNat_lt.mp ascii)
  simp [String.utf8EncodeChar, val_ofUInt8, bound]

theorem ofText_nameText {name : Bytes} (ascii : ∀ b ∈ name, b < 0x80) :
    Bytes.ofText (nameText name) = name := by
  induction name with
  | nil => rfl
  | cons b rest ih =>
    have others := ih fun c member => ascii c (by simp [member])
    simp only [Bytes.ofText, nameText, String.toList_ofList, List.map_cons, List.flatMap_cons]
      at others ⊢
    rw [utf8EncodeChar_ofUInt8 (ascii b (by simp)), others]
    rfl

end Mustache
