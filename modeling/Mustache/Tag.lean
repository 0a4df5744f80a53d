import Mustache.Cursor

namespace Mustache

inductive Polarity where
  | positive
  | inverted
  deriving DecidableEq, Repr

inductive Tag where
  | value (key : String) (escaped : Bool)
  | opening (polarity : Polarity) (key : String)
  | inclusion (path : String)
  -- A closing tag, read up to its slash.
  | closing
  deriving DecidableEq, Repr

namespace Tag

def named (make : String → Tag) (first later : UInt8 → Bool) (braces : Nat) (c : Cursor) :
    Except Stop (Tag × Cursor) :=
  (c.named first later braces).map fun (name, after) => (make name, after)

def read (c : Cursor) : Except Stop (Tag × Cursor) :=
  match c.marker? with
  | none => .error .ended
  | some (b, behind) =>
    if b = openBrace then named (.value · false) isKeyStart isKeyByte 3 behind
    else if b = hashMark then named (.opening .positive) isKeyStart isKeyByte 2 behind
    else if b = caretMark then named (.opening .inverted) isKeyStart isKeyByte 2 behind
    else if b = angleMark then named .inclusion isPathByte isPathByte 2 behind
    else if b = slashMark then .ok (.closing, behind)
    else named (.value · true) isKeyStart isKeyByte 2 c

theorem named_shorter {make : String → Tag} {first later : UInt8 → Bool} {braces : Nat}
    {c after : Cursor} {tag : Tag} (read : named make first later braces c = .ok (tag, after)) :
    after.rest.length < c.rest.length := by
  unfold named at read
  cases name : c.named first later braces with
  | error stop => simp [name, Except.map] at read
  | ok result =>
    obtain ⟨text, behind⟩ := result
    simp only [name, Except.map, Except.ok.injEq, Prod.mk.injEq] at read
    exact read.2 ▸ Cursor.named_shorter name

theorem read_shorter {c after : Cursor} {tag : Tag} (read : Tag.read c = .ok (tag, after)) :
    after.rest.length < c.rest.length := by
  unfold Tag.read at read
  split at read
  · cases read
  · next b behind found =>
    have marked := Cursor.marker_shorter found
    repeat' split at read
    all_goals first
      | exact Nat.lt_trans (named_shorter read) marked
      | exact named_shorter read
      | (cases read; exact marked)

end Tag

end Mustache
