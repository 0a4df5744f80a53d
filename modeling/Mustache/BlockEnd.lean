import Mustache.Cursor
import Mustache.Error

namespace Mustache

structure BlockEnd where
  body : Nat
  after : Cursor
  deriving DecidableEq, Repr

namespace BlockEnd

def closingKey (c : Cursor) : Except Stop (String × Cursor) := c.named isKeyByte isKeyByte 2

set_option linter.unusedVariables false in
/-- The end of the block that `key` opened, with `inner` blocks open inside it. -/
def find (key : String) (inner : Nat) (c : Cursor) : Except SyntaxError BlockEnd :=
  match tag : c.nextTag? with
  | none => .error (.unterminatedBlock key)
  | some (body, behind) =>
    match marker : behind.marker? with
    | none => .error (.unterminatedBlock key)
    | some (b, next) =>
      if b = hashMark ∨ b = caretMark then find key (inner + 1) next
      else if b = slashMark then
        match closing : closingKey next with
        | .error .ended => .error (.unterminatedBlock key)
        -- A closing tag that goes wrong does not count.
        | .error (.stray after) => find key inner after
        | .ok (closed, after) =>
          match inner with
          | 0 => if closed = key then .ok ⟨body, after⟩ else .error (.mismatchedClose key closed)
          | inner + 1 => find key inner after
      else find key inner next
termination_by c.rest.length
decreasing_by
  all_goals
    have := Cursor.nextTag_shorter tag
    have := Cursor.marker_shorter marker
  · omega
  · have := Cursor.stray_shorter closing
    omega
  · have := Cursor.named_shorter closing
    omega
  · omega

theorem find_shorter {key : String} {inner : Nat} {c : Cursor} {found : BlockEnd}
    (ended : find key inner c = .ok found) : found.after.rest.length < c.rest.length := by
  fun_induction find key inner c with
  | case1 | case2 | case4 | case7 => cases ended
  | case6 c body behind tag next after marker plain closing =>
    cases ended
    have := Cursor.nextTag_shorter tag
    have := Cursor.marker_shorter marker
    have := Cursor.named_shorter closing
    simp only
    omega
  | case3 inner c body behind tag b next marker opens ih =>
    have := Cursor.nextTag_shorter tag
    have := Cursor.marker_shorter marker
    have := ih ended
    omega
  | case5 inner c body behind tag next after closing marker plain ih =>
    have := Cursor.nextTag_shorter tag
    have := Cursor.marker_shorter marker
    have := Cursor.stray_shorter closing
    have := ih ended
    omega
  | case8 c body behind tag next closed after closing inner marker plain ih =>
    have := Cursor.nextTag_shorter tag
    have := Cursor.marker_shorter marker
    have := Cursor.named_shorter closing
    have := ih ended
    omega
  | case9 inner c body behind tag b next marker plain other ih =>
    have := Cursor.nextTag_shorter tag
    have := Cursor.marker_shorter marker
    have := ih ended
    omega

end BlockEnd

end Mustache
