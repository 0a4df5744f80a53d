import Mustache.BlockEnd
import Mustache.Tag
import Mustache.Text.Blank

/-!
# The outline of a source

An outline is what a source says on its own, before any block body is looked into and any partial
is loaded: its text, its tags, and its blocks with their bodies as bytes. Where the source stops
making sense the outline ends with the fault; the items before it still count, because an error
inside one of them comes first.
-/

namespace Mustache

inductive Item where
  | literal (start : Nat) (text : Bytes)
  | value (key : String) (escaped : Bool)
  | block (polarity : Polarity) (key : String) (body : Bytes)
  | inclusion (path : String)
  deriving DecidableEq, Repr

structure Outline where
  items : List Item
  fault : Option SyntaxError
  deriving DecidableEq, Repr

namespace Outline

def text (start : Nat) : Bytes → List Item
  | [] => []
  | bytes => [.literal start bytes]

def prepend (items : List Item) (outline : Outline) : Outline :=
  ⟨items ++ outline.items, outline.fault⟩

def closingKey (c : Cursor) : String :=
  Text.trim (Utf8.decodeLossy (c.rest.takeWhile (· != closeBrace)))

set_option linter.unusedVariables false in
def scan (source : Bytes) (c : Cursor) : Outline :=
  match tag : c.nextTag? with
  | none => ⟨text c.offset c.rest, none⟩
  | some (stop, behind) =>
    let before := text c.offset (c.upTo stop)
    match read : Tag.read behind with
    | .error .ended => ⟨before, some (.unterminatedTag (SyntaxError.snippet source))⟩
    | .error (.stray after) =>
      ⟨before, some (.malformedTag (SyntaxError.snippet (source.take after.offset)))⟩
    | .ok (.closing, after) => ⟨before, some (.unexpectedClose (closingKey after))⟩
    | .ok (.value key escaped, after) =>
      (scan source after).prepend (before ++ [.value key escaped])
    | .ok (.inclusion path, after) => (scan source after).prepend (before ++ [.inclusion path])
    | .ok (.opening polarity key, body) =>
      match ended : BlockEnd.find key 0 body with
      | .error fault => ⟨before, some fault⟩
      | .ok ⟨stop, after⟩ =>
        (scan source after).prepend (before ++ [.block polarity key (body.upTo stop)])
termination_by c.rest.length
decreasing_by
  all_goals
    have := Cursor.nextTag_shorter tag
    have := Tag.read_shorter read
  · omega
  · omega
  · have := BlockEnd.find_shorter ended
    simp only at this
    omega

def ofSource (source : Bytes) : Outline := scan source (.start source)

end Outline

end Mustache
