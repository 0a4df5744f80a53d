import Mathlib.Data.List.Forall2
import Mustache.Proofs.Grammar.BlockEnds

namespace Mustache.Proofs.Grammar
open Cursor

def scanTag (source : Bytes) (behind : Cursor) : Outline :=
  match Tag.read behind with
  | .error .ended => ⟨[], some (.unterminatedTag (SyntaxError.snippet source))⟩
  | .error (.stray after) =>
    ⟨[], some (.malformedTag (SyntaxError.snippet (source.take after.offset)))⟩
  | .ok (.closing, after) => ⟨[], some (.unexpectedClose (Outline.closingKey after))⟩
  | .ok (.value key escaped, after) => (Outline.scan source after).prepend [.value key escaped]
  | .ok (.inclusion path, after) => (Outline.scan source after).prepend [.inclusion path]
  | .ok (.opening polarity key, body) =>
    match BlockEnd.find key 0 body with
    | .error fault => ⟨[], some fault⟩
    | .ok ⟨stop, after⟩ =>
      (Outline.scan source after).prepend [.block polarity key (body.upTo stop)]

def itemAt (source : Bytes) (behind : Cursor) : Except SyntaxError (Item × Cursor) :=
  match Tag.read behind with
  | .error .ended => .error (.unterminatedTag (SyntaxError.snippet source))
  | .error (.stray after) =>
    .error (.malformedTag (SyntaxError.snippet (source.take after.offset)))
  | .ok (.closing, after) => .error (.unexpectedClose (Outline.closingKey after))
  | .ok (.value key escaped, after) => .ok (.value key escaped, after)
  | .ok (.inclusion path, after) => .ok (.inclusion path, after)
  | .ok (.opening polarity key, body) => (BlockEnd.find key 0 body).map fun ended =>
      (.block polarity key (body.upTo ended.body), ended.after)

theorem itemAt_shorter {behind after : Cursor} {item : Item}
    (here : itemAt source behind = .ok (item, after)) : after.rest.length < behind.rest.length := by
  unfold itemAt at here
  split at here
  · cases here
  · cases here
  · cases here
  · next read =>
    cases here
    exact Tag.read_shorter read
  · next read =>
    cases here
    exact Tag.read_shorter read
  · next polarity key body read =>
    cases ended : BlockEnd.find key 0 body with
    | error fault =>
      rw [ended] at here
      cases here
    | ok found =>
      rw [ended] at here
      cases here
      exact Nat.lt_trans (BlockEnd.find_shorter ended) (Tag.read_shorter read)

theorem scanTag_eq (source : Bytes) (behind : Cursor) :
    scanTag source behind =
      match itemAt source behind with
      | .error fault => ⟨[], some fault⟩
      | .ok (item, after) => (Outline.scan source after).prepend [item] := by
  unfold scanTag itemAt
  split <;> try rfl
  next polarity key body read => cases BlockEnd.find key 0 body <;> rfl

theorem prepend_prepend (left right : List Item) (outline : Outline) :
    (outline.prepend right).prepend left = outline.prepend (left ++ right) := by
  rw [Outline.prepend, Outline.prepend, Outline.prepend, List.append_assoc]

theorem prepend_fault (items : List Item) (fault : Option SyntaxError) :
    Outline.prepend items ⟨[], fault⟩ = ⟨items, fault⟩ := by
  rw [Outline.prepend, List.append_nil]

theorem scan_eq (source : Bytes) (c : Cursor) :
    Outline.scan source c =
      match c.nextTag? with
      | none => ⟨Outline.text c.offset c.rest, none⟩
      | some (stop, behind) =>
        (scanTag source behind).prepend (Outline.text c.offset (c.upTo stop)) := by
  rw [Outline.scan]
  split
  · next found => rw [found]
  next stop behind found =>
  rw [found]
  simp only [scanTag]
  split
  · next read => simp only [read, prepend_fault]
  · next after read => simp only [read, prepend_fault]
  · next after read => simp only [read, prepend_fault]
  · next key escaped after read => simp only [read, prepend_prepend]
  · next path after read => simp only [read, prepend_prepend]
  · next polarity key body read =>
    simp only [read]
    split
    · next fault ended => simp only [ended, prepend_fault]
    · next stop after ended => simp only [ended, prepend_prepend]

theorem scan_plain {source : Bytes} {c : Cursor} (plain : Plain c.rest) :
    Outline.scan source c = ⟨Outline.text c.offset c.rest, none⟩ := by
  rw [scan_eq, nextTag_eq_none_iff.mpr plain]

theorem scan_openTag (source : Bytes) {c behind : Cursor} (opens : Consumes c openTag behind) :
    Outline.scan source c = scanTag source behind := by
  have found : c.nextTag? = some (c.offset, behind) :=
    nextTag_eq_some_iff.mpr ⟨[], plain_nil, endsApart_nil, rfl, opens⟩
  rw [scan_eq, found]
  simp only [Cursor.upTo, Nat.sub_self, List.take_zero]
  rfl

theorem scan_text (source : Bytes) {text : Bytes} (plain : Plain text) (apart : EndsApart text)
    {c d behind : Cursor} (read : Consumes c text d) (opens : Consumes d openTag behind) :
    Outline.scan source c = (Outline.scan source d).prepend (Outline.text c.offset text) := by
  have found : c.nextTag? = some (d.offset, behind) :=
    nextTag_eq_some_iff.mpr ⟨text, plain, apart, read.offset, read.append opens⟩
  rw [scan_openTag source opens, scan_eq, found]
  simp only [read.upTo]

theorem scanTag_value (source : Bytes) {key : String} {escaped : Bool} {form : Bytes}
    (spelled : TagForm (.value key escaped) form) {behind after : Cursor}
    (read : Consumes behind form after) :
    scanTag source behind = (Outline.scan source after).prepend [.value key escaped] := by
  rw [scanTag, read_of_form spelled read]

theorem scanTag_inclusion (source : Bytes) {path : String} {form : Bytes}
    (spelled : TagForm (.inclusion path) form) {behind after : Cursor}
    (read : Consumes behind form after) :
    scanTag source behind = (Outline.scan source after).prepend [.inclusion path] := by
  rw [scanTag, read_of_form spelled read]

theorem scanTag_block (source : Bytes) {polarity : Polarity} {key : String} {form body : Bytes}
    (spelled : TagForm (.opening polarity key) form) {behind c after : Cursor}
    (read : Consumes behind form c)
    (ended : BlockEnd.find key 0 c = .ok ⟨c.offset + body.length, after⟩)
    (stands : body <+: c.rest) :
    scanTag source behind = (Outline.scan source after).prepend [.block polarity key body] := by
  obtain ⟨rest, split⟩ := stands
  have content : c.upTo (c.offset + body.length) = body := by
    rw [Cursor.upTo, Nat.add_sub_cancel_left, ← split, List.take_left]
  rw [scanTag, read_of_form spelled read]
  simp only [ended, content]

end Mustache.Proofs.Grammar
