import Mustache.Proofs.Grammar.Outlines

namespace Mustache

def Cursor.extend (more : Bytes) (c : Cursor) : Cursor := ⟨c.offset, c.rest ++ more⟩

def Stop.extend (more : Bytes) : Stop → Stop
  | .ended => .ended
  | .stray after => .stray (after.extend more)

def BlockEnd.extend (more : Bytes) (found : BlockEnd) : BlockEnd :=
  ⟨found.body, found.after.extend more⟩

def SyntaxError.wantsMore : SyntaxError → Bool
  | .unterminatedTag _ | .unterminatedBlock _ => true
  | _ => false

end Mustache

namespace Mustache.Proofs.Stability
open Cursor Grammar

variable {more : Bytes}

theorem consumes_extend {c after : Cursor} {bytes : Bytes} (read : Consumes c bytes after) :
    Consumes (c.extend more) bytes (after.extend more) := by
  refine ⟨?_, read.offset⟩
  simp [Cursor.extend, read.rest]

theorem consumes_place {c after : Cursor} {bytes : Bytes} (read : Consumes c bytes after) :
    after.offset + after.rest.length = c.offset + c.rest.length := by
  rw [read.offset, read.rest, List.length_append, Nat.add_assoc]

theorem upTo_extend {c after : Cursor} {bytes : Bytes} (read : Consumes c bytes after) :
    (c.extend more).upTo (after.extend more).offset = c.upTo after.offset :=
  (consumes_extend read).upTo.trans read.upTo.symm

theorem nextTag_extend {c behind : Cursor} {stop : Nat} (found : c.nextTag? = some (stop, behind)) :
    (c.extend more).nextTag? = some (stop, behind.extend more) := by
  obtain ⟨text, plain, apart, place, read⟩ := nextTag_eq_some_iff.mp found
  exact nextTag_eq_some_iff.mpr ⟨text, plain, apart, place, consumes_extend read⟩

theorem marker_extend {c behind : Cursor} {b : UInt8} (found : c.marker? = some (b, behind)) :
    (c.extend more).marker? = some (b, behind.extend more) := by
  obtain ⟨before, blanks, visible, read⟩ := marker_eq_some_iff.mp found
  exact marker_eq_some_iff.mpr ⟨before, blanks, visible, consumes_extend read⟩

theorem skipWhile_extend {p : UInt8 → Bool} {c : Cursor} (goesOn : (c.skipWhile p).rest ≠ []) :
    (c.extend more).skipWhile p = (c.skipWhile p).extend more := by
  obtain ⟨bytes, all, read, stops⟩ := skipWhile_eq_iff.mp (rfl : c.skipWhile p = _)
  apply skipWhile_eq_iff.mpr
  refine ⟨bytes, all, consumes_extend read, ?_⟩
  cases rest : (c.skipWhile p).rest with
  | nil => exact absurd rest goesOn
  | cons b later =>
    rw [rest] at stops
    simpa [Cursor.extend, rest, StopsAt] using stops

/-! ## Steps -/

section

variable {α β : Type}

/-- A step met the end of its source, or it ends in the same way where more bytes follow. -/
def Unaffected (more : Bytes) (extend : α → α) (short long : Except Stop α) : Prop :=
  short = .error .ended ∨ long = (short.map extend).mapError (Stop.extend more)

theorem Unaffected.bind {extend : α → α} {extend' : β → β} {short long : Except Stop α}
    {next next' : α → Except Stop β} (here : Unaffected more extend short long)
    (there : ∀ a, short = .ok a → Unaffected more extend' (next a) (next' (extend a))) :
    Unaffected more extend' (short >>= next) (long >>= next') := by
  rcases here with rfl | rfl
  · exact .inl rfl
  · cases short with
    | error stop => exact .inr rfl
    | ok a => exact there a rfl

theorem Unaffected.ok {extend : α → α} {short long : Except Stop α} {a : α}
    (here : Unaffected more extend short long) (read : short = .ok a) : long = .ok (extend a) := by
  rcases here with ended | same
  · rw [read] at ended
    cases ended
  · rw [same, read]
    rfl

theorem Unaffected.stray {extend : α → α} {short long : Except Stop α} {after : Cursor}
    (here : Unaffected more extend short long) (stopped : short = .error (.stray after)) :
    long = .error (.stray (after.extend more)) := by
  rcases here with ended | same
  · rw [stopped] at ended
    cases ended
  · rw [same, stopped]
    rfl

end

theorem take_extend (p : UInt8 → Bool) (c : Cursor) :
    Unaffected more (Cursor.extend more) (c.take p) ((c.extend more).take p) := by
  obtain ⟨offset, rest⟩ := c
  cases rest with
  | nil => exact .inl rfl
  | cons b rest =>
    apply Or.inr
    cases accepted : p b <;>
      simp [Cursor.take, Cursor.extend, Stop.extend, accepted, Except.map, Except.mapError]

theorem takeBraces_extend (n : Nat) (c : Cursor) :
    Unaffected more (Cursor.extend more) (c.takeBraces n) ((c.extend more).takeBraces n) := by
  induction n generalizing c with
  | zero => exact .inr rfl
  | succ n ih => exact (take_extend _ c).bind fun next _ => ih next

theorem take_at_end {p : UInt8 → Bool} {c : Cursor} (ended : c.rest = []) :
    c.take p = .error .ended := by
  rw [Cursor.take, ended]

theorem skipWhile_at_end {p : UInt8 → Bool} {c : Cursor} (ended : c.rest = []) :
    (c.skipWhile p).rest = [] := by
  rw [Cursor.skipWhile, ended, List.dropWhile_nil]

theorem named_extend (first later : UInt8 → Bool) (n : Nat) (c : Cursor) :
    Unaffected more (Prod.map id (Cursor.extend more)) (c.named first later (n + 1))
      ((c.extend more).named first later (n + 1)) := by
  simp only [Cursor.named]
  by_cases ended : (c.skipWhile isBlank).rest = []
  · rw [take_at_end ended]
    exact .inl rfl
  rw [skipWhile_extend ended]
  apply (take_extend first (c.skipWhile isBlank)).bind
  intro d taken
  by_cases ended' : ((d.skipWhile later).skipWhile isBlank).rest = []
  · simp only [takeBraces, take_at_end ended']
    exact .inl rfl
  have name : (d.skipWhile later).rest ≠ [] := fun last => ended' (skipWhile_at_end last)
  rw [skipWhile_extend name, skipWhile_extend ended']
  apply (takeBraces_extend (n + 1) _).bind
  intro after closed
  obtain ⟨b, -, letter⟩ := take_ok_iff.mp taken
  obtain ⟨others, -, letters, -⟩ := skipWhile_eq_iff.mp (rfl : d.skipWhile later = _)
  rw [upTo_extend (letter.append letters)]
  exact .inr rfl

abbrev extendTag (more : Bytes) : Tag × Cursor → Tag × Cursor := Prod.map id (Cursor.extend more)

theorem tag_named_extend (make : String → Tag) (first later : UInt8 → Bool) (n : Nat) (c : Cursor) :
    Unaffected more (extendTag more) (Tag.named make first later (n + 1) c)
      (Tag.named make first later (n + 1) (c.extend more)) := by
  unfold Tag.named
  rcases named_extend first later n c with ended | same
  · rw [ended]
    exact .inl rfl
  · rw [same]
    cases c.named first later (n + 1) <;> exact .inr rfl

def ReadsName (c d : Cursor) : Prop :=
  ∃ make first later n, (∀ name, make name ≠ Tag.closing) ∧
    Tag.read c = Tag.named make first later (n + 1) d ∧
    ∀ more, Tag.read (c.extend more) = Tag.named make first later (n + 1) (d.extend more)

theorem read_cases (c : Cursor) :
    Tag.read c = .error .ended ∨
      (∃ before after, Blanks before ∧ Consumes c (before ++ [slashMark]) after ∧
        Tag.read c = .ok (.closing, after) ∧
        ∀ more, Tag.read (c.extend more) = .ok (.closing, after.extend more)) ∨
      ∃ bytes d, Consumes c bytes d ∧ ReadsName c d := by
  cases marked : c.marker? with
  | none =>
    rw [Tag.read, marked]
    exact .inl rfl
  | some mark =>
    obtain ⟨b, behind⟩ := mark
    obtain ⟨before, blanks, -, place⟩ := marker_eq_some_iff.mp marked
    have marks (make : String → Tag) (first later : UInt8 → Bool) (n : Nat)
        (makes : ∀ name, make name ≠ Tag.closing)
        (read : ∀ {d next}, d.marker? = some (b, next) →
          Tag.read d = Tag.named make first later (n + 1) next) :
        ∃ bytes d, Consumes c bytes d ∧ ReadsName c d :=
      ⟨_, behind, place, make, first, later, n, makes, read marked,
        fun _ => read (marker_extend marked)⟩
    by_cases brace : b = openBrace
    · subst brace
      refine .inr (.inr (marks (.value · false) isKeyStart isKeyByte 2 ?_ fun marked => ?_))
      · rintro name ⟨⟩
      · rw [Tag.read, marked]
        rfl
    by_cases hash : b = hashMark
    · subst hash
      refine .inr (.inr (marks (.opening .positive) isKeyStart isKeyByte 1 ?_ fun marked => ?_))
      · rintro name ⟨⟩
      · rw [Tag.read, marked]
        rfl
    by_cases caret : b = caretMark
    · subst caret
      refine .inr (.inr (marks (.opening .inverted) isKeyStart isKeyByte 1 ?_ fun marked => ?_))
      · rintro name ⟨⟩
      · rw [Tag.read, marked]
        rfl
    by_cases angle : b = angleMark
    · subst angle
      refine .inr (.inr (marks .inclusion isPathByte isPathByte 1 ?_ fun marked => ?_))
      · rintro name ⟨⟩
      · rw [Tag.read, marked]
        rfl
    by_cases slash : b = slashMark
    · subst slash
      have read {d next : Cursor} (marked : d.marker? = some (slashMark, next)) :
          Tag.read d = .ok (.closing, next) := by
        rw [Tag.read, marked]
        rfl
      refine .inr (.inl ⟨before, behind, blanks, place, read marked, fun _ => ?_⟩)
      exact read (marker_extend marked)
    · have read {d next : Cursor} (marked : d.marker? = some (b, next)) :
          Tag.read d = Tag.named (.value · true) isKeyStart isKeyByte 2 d := by
        simp only [Tag.read, marked]
        rw [if_neg brace, if_neg hash, if_neg caret, if_neg angle, if_neg slash]
      refine .inr (.inr ⟨[], c, .nil c, _, _, _, _, ?_, read marked, fun _ => ?_⟩)
      · rintro name ⟨⟩
      · exact read (marker_extend marked)

theorem read_extend (c : Cursor) :
    Unaffected more (extendTag more) (Tag.read c) (Tag.read (c.extend more)) := by
  rcases read_cases c with ended | ⟨before, after, -, -, read, longer⟩ | ⟨bytes, d, -, name⟩
  · exact .inl ended
  · rw [read, longer]
    exact .inr rfl
  · obtain ⟨make, first, later, n, -, read, longer⟩ := name
    rw [read, longer]
    exact tag_named_extend make first later n d

theorem read_extend_ok {c after : Cursor} {tag : Tag} (read : Tag.read c = .ok (tag, after)) :
    Tag.read (c.extend more) = .ok (tag, after.extend more) :=
  (read_extend c).ok read

theorem closingKey_extend (c : Cursor) :
    Unaffected more (Prod.map id (Cursor.extend more)) (BlockEnd.closingKey c)
      (BlockEnd.closingKey (c.extend more)) :=
  named_extend isKeyByte isKeyByte 1 c

theorem find_extend (key : String) (inner : Nat) (c : Cursor) :
    BlockEnd.find key inner c = .error (.unterminatedBlock key) ∨
      BlockEnd.find key inner (c.extend more) =
        (BlockEnd.find key inner c).map (BlockEnd.extend more) := by
  -- The search ends, or goes on, by what it has read of a tag, and that is read alike.
  fun_induction BlockEnd.find key inner c with
  | case1 | case2 | case4 => exact .inl rfl
  | case3 inner c body behind tag b next marked opens ih =>
    rw [find_eq key inner (c.extend more), nextTag_extend tag]
    simp only [marker_extend marked]
    rwa [if_pos opens]
  | case5 inner c body behind tag next after closing marked plain ih =>
    rw [find_eq key inner (c.extend more), nextTag_extend tag]
    simp only [marker_extend marked, (closingKey_extend next).stray closing]
    rwa [if_neg plain, if_pos trivial]
  | case6 c body behind tag next after marked plain closing =>
    rw [find_eq key 0 (c.extend more), nextTag_extend tag]
    simp only [marker_extend marked, (closingKey_extend next).ok closing]
    rw [if_neg plain, if_pos trivial]
    exact .inr (if_pos rfl)
  | case7 c body behind tag next closed after closing different marked plain =>
    rw [find_eq key 0 (c.extend more), nextTag_extend tag]
    simp only [marker_extend marked, (closingKey_extend next).ok closing]
    rw [if_neg plain, if_pos trivial]
    exact .inr (if_neg different)
  | case8 c body behind tag next closed after closing inner marked plain ih =>
    rw [find_eq key (inner + 1) (c.extend more), nextTag_extend tag]
    simp only [marker_extend marked, (closingKey_extend next).ok closing]
    rwa [if_neg plain, if_pos trivial]
  | case9 inner c body behind tag b next marked plain other ih =>
    rw [find_eq key inner (c.extend more), nextTag_extend tag]
    simp only [marker_extend marked]
    rwa [if_neg plain, if_neg other]

theorem find_extend_ok {key : String} {inner : Nat} {c : Cursor} {found : BlockEnd}
    (ended : BlockEnd.find key inner c = .ok found) :
    BlockEnd.find key inner (c.extend more) = .ok (found.extend more) := by
  rcases find_extend key inner c with unclosed | same
  · rw [ended] at unclosed
    cases unclosed
  · rw [same, ended]
    rfl

theorem find_extend_error {key : String} {inner : Nat} {c : Cursor} {fault : SyntaxError}
    (failed : BlockEnd.find key inner c = .error fault) (more : Bytes) :
    fault = .unterminatedBlock key ∨ BlockEnd.find key inner (c.extend more) = .error fault := by
  rcases find_extend key inner c with unclosed | same
  · rw [failed] at unclosed
    exact .inl (Except.error.inj unclosed)
  · rw [same, failed]
    exact .inr rfl

theorem body_extend {key : String} {inner : Nat} {c : Cursor} {found : BlockEnd}
    (ended : BlockEnd.find key inner c = .ok found) :
    (c.extend more).upTo found.body = c.upTo found.body := by
  obtain ⟨body, closing, -, place, block⟩ := closing_of_find ended
  obtain ⟨d, before, -⟩ := block.split
  rw [place, ← before.offset]
  exact upTo_extend before

def strayKey (behind : Bytes) : String :=
  Text.trim (Utf8.decodeLossy (behind.takeWhile (· != closeBrace)))

theorem strayKey_append {behind : Bytes} (closed : closeBrace ∈ behind) :
    strayKey (behind ++ more) = strayKey behind := by
  have shorter : (behind.takeWhile (· != closeBrace)).length ≠ behind.length := by
    intro whole
    have all := (List.takeWhile_prefix (· != closeBrace)).eq_of_length whole
    have last := List.mem_takeWhile_imp (all ▸ closed)
    simp at last
  rw [strayKey, strayKey, List.takeWhile_append, if_neg shorter]

theorem tag_named_stray {make : String → Tag} {first later : UInt8 → Bool} {braces : Nat}
    {c after : Cursor} (stopped : Tag.named make first later braces c = .error (.stray after)) :
    ∃ bytes, Consumes c bytes after := by
  unfold Tag.named at stopped
  cases read : c.named first later braces with
  | error stop =>
    rw [read] at stopped
    cases stopped
    exact named_stray read
  | ok result =>
    rw [read] at stopped
    cases stopped

theorem read_stray {c after : Cursor} (stopped : Tag.read c = .error (.stray after)) :
    ∃ bytes, Consumes c bytes after := by
  rcases read_cases c with ended | ⟨before, place, -, -, read, -⟩ | ⟨bytes, d, front, name⟩
  · rw [stopped] at ended
    cases ended
  · rw [stopped] at read
    cases read
  · obtain ⟨make, first, later, n, -, read, -⟩ := name
    rw [read] at stopped
    obtain ⟨rest, behind⟩ := tag_named_stray stopped
    exact ⟨bytes ++ rest, front.append behind⟩

theorem slash_of_read {c after : Cursor} (closes : Tag.read c = .ok (.closing, after)) :
    ∃ before, Blanks before ∧ Consumes c (before ++ [slashMark]) after := by
  rcases read_cases c with ended | ⟨before, place, blanks, slash, read, -⟩ | ⟨bytes, d, -, name⟩
  · rw [closes] at ended
    cases ended
  · rw [closes] at read
    cases read
    exact ⟨before, blanks, slash⟩
  · obtain ⟨make, first, later, n, makes, read, -⟩ := name
    rw [read] at closes
    obtain ⟨text, -, same⟩ := tag_named_ok_iff.mp closes
    exact absurd same.symm (makes text)

theorem itemAt_slash {source before : Bytes} {behind after : Cursor} (blanks : Blanks before)
    (slash : Consumes behind (before ++ [slashMark]) after) :
    itemAt source behind = .error (.unexpectedClose (strayKey after.rest)) := by
  obtain ⟨next, marked, nothing⟩ := marker_of_blanks blanks rfl slash
  have read : Tag.read behind = .ok (.closing, next) := by
    rw [Tag.read, marked]
    rfl
  rw [itemAt, read, ← (Consumes.nil next).right_unique nothing]
  rfl

theorem itemAt_extend {source : Bytes} {behind after : Cursor} {item : Item}
    (found : itemAt source behind = .ok (item, after)) :
    itemAt (source ++ more) (behind.extend more) = .ok (item, after.extend more) := by
  unfold itemAt at found ⊢
  cases read : Tag.read behind with
  | error stop =>
    rw [read] at found
    cases stop <;> cases found
  | ok result =>
    obtain ⟨tag, next⟩ := result
    rw [read_extend_ok read]
    rw [read] at found
    cases tag with
    | closing => cases found
    | value key escaped | inclusion path =>
      cases found
      rfl
    | opening polarity key =>
      cases ended : BlockEnd.find key 0 next with
      | error fault =>
        simp only [ended] at found
        cases found
      | ok block =>
        simp only [ended] at found
        cases found
        simp only [find_extend_ok ended, Except.map, BlockEnd.extend, body_extend ended]

theorem itemAt_error_extend {source : Bytes} {behind : Cursor} {error : SyntaxError}
    (place : behind.offset + behind.rest.length = source.length)
    (failed : itemAt source behind = .error error) :
    error.wantsMore = true ∨ itemAt (source ++ more) (behind.extend more) = .error error ∨
      ∃ before rest, Blanks before ∧ behind.rest = before ++ slashMark :: rest ∧
        closeBrace ∉ rest := by
  unfold itemAt at failed ⊢
  cases read : Tag.read behind with
  | error stop =>
    rw [read] at failed
    cases stop with
    | ended =>
      cases failed
      exact .inl rfl
    | stray after =>
      cases failed
      rw [(read_extend behind).stray read]
      obtain ⟨bytes, read⟩ := read_stray read
      have inside : after.offset ≤ source.length := by
        rw [← place, read.offset, read.rest, List.length_append]
        omega
      simp only [Cursor.extend]
      rw [List.take_append_of_le_length inside]
      exact .inr (.inl rfl)
  | ok result =>
    obtain ⟨tag, next⟩ := result
    rw [read_extend_ok read]
    rw [read] at failed
    cases tag with
    | value key escaped | inclusion path => cases failed
    | closing =>
      cases failed
      obtain ⟨before, blanks, slash⟩ := slash_of_read read
      by_cases closed : closeBrace ∈ next.rest
      · have same : strayKey (next.rest ++ more) = strayKey next.rest := strayKey_append closed
        change _ ∨ Except.error (SyntaxError.unexpectedClose (strayKey (next.rest ++ more))) = _ ∨ _
        rw [same]
        exact .inr (.inl rfl)
      · refine .inr (.inr ⟨before, next.rest, blanks, ?_, closed⟩)
        rw [slash.rest, List.append_assoc]
        rfl
    | opening polarity key =>
      cases ended : BlockEnd.find key 0 next with
      | ok block =>
        simp only [ended] at failed
        cases failed
      | error fault =>
        simp only [ended] at failed
        cases failed
        rcases find_extend_error ended more with rfl | same
        · exact .inl rfl
        · simp only [same]
          exact .inr (.inl rfl)

end Mustache.Proofs.Stability
