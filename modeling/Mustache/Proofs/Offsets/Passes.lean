import Mustache.Proofs.Offsets.Searches
import Mustache.Proofs.Stability.Errors

namespace Mustache.Proofs.Offsets
open Cursor Grammar Stability

theorem minus_succ (n : Nat) : minus (n + 1) 1 = .ok n := if_pos (Nat.le_add_left 1 n)

theorem snippet_eq (consumed : Bytes) : snippet consumed = .ok (SyntaxError.snippet consumed) := by
  unfold snippet
  split
  · next long =>
    have start : minus consumed.length 32 = .ok (consumed.length - 32) := if_pos (Nat.le_of_lt long)
    have tail := slice_of_le (Nat.sub_le consumed.length 32) (Nat.le_refl _)
    rw [start]
    change slice consumed (consumed.length - 32) consumed.length >>= _ = _
    rw [tail, between_length]
    rfl
  · next short =>
    have whole : consumed.lastPart 32 = consumed := by
      rw [Bytes.lastPart, Nat.sub_eq_zero_of_le (Nat.not_lt.mp short), List.drop_zero]
    rw [SyntaxError.snippet, whole]
    rfl

theorem strayKey_eq (c : Cursor) : Offsets.strayKey c.rest = .ok (Outline.closingKey c) := by
  have key : between c.rest 0 (c.rest.findIdx (· == closeBrace)) =
      c.rest.takeWhile (· != closeBrace) := by
    rw [between, List.drop_zero, List.takeWhile_eq_take_findIdx_not]
    simp [bne]
  rw [Offsets.strayKey, slice_of_le (Nat.zero_le _) List.findIdx_le_length, key]
  rfl

theorem length_between {source : Bytes} {start stop : Nat} (inside : stop ≤ source.length) :
    (between source start stop).length = stop - start := by
  rw [between, List.length_drop, List.length_take_of_le inside]

def TagKind.tag : TagKind → String → Tag
  | .value => (.value · true)
  | .raw => (.value · false)
  | .opening polarity => .opening polarity
  | .inclusion => .inclusion

def TagKind.mark? : TagKind → Option UInt8
  | .value => none
  | .raw => some openBrace
  | .opening polarity => some (blockMark polarity)
  | .inclusion => some angleMark

def TagKind.braces : TagKind → Nat
  | .raw => 2
  | .value | .opening _ | .inclusion => 1

def TagKind.lastPhase : TagKind → Phase
  | .raw => .rawClosing
  | .value => .closing .value
  | .opening polarity => .closing (.opening polarity)
  | .inclusion => .closing .inclusion

def TagKind.item (kind : TagKind) (name : String) (after : Cursor) :
    Except SyntaxError (Item × Cursor) :=
  match kind with
  | .value => .ok (.value name true, after)
  | .raw => .ok (.value name false, after)
  | .opening polarity => (BlockEnd.find name 0 after).map fun ended =>
      (.block polarity name (after.upTo ended.body), ended.after)
  | .inclusion => .ok (.inclusion name, after)

theorem itemAt_named (source : Bytes) {kind : TagKind} {behind c : Cursor}
    (read : Tag.read behind =
      Tag.named kind.tag kind.starts kind.accepts (kind.braces + 1) c) :
    itemAt source behind =
      match c.named kind.starts kind.accepts (kind.braces + 1) with
      | .error .ended => .error (.unterminatedTag (SyntaxError.snippet source))
      | .error (.stray after) =>
        .error (.malformedTag (SyntaxError.snippet (source.take after.offset)))
      | .ok (name, after) => kind.item name after := by
  rw [itemAt, read, Tag.named]
  cases c.named kind.starts kind.accepts (kind.braces + 1) with
  | error stop => cases stop <;> rfl
  | ok result => cases kind <;> rfl

namespace Reader

section

variable (load : Loader) (nested : Bytes → Except Halt Template) (source : Bytes)

def closed (kind : TagKind) (r : Reader) : Except Halt Reader :=
  match kind with
  | .raw => r.value source false
  | kind => r.close load nested source kind

theorem step_lastPhase {r : Reader} {kind : TagKind} (here : r.phase = kind.lastPhase)
    (b : UInt8) :
    r.step load nested source b =
      if b = closeBrace then r.closed load nested source kind else r.malformed source := by
  unfold step
  rw [here]
  cases kind <;> rfl

theorem malformed_eq {α : Type} {r : Reader} (inside : r.idx ≤ source.length) :
    (r.malformed source : Except Halt α) =
      .error (.refused (.malformedTag (SyntaxError.snippet (source.take r.idx)))) := by
  rw [malformed, slice_of_le (Nat.zero_le _) inside, between, List.drop_zero]
  change snippet _ >>= _ = _
  rw [snippet_eq]
  rfl

theorem complete_eq (r : Reader) :
    r.complete load nested source =
      match source[r.idx]? with
      | none => r.finish source
      | some b =>
        { r with idx := r.idx + 1 }.step load nested source b >>= complete load nested source := by
  rw [complete]
  cases there : source[r.idx]? with
  | none => exact if_neg (Nat.not_lt.mpr (List.getElem?_eq_none_iff.mp there))
  | some b =>
    have step : r.advance load nested source =
        { r with idx := r.idx + 1 }.step load nested source b := by
      rw [advance, byteAt, there]
      rfl
    rw [if_pos (lt_of_getElem? there)]
    simp only [← step]
    split
    · next halt read =>
      rw [read]
      rfl
    · next next read =>
      rw [read]
      rfl

theorem finish_open {r : Reader} (inTag : r.phase ≠ .literal) (past : r.phase ≠ .brace) :
    r.finish source = .error (.refused (.unterminatedTag (SyntaxError.snippet source))) := by
  unfold finish
  split
  · next here => exact absurd here inTag
  · next here => exact absurd here past
  · rw [snippet_eq]
    rfl

def textReader (start keyStart keyEnd : Nat) (tokens : List Token) :
    TextReader source (Except Halt (List Token)) where
  text tagStart i :=
    complete load nested source ⟨.literal, i, start, tagStart, keyStart, keyEnd, tokens⟩
  brace i := complete load nested source ⟨.brace, i + 1, start, i, keyStart, keyEnd, tokens⟩
  tag i := do
    let tokens ← flush source i ⟨.brace, i + 2, start, i, keyStart, keyEnd, tokens⟩
    complete load nested source ⟨.dispatch, i + 2, start, i, keyStart, keyEnd, tokens⟩
  ended := flush source source.length ⟨.literal, 0, start, 0, keyStart, keyEnd, tokens⟩
  text_eq tagStart i := by
    rw [complete_eq]
    simp only [step, minus_succ]
    cases source[i]? with
    | none => rfl
    | some b =>
      simp only
      split <;> rfl
  brace_eq i := by
    rw [complete_eq]
    cases source[i + 1]? with
    | none => rfl
    | some b =>
      simp only [step]
      split
      · change (flush source i ⟨.brace, i + 2, start, i, keyStart, keyEnd, tokens⟩ >>= _) >>= _ = _
        cases flush source i ⟨.brace, i + 2, start, i, keyStart, keyEnd, tokens⟩ <;> rfl
      · rfl

def nameReader (kind : TagKind) (start tagStart : Nat) (tokens : List Token) :
    NameReader source kind.starts kind.accepts kind.braces (Except Halt (List Token)) where
  before keyStart keyEnd i :=
    complete load nested source ⟨.keyStart kind, i, start, tagStart, keyStart, keyEnd, tokens⟩
  inside keyStart keyEnd i :=
    complete load nested source ⟨.key kind, i, start, tagStart, keyStart, keyEnd, tokens⟩
  behind keyStart keyEnd i :=
    complete load nested source ⟨.keyEnd kind, i, start, tagStart, keyStart, keyEnd, tokens⟩
  closing due keyStart keyEnd i :=
    match due with
    | 0 => closed load nested source kind
        ⟨kind.lastPhase, i, start, tagStart, keyStart, keyEnd, tokens⟩ >>=
          complete load nested source
    | 1 => complete load nested source
        ⟨kind.lastPhase, i, start, tagStart, keyStart, keyEnd, tokens⟩
    | _ => complete load nested source
        ⟨.closing kind, i, start, tagStart, keyStart, keyEnd, tokens⟩
  stray _ _ i := .error (.refused (.malformedTag (SyntaxError.snippet (source.take i))))
  ended := .error (.refused (.unterminatedTag (SyntaxError.snippet source)))
  before_eq keyStart keyEnd i := by
    rw [complete_eq]
    cases there : source[i]? with
    | none => exact finish_open source nofun nofun
    | some b =>
      simp only [step]
      split
      · rfl
      split
      · rw [beginKey, minus_succ]
        rfl
      · rw [malformed_eq source]
        · rfl
        · exact lt_of_getElem? there
  inside_eq keyStart keyEnd i := by
    rw [complete_eq]
    cases there : source[i]? with
    | none => exact finish_open source nofun nofun
    | some b =>
      simp only [step]
      split
      · rfl
      split
      · rw [endKey, minus_succ]
        rfl
      split
      · rw [endKey, minus_succ]
        cases kind <;> rfl
      · rw [malformed_eq source]
        · rfl
        · exact lt_of_getElem? there
  behind_eq keyStart keyEnd i := by
    rw [complete_eq]
    cases there : source[i]? with
    | none => exact finish_open source nofun nofun
    | some b =>
      simp only [step]
      by_cases brace : b = closeBrace
      · subst brace
        cases kind <;> rfl
      · rw [if_neg brace, if_neg brace]
        split
        · rfl
        · rw [malformed_eq source]
          · rfl
          · exact lt_of_getElem? there
  closing_eq due keyStart keyEnd i bound := by
    cases due with
    | zero =>
      change complete load nested source
        ⟨kind.lastPhase, i, start, tagStart, keyStart, keyEnd, tokens⟩ = _
      rw [complete_eq]
      cases there : source[i]? with
      | none => exact finish_open source (by cases kind <;> nofun) (by cases kind <;> nofun)
      | some b =>
        simp only
        rw [step_lastPhase load nested source rfl]
        split
        · rfl
        · rw [malformed_eq source]
          · rfl
          · exact lt_of_getElem? there
    | succ due =>
      -- Only a raw value has a third brace.
      obtain ⟨rfl, rfl⟩ : kind = .raw ∧ due = 0 := by
        cases kind <;> simp only [TagKind.braces] at bound <;> first | omega | exact ⟨rfl, by omega⟩
      change complete load nested source
        ⟨.closing .raw, i, start, tagStart, keyStart, keyEnd, tokens⟩ = _
      rw [complete_eq]
      cases there : source[i]? with
      | none => exact finish_open source nofun nofun
      | some b =>
        simp only [step]
        split
        · rfl
        · rw [malformed_eq source]
          · rfl
          · exact lt_of_getElem? there

end

/-! ## Items and their tokens -/

variable {load : Loader} {options : Options} {levels : Nat}
  {nested : Bytes → Except Halt Template} {source : Bytes}

abbrev Agrees (load : Loader) (options : Options) (levels : Nat)
    (nested : Bytes → Except Halt Template) : Prop :=
  ∀ body, nested body = (compileAt load options levels body).mapError .refused

abbrev tokenOf (load : Loader) (options : Options) (levels : Nat) (item : Item) :
    Except Halt Token :=
  (compileItem load options levels item).mapError .refused

/-- What the pass should do behind a tag, by the item that the tag begins. -/
def Ends (load : Loader) (options : Options) (levels : Nat) (source : Bytes) (r : Reader)
    (result : Except Halt Reader) : Except SyntaxError (Item × Cursor) → Prop
  | .error fault => result = .error (.refused fault)
  | .ok (item, after) => ∃ i, i ≤ source.length ∧ after = place 0 source i ∧
      result = (tokenOf load options levels item).map fun token =>
        { r with idx := i }.resume token

theorem ends_opening (bodies : Agrees load options levels nested)
    {polarity : Polarity} {r : Reader} {name : String} (inside : r.idx ≤ source.length)
    (named : r.name source = .ok name) :
    Ends load options levels source r (r.block nested source polarity)
      ((TagKind.opening polarity).item name (place 0 source r.idx)) := by
  have start : place 0 source r.idx = ⟨r.idx, source.drop r.idx⟩ := by rw [place, Nat.zero_add]
  have found := Scan.find_agrees name r.idx (source.drop r.idx)
  rw [block, named, slice_of_le inside (Nat.le_refl _), between_length, TagKind.item, start]
  cases ended : BlockEnd.find name 0 ⟨r.idx, source.drop r.idx⟩ with
  | error fault =>
    rw [ended] at found
    change Scan.find name (source.drop r.idx) = _ at found
    change Scan.find name (source.drop r.idx) >>= _ = _
    rw [found]
    rfl
  | ok result =>
    rw [ended] at found
    obtain ⟨body, consumed, stop, after, same⟩ := found
    have bounds := Scan.find_bounds same
    have content : slice (source.drop r.idx) 0 body = .ok ((source.drop r.idx).take body) := by
      rw [slice_of_le (Nat.zero_le _) (by omega), between, List.drop_zero]
    refine ⟨r.idx + consumed, ?_, ?_, ?_⟩
    · have := bounds.2
      rw [List.length_drop] at this
      omega
    · rw [after, place, place, List.drop_drop, Nat.zero_add]
    · have upTo : Cursor.upTo result.body ⟨r.idx, source.drop r.idx⟩ =
          (source.drop r.idx).take body := by
        rw [stop, Cursor.upTo, Nat.add_sub_cancel_left]
      change Scan.find name (source.drop r.idx) >>= _ = _
      rw [same, upTo]
      change slice (source.drop r.idx) 0 body >>= _ = _
      rw [content]
      change nested ((source.drop r.idx).take body) >>= _ = _
      rw [bodies, tokenOf, compileItem, Item.compile]
      cases compileAt load options levels ((source.drop r.idx).take body) <;> rfl

theorem compileItem_inclusion (path : String) :
    compileItem load options levels (.inclusion path) =
      if Path.isInside path.toList = true then
        match load path with
        | .error reason => .error (.unreadablePartial path reason)
        | .ok source => do
          let body ← (compileAt load options levels source).mapError (·.within path)
          return .inclusion path body
      else .error (.refusedPath path) := by
  rw [compileItem, Item.compile]
  split
  · cases load path with
    | error reason => rfl
    | ok source =>
      change tryCatch (compileAt load options levels source) _ >>= _ =
        (compileAt load options levels source).mapError _ >>= _
      cases compileAt load options levels source <;> rfl
  · rfl

theorem ends_inclusion (bodies : Agrees load options levels nested)
    {r : Reader} {name : String} (inside : r.idx ≤ source.length)
    (named : r.name source = .ok name) :
    Ends load options levels source r (r.inclusion load nested source)
      (.ok (.inclusion name, place 0 source r.idx)) := by
  refine ⟨r.idx, inside, rfl, ?_⟩
  rw [inclusion, named, tokenOf, compileItem_inclusion]
  change (if Path.isInside name.toList = true then _ else _) = _
  split
  · cases load name with
    | error reason => rfl
    | ok text =>
      change (nested text).mapError _ >>= _ =
        (((compileAt load options levels text).mapError _ >>= _).mapError _).map _
      rw [bodies]
      cases compileAt load options levels text <;> rfl
  · rfl

theorem ends_closed (bodies : Agrees load options levels nested)
    {kind : TagKind} {r : Reader} {name : String} (inside : r.idx ≤ source.length)
    (named : r.name source = .ok name) :
    Ends load options levels source r (r.closed load nested source kind)
      (kind.item name (place 0 source r.idx)) := by
  cases kind with
  | value | raw =>
    refine ⟨r.idx, inside, rfl, ?_⟩
    change r.value source _ = _
    rw [value, named]
    rfl
  | opening polarity => exact ends_opening bodies inside named
  | inclusion => exact ends_inclusion bodies inside named

def GoesOn (load : Loader) (options : Options) (levels : Nat)
    (nested : Bytes → Except Halt Template) (source : Bytes) (tokens : List Token)
    (result : Except Halt (List Token)) : Except SyntaxError (Item × Cursor) → Prop
  | .error fault => result = .error (.refused fault)
  | .ok (item, after) => ∃ tagStart keyStart keyEnd i, i ≤ source.length ∧
      after = place 0 source i ∧ result = tokenOf load options levels item >>= fun token =>
        complete load nested source ⟨.literal, i, i, tagStart, keyStart, keyEnd, tokens ++ [token]⟩

theorem Ends.goesOn {r : Reader} {result : Except Halt Reader}
    {found : Except SyntaxError (Item × Cursor)}
    (ends : Ends load options levels source r result found) :
    GoesOn load options levels nested source r.tokens (result >>= complete load nested source)
      found := by
  cases found with
  | error fault =>
    change result = _ at ends
    rw [ends]
    rfl
  | ok found =>
    obtain ⟨item, after⟩ := found
    obtain ⟨i, inside, rfl, rfl⟩ := ends
    refine ⟨r.tagStart, r.keyStart, r.keyEnd, i, inside, rfl, ?_⟩
    cases tokenOf load options levels item <;> rfl

section

variable {start tagStart keyStart keyEnd i : Nat} {tokens : List Token}

theorem goesOn_named (bodies : Agrees load options levels nested)
    {kind : TagKind} {behind : Cursor} (inside : i ≤ source.length)
    (read : Tag.read behind =
      Tag.named kind.tag kind.starts kind.accepts (kind.braces + 1) (place 0 source i)) :
    GoesOn load options levels nested source tokens
      (complete load nested source ⟨.keyStart kind, i, start, tagStart, keyStart, keyEnd, tokens⟩)
      (itemAt source behind) := by
  have comes := (nameReader load nested source kind start tagStart tokens).comes 0 keyStart keyEnd i
  change NameReader.Comes _ 0 (complete load nested source _) _ at comes
  rw [itemAt_named source read]
  cases named : (place 0 source i).named kind.starts kind.accepts (kind.braces + 1) with
  | error stop =>
    rw [named] at comes
    cases stop with
    | ended => exact comes
    | stray after =>
      obtain ⟨_, _, j, rfl, same⟩ := comes
      simp only [place, Nat.zero_add]
      exact same
  | ok result =>
    obtain ⟨name, after⟩ := result
    rw [named] at comes
    obtain ⟨keyStart', keyEnd', j, ordered, short, isName, rfl, rfl, same⟩ := comes
    obtain ⟨-, inner, -, -, passed⟩ := padded_of_named named
    have starts {b : UInt8} (first : kind.starts b = true) : isPathByte b = true :=
      TagKind.isPathByte_of_accepts (TagKind.accepts_of_starts first)
    have text := (decodeLossy_of_isName isName starts TagKind.isPathByte_of_accepts).2
    let r : Reader := ⟨kind.lastPhase, j, start, tagStart, keyStart', keyEnd', tokens⟩
    have name : r.name source = .ok (nameText (between source keyStart' keyEnd')) := by
      rw [Reader.name, slice_of_le ordered short, ← text]
      rfl
    rw [same]
    exact (ends_closed bodies (consumes_inside passed inside) name).goesOn

theorem dispatch_mark {kind : TagKind} {mark : UInt8} (marks : kind.mark? = some mark)
    (r : Reader) : r.dispatch source mark = .ok { r with phase := .keyStart kind } := by
  cases kind with
  | value => cases marks
  | raw | inclusion =>
    cases marks
    rfl
  | opening polarity =>
    cases marks
    cases polarity <;> rfl

theorem read_mark {kind : TagKind} {mark : UInt8} (marks : kind.mark? = some mark)
    {c next : Cursor} (marked : c.marker? = some (mark, next)) :
    Tag.read c = Tag.named kind.tag kind.starts kind.accepts (kind.braces + 1) next := by
  rw [Tag.read, marked]
  cases kind with
  | value => cases marks
  | raw | inclusion =>
    cases marks
    rfl
  | opening polarity =>
    cases marks
    cases polarity <;> rfl

theorem ne_of_unmarked {b : UInt8} (unmarked : ∀ kind : TagKind, kind.mark? ≠ some b) :
    b ≠ openBrace ∧ b ≠ hashMark ∧ b ≠ caretMark ∧ b ≠ angleMark := by
  have other (kind : TagKind) {mark : UInt8} (marks : kind.mark? = some mark) : b ≠ mark := by
    rintro rfl
    exact unmarked kind marks
  exact ⟨other .raw rfl, other (.opening .positive) rfl, other (.opening .inverted) rfl,
    other .inclusion rfl⟩

theorem dispatch_other {b : UInt8} (unmarked : ∀ kind : TagKind, kind.mark? ≠ some b)
    (slash : b ≠ slashMark) (r : Reader) :
    r.dispatch source b =
      if isBlank b then .ok r
      else if isKeyStart b then r.beginKey .value
      else r.malformed source := by
  obtain ⟨brace, hash, caret, angle⟩ := ne_of_unmarked unmarked
  rw [dispatch, if_neg brace, if_neg hash, if_neg caret, if_neg angle, if_neg slash]
  rfl

theorem read_other {b : UInt8} (unmarked : ∀ kind : TagKind, kind.mark? ≠ some b)
    (slash : b ≠ slashMark) {c next : Cursor} (marked : c.marker? = some (b, next)) :
    Tag.read c = Tag.named TagKind.value.tag isKeyStart isKeyByte 2 c := by
  obtain ⟨brace, hash, caret, angle⟩ := ne_of_unmarked unmarked
  rw [Tag.read, marked]
  simp only [if_neg brace, if_neg hash, if_neg caret, if_neg angle, if_neg slash]
  rfl

theorem dispatch_slash {r : Reader} (inside : r.idx ≤ source.length) :
    r.dispatch source slashMark =
      .error (.refused (.unexpectedClose (Outline.closingKey (place 0 source r.idx)))) := by
  have key := strayKey_eq (place 0 source r.idx)
  change Offsets.strayKey (source.drop r.idx) = _ at key
  change slice source r.idx source.length >>= _ = _
  rw [slice_of_le inside (Nat.le_refl _), between_length]
  change Offsets.strayKey (source.drop r.idx) >>= _ = _
  rw [key]
  rfl

theorem unmarked_of_blank {b : UInt8} (blank : isBlank b = true) (kind : TagKind) :
    kind.mark? ≠ some b := by
  intro marks
  have visible (mark : UInt8) (shows : isBlank mark = false) : mark ≠ b := by
    rintro rfl
    rw [shows] at blank
    cases blank
  cases kind with
  | value => cases marks
  | raw => exact visible openBrace rfl (Option.some.inj marks)
  | inclusion => exact visible angleMark rfl (Option.some.inj marks)
  | opening polarity => cases polarity <;> exact visible _ rfl (Option.some.inj marks)

theorem goesOn_dispatch (bodies : Agrees load options levels nested)
    (inside : i ≤ source.length) :
    GoesOn load options levels nested source tokens
      (complete load nested source ⟨.dispatch, i, start, tagStart, keyStart, keyEnd, tokens⟩)
      (itemAt source (place 0 source i)) := by
  obtain ⟨j, marked, -, stops, follows⟩ := marker_place 0 source i
  have same := follows
    (fun k => complete load nested source ⟨.dispatch, k, start, tagStart, keyStart, keyEnd, tokens⟩)
    fun k b there blank => by
      have slash : b ≠ slashMark := by
        rintro rfl
        cases blank
      rw [complete_eq, there]
      simp only [step]
      rw [dispatch_other (unmarked_of_blank blank) slash, if_pos blank]
      rfl
  rw [same]
  cases there : source[j]? with
  | none =>
    rw [there] at marked
    rw [complete_eq, there, itemAt, Tag.read, marked]
    exact finish_open source (by simp) (by simp)
  | some b =>
    have inside' := lt_of_getElem? there
    rw [there] at marked
    rw [complete_eq, there]
    by_cases marks : ∃ kind : TagKind, kind.mark? = some b
    · obtain ⟨kind, mark⟩ := marks
      simp only [step]
      rw [dispatch_mark mark]
      exact goesOn_named bodies inside' (read_mark mark marked)
    have unmarked (kind : TagKind) : kind.mark? ≠ some b := fun mark => marks ⟨kind, mark⟩
    by_cases slash : b = slashMark
    · subst slash
      have item : itemAt source (place 0 source i) =
          .error (.unexpectedClose (Outline.closingKey (place 0 source (j + 1)))) := by
        rw [itemAt, Tag.read, marked]
        rfl
      simp only [step]
      rw [item, dispatch_slash]
      · rfl
      · exact inside'
    · -- A value has no mark in front of its blanks, so its name is read from where they start.
      have value := follows
        (fun k => complete load nested source
          ⟨.keyStart .value, k, start, tagStart, keyStart, keyEnd, tokens⟩)
        fun k b there blank => by
          rw [complete_eq, there]
          simp only [step, if_pos blank]
          rfl
      have first : GoesOn load options levels nested source tokens
          (complete load nested source
            ⟨.keyStart .value, i, start, tagStart, keyStart, keyEnd, tokens⟩)
          (itemAt source (place 0 source i)) :=
        goesOn_named bodies inside (read_other unmarked slash marked)
      rw [value, complete_eq, there] at first
      simp only [step, dispatch_other unmarked slash, stops b there] at first ⊢
      exact first

end

/-! ## The tokens of a source -/

theorem flush_eq {r : Reader} {stop : Nat} (ordered : r.start ≤ stop)
    (inside : stop ≤ source.length) :
    r.flush source stop = .ok (r.tokens ++ textTokens r.start (between source r.start stop)) := by
  have length : (between source r.start stop).length = stop - r.start := length_between inside
  unfold flush
  split
  · next before =>
    rw [slice_of_le ordered inside]
    cases text : between source r.start stop with
    | nil =>
      rw [text, List.length_nil] at length
      omega
    | cons => rfl
  · next notBefore =>
    have text : between source r.start stop = [] := List.length_eq_zero_iff.mp (by omega)
    rw [text, textTokens, List.append_nil]
    rfl

theorem complete_agrees (bodies : Agrees load options levels nested)
    {i : Nat} (inside : i ≤ source.length) (tagStart keyStart keyEnd : Nat)
    (tokens : List Token) :
    complete load nested source ⟨.literal, i, i, tagStart, keyStart, keyEnd, tokens⟩ =
      ((outcome load options levels (Outline.scan source (place 0 source i))).mapError
        .refused).map (tokens ++ ·) := by
  -- On what is left of the source. A tag leaves offsets of its own behind, so any will do.
  induction size : source.length - i using Nat.strong_induction_on
    generalizing i tagStart keyStart keyEnd tokens with
  | _ size ih =>
    subst size
    have text := (textReader load nested source i keyStart keyEnd tokens).comes 0 tagStart i
    change TextReader.Comes _ 0 (complete load nested source _) _ at text
    rw [scan_eq]
    cases tag : (place 0 source i).nextTag? with
    | none =>
      rw [tag] at text
      change _ = flush source source.length _ at text
      rw [text, flush_eq inside (Nat.le_refl _), between_length]
      have only : (⟨Outline.text i (source.drop i), none⟩ : Outline) =
          Outline.prepend (Outline.text i (source.drop i)) ⟨[], none⟩ := (prepend_fault _ _).symm
      simp only [place, Nat.zero_add]
      rw [only, outcome_text_eq]
      change _ = Except.ok (tokens ++ (textTokens i (source.drop i) ++ []))
      rw [List.append_nil]
    | some found =>
      obtain ⟨stop, behind⟩ := found
      rw [tag] at text
      obtain ⟨j, room, rfl, rfl, same⟩ := text
      have ahead := le_of_nextTag tag
      have goesOn : GoesOn load options levels nested source
          (tokens ++ textTokens i (between source i j))
          (complete load nested source ⟨.literal, i, i, tagStart, keyStart, keyEnd, tokens⟩)
          (itemAt source (place 0 source (j + 2))) := by
        change _ = flush source j _ >>= _ at same
        rw [same, flush_eq ahead (by omega)]
        exact goesOn_dispatch bodies room
      simp only
      rw [outcome_text_eq, scanTag_eq, upTo_place, place, Nat.zero_add]
      cases here : itemAt source (place 0 source (j + 2)) with
      | error fault =>
        rw [here] at goesOn
        exact goesOn
      | ok result =>
        obtain ⟨item, after⟩ := result
        have shorter := itemAt_shorter here
        rw [here] at goesOn
        obtain ⟨tagStart', keyStart', keyEnd', k, inside', rfl, same'⟩ := goesOn
        simp only [place, List.length_drop] at shorter
        rw [same', outcome_item_eq]
        cases compiled : compileItem load options levels item with
        | error error =>
          rw [tokenOf, compiled]
          rfl
        | ok token =>
          rw [tokenOf, compiled]
          change complete load nested source _ = _
          rw [ih _ (by omega) inside' _ _ _ _ rfl]
          cases outcome load options levels (Outline.scan source (place 0 source k)) with
          | error error => rfl
          | ok later =>
            change Except.ok _ = Except.ok (_ ++ (_ ++ _))
            simp only [List.append_assoc, List.singleton_append]

end Reader

variable {load : Loader} {options : Options} {levels : Nat} {source : Bytes}

theorem compileFrom_agrees (bounded : options.maxDepth < Options.maxSize) {depth : Nat}
    (counted : depth + levels = options.maxDepth + 1) :
    compileFrom load options depth source =
      (compileAt load options levels source).mapError .refused := by
  induction levels generalizing depth source with
  | zero =>
    rw [compileFrom_eq, if_pos (by omega)]
    rfl
  | succ levels ih =>
    have bodies (body : Bytes) : compileBody load options depth body =
        (compileAt load options levels body).mapError .refused := by
      rw [compileBody, if_pos (by omega)]
      exact ih (by omega)
    have start : Outline.ofSource source = Outline.scan source (place 0 source 0) := rfl
    rw [compileFrom_eq, if_neg (by omega), compileAt_succ, start,
      Reader.complete_agrees bodies (Nat.zero_le _)]
    cases outcome load options levels (Outline.scan source (place 0 source 0)) <;> rfl

theorem compileBody_agrees (bounded : options.maxDepth < Options.maxSize) {depth : Nat}
    (counted : depth + levels = options.maxDepth) :
    compileBody load options depth source =
      (compileAt load options levels source).mapError .refused := by
  rw [compileBody, if_pos (by omega)]
  exact compileFrom_agrees bounded (by omega)

theorem compileFrom_eq_compile (bounded : options.maxDepth < Options.maxSize) :
    compileFrom load options 0 source =
      (Template.compile load options source).mapError .refused :=
  compileFrom_agrees bounded (Nat.zero_add _)

end Mustache.Proofs.Offsets
