import Mustache.Proofs.Offsets.Passes

/-!
# Nothing leaves its bounds

No check of an index, a range, a difference or the depth fails on the way from a source to its
template, and none would fail while the template is rendered. In the states between two bytes the
offsets in use lie in bounds, and where the name of a tag is cut out it is text as it stands
(`Scan.Safe`, `Reader.Safe`). In the tree, each template holds texts that are parts of its own
source, in order and apart from each other (`Cut`).

Main statement: `offsets_in_range`.
-/

namespace Mustache.Proofs.Offsets
open Grammar Stability

def InRange {α : Type} (result : Except Halt α) : Prop := result ≠ .error .outOfRange

theorem inRange_ok {α : Type} (a : α) : InRange (.ok a : Except Halt α) := nofun

theorem inRange_refused {α : Type} (error : SyntaxError) :
    InRange (.error (.refused error) : Except Halt α) := nofun

theorem inRange_mapError {α : Type} (result : Except SyntaxError α) :
    InRange (result.mapError .refused) := by
  cases result <;> nofun

def Named (p : UInt8 → Bool) (source : Bytes) (start stop : Nat) : Prop :=
  ∃ name, slice source start stop = .ok name ∧ name ≠ [] ∧ (∀ b ∈ name, p b = true) ∧
    Bytes.ofText (Utf8.decodeLossy name) = name

theorem named_of_isName {first later : UInt8 → Bool} {source : Bytes} {start stop : Nat}
    (starts : ∀ {b}, first b = true → later b = true)
    (goesOn : ∀ {b}, later b = true → isPathByte b = true) (ordered : start ≤ stop)
    (inside : stop ≤ source.length) (isName : IsName first later (between source start stop)) :
    Named later source start stop := by
  refine ⟨_, slice_of_le ordered inside, ?_⟩
  obtain ⟨path, text⟩ := decodeLossy_of_isName isName (fun first => goesOn (starts first)) goesOn
  rw [text]
  refine ⟨?_, ?_, ofText_nameText fun b member => isPathByte_ascii (path b member)⟩
  · intro none
    rw [none] at isName
    exact isName
  · cases name : between source start stop with
    | nil => exact nofun
    | cons b others =>
      rw [name] at isName
      exact List.forall_mem_cons.mpr ⟨starts isName.1, isName.2⟩

/-! ## The search for the end of a block -/

namespace Scan

variable {key : String} {source : Bytes} {i : Nat} {scan : Scan}

structure Safe (key : String) (source : Bytes) (i : Nat) (scan : Scan) : Prop where
  sound : scan.Sound source i
  closing : scan.phase = .closing → minus scan.level 1 = .ok (scan.level - 1) ∧
    scan.keyStart < scan.keyEnd ∧ scan.keyEnd ≤ source.length ∧
      Named isKeyByte source scan.keyStart scan.keyEnd
  step : ∀ b, source[i]? = some b → InRange (scan.step key source i b)

theorem inRange_open (other : scan.phase ≠ .closing) (b : UInt8) :
    InRange (scan.step key source i b) := by
  unfold Scan.step
  split
  case h_7 here => exact absurd here other
  all_goals
    repeat' split
    all_goals exact inRange_ok _

theorem Sound.inRange_close (sound : Sound source i scan) (here : scan.phase = .closing) :
    InRange (scan.close key source i) := by
  obtain ⟨lowered, cut⟩ := sound.closing here
  rw [Scan.close, lowered, Scan.name, cut]
  change InRange (if scan.level - 1 = 0 then (if _ = key then _ else _) else _)
  split
  · split
    · exact inRange_ok _
    · exact inRange_refused _
  · exact inRange_ok _

theorem Sound.inRange (sound : Sound source i scan) (b : UInt8) :
    InRange (scan.step key source i b) := by
  by_cases here : scan.phase = .closing
  · simp only [Scan.step, here]
    split
    · exact sound.inRange_close here
    · exact inRange_ok _
  · exact inRange_open here b

theorem Reached.safe (reached : Reached key source i scan) : Safe key source i scan where
  sound := reached.sound
  closing here := by
    have sound := reached.sound
    obtain ⟨ordered, behind, isName⟩ := sound.name (.inr here)
    have inside := Nat.le_trans behind sound.inside
    exact ⟨(sound.closing here).1, ordered, inside,
      named_of_isName id isPathByte_of_isKeyByte (Nat.le_of_lt ordered) inside isName⟩
  step b _ := reached.sound.inRange b

end Scan

namespace Reader

variable {load : Loader} {options : Options} {nested : Bytes → Except Halt Template}
  {source : Bytes} {r : Reader}

structure Safe (load : Loader) (nested : Bytes → Except Halt Template) (source : Bytes)
    (r : Reader) : Prop where
  sound : r.Sound source
  named : ∀ kind, r.phase.named? = some kind → Named kind.accepts source r.keyStart r.keyEnd
  block : ∀ key rest body consumed, slice source (r.idx + 1) source.length = .ok rest →
    Scan.find key rest = .ok (body, consumed) →
      body < consumed ∧ r.idx + 1 + consumed ≤ source.length
  advance : r.idx < source.length → InRange (r.advance load nested source)
  finish : InRange (r.finish source)

theorem Reached.complete_eq (reached : Reached load nested source r) :
    complete load nested source {} = complete load nested source r := by
  induction reached with
  | start => rfl
  | @advance r next _ read ih =>
    obtain ⟨b, there, -⟩ := advance_ok read
    have step : { r with idx := r.idx + 1 }.step load nested source b = .ok next := by
      rw [Reader.advance, byteAt, there] at read
      exact read
    rw [ih, Reader.complete_eq, there]
    simp only [step]
    rfl

theorem Reached.safe (whole : InRange (complete load nested source {}))
    (reached : Reached load nested source r) : Safe load nested source r where
  sound := reached.sound
  named kind named := by
    have sound := reached.sound
    obtain ⟨ordered, behind, isName⟩ := sound.name kind named
    exact named_of_isName TagKind.accepts_of_starts TagKind.isPathByte_of_accepts
      (Nat.le_of_lt ordered) (Nat.le_trans behind sound.inside) isName
  block key rest body consumed cut found := by
    obtain ⟨inside, -, rfl⟩ := slice_ok cut
    obtain ⟨ordered, bound⟩ := Scan.find_bounds found
    rw [between_length, List.length_drop] at bound
    exact ⟨ordered, by omega⟩
  advance inside read := by
    have there : source[r.idx]? = some source[r.idx] := List.getElem?_eq_getElem inside
    rw [Reader.advance, byteAt, there] at read
    change step load nested source _ _ = _ at read
    rw [reached.complete_eq, Reader.complete_eq, there] at whole
    simp only [read] at whole
    exact whole rfl
  finish := by
    have sound := reached.sound
    unfold Reader.finish
    split
    · rw [flush_eq (Nat.le_trans sound.start_le sound.inside) (Nat.le_refl _)]
      exact inRange_ok _
    · rw [flush_eq (Nat.le_trans sound.start_le sound.inside) (Nat.le_refl _)]
      exact inRange_ok _
    · rw [snippet_eq]
      exact inRange_refused _

theorem inRange_complete (bounded : options.maxDepth < Options.maxSize) {depth : Nat}
    (shallow : depth ≤ options.maxDepth) :
    InRange (complete load (compileBody load options depth) source {}) := by
  have bodies (body : Bytes) :
      compileBody load options depth body =
        (compileAt load options (options.maxDepth - depth) body).mapError .refused :=
    compileBody_agrees bounded (by omega)
  rw [complete_agrees bodies (Nat.zero_le _)]
  cases outcome load options (options.maxDepth - depth)
    (Outline.scan source (place 0 source 0)) <;> nofun

end Reader

/-! ## Text in templates -/

def range? : Token → Option (Nat × Nat)
  | .literal start text => some (start, start + text.length)
  | .value .. | .block .. | .inclusion .. => none

/-- The texts of tokens can be cut out of a source, one behind the other from an offset on. -/
structure Cut (source : Bytes) (first : Nat) (tokens : List Token) : Prop where
  inside : ∀ start text, Token.literal start text ∈ tokens →
    first ≤ start ∧ start < start + text.length ∧ start + text.length ≤ source.length ∧
      slice source start (start + text.length) = .ok text
  apart : (tokens.filterMap range?).Pairwise fun earlier later => earlier.2 ≤ later.1

section

variable {source : Bytes} {first : Nat} {tokens : List Token}

theorem cut_nil (source : Bytes) (first : Nat) : Cut source first [] :=
  ⟨fun _ _ member => absurd member List.not_mem_nil, .nil⟩

theorem Cut.tag (behind : Cut source first tokens) {token : Token} (tag : range? token = none)
    {before : Nat} (ordered : before ≤ first) : Cut source before (token :: tokens) where
  inside start text member := by
    rcases List.mem_cons.mp member with rfl | later
    · cases tag
    · obtain ⟨after, bounds⟩ := behind.inside start text later
      exact ⟨Nat.le_trans ordered after, bounds⟩
  apart := by
    rw [List.filterMap_cons_none tag]
    exact behind.apart

theorem Cut.text {text : Bytes} (behind : Cut source (first + text.length) tokens)
    (filled : text ≠ []) (cut : slice source first (first + text.length) = .ok text) :
    Cut source first (.literal first text :: tokens) where
  inside start text' member := by
    rcases List.mem_cons.mp member with same | later
    · cases same
      have length := List.length_pos_of_ne_nil filled
      exact ⟨Nat.le_refl _, Nat.lt_add_of_pos_right length, (slice_ok cut).2.1, cut⟩
    · obtain ⟨after, bounds⟩ := behind.inside start text' later
      exact ⟨Nat.le_trans (Nat.le_add_right _ _) after, bounds⟩
  apart := by
    change List.Pairwise _ ((first, first + text.length) :: tokens.filterMap range?)
    refine List.pairwise_cons.mpr ⟨fun range member => ?_, behind.apart⟩
    obtain ⟨token, listed, same⟩ := List.mem_filterMap.mp member
    cases token with
    | literal start later =>
      cases same
      exact (behind.inside start later listed).1
    | value | block | inclusion => cases same

end

theorem slice_append (before text behind : Bytes) :
    slice (before ++ (text ++ behind)) before.length (before.length + text.length) = .ok text := by
  rw [slice_of_le (Nat.le_add_right _ _) (by simp), between, ← List.append_assoc,
    ← List.length_append, List.take_left, List.drop_left]

theorem cut_of_derives {load : Loader} {options : Options} {start : Nat} {source : Bytes}
    {tokens : List Token} (derived : Derives load options start source tokens) {before : Bytes}
    (same : before.length = start) : Cut (before ++ source) start tokens := by
  -- With every piece the bytes in front grow, so offsets stay those of the whole source.
  induction derived generalizing before with
  | done => exact cut_nil _ _
  | @literal start text rest tokens filled _ _ _ _ ih =>
    subst same
    have behind := @ih (before ++ text) List.length_append
    rw [List.append_assoc] at behind
    exact behind.text filled (slice_append before text rest)
  | @value start tag rest key escaped tokens _ _ ih =>
    subst same
    have behind := @ih (before ++ (openTag ++ tag)) List.length_append
    rw [List.append_assoc] at behind
    exact behind.tag rfl (Nat.le_add_right _ _)
  | @block start opening body closing rest polarity key inner tokens _ _ _ _ _ _ ih =>
    subst same
    have behind := @ih (before ++ (openTag ++ opening ++ body ++ (openTag ++ closing)))
      List.length_append
    rw [List.append_assoc] at behind
    exact behind.tag rfl (Nat.le_add_right _ _)
  | @inclusion start tag rest path source inner tokens _ _ _ _ _ _ ih =>
    subst same
    have behind := @ih (before ++ (openTag ++ tag)) List.length_append
    rw [List.append_assoc] at behind
    exact behind.tag rfl (Nat.le_add_right _ _)

theorem cut_of_tree {load : Loader} {options : Options} {source : Bytes} {template : Template}
    (tree : TreeOf load options source template) : Cut template.source 0 template.tokens := by
  rw [tree.source_eq]
  exact cut_of_derives tree.derived (List.length_nil : ([] : Bytes).length = 0)

/-- Compiling by offsets is compiling, and no check fails: in every state that the reader or the
search for the end of a block reaches, what it goes on with lies in bounds, and in every template
of the tree the texts are parts of the source of that template, in order. -/
theorem offsets_in_range (load : Loader) (options : Options)
    (bounded : options.maxDepth < Options.maxSize) :
    (∀ source, InRange (compileFrom load options 0 source) ∧
      compileFrom load options 0 source =
        (Template.compile load options source).mapError .refused) ∧
    (∀ depth ≤ options.maxDepth, ∀ (source : Bytes) (r : Reader),
      r.Reached load (compileBody load options depth) source →
        r.Safe load (compileBody load options depth) source) ∧
    (∀ (key : String) (source : Bytes) (i : Nat) (scan : Scan),
      scan.Reached key source i → scan.Safe key source i) ∧
    ∀ (source : Bytes) (template : Template),
      Template.compile load options source = .ok template →
        ∀ inner ∈ template.all, Cut inner.source 0 inner.tokens := by
  refine ⟨fun source => ?_, fun depth shallow source r reached => ?_,
    fun key source i scan reached => reached.safe, fun source template compiled inner member => ?_⟩
  · have same : compileFrom load options 0 source = _ := compileFrom_eq_compile bounded
    exact ⟨same ▸ inRange_mapError _, same⟩
  · exact reached.safe (Reader.inRange_complete bounded shallow)
  · exact cut_of_tree ((compile_eq_ok_iff.mp compiled).1.inner member)

theorem offsets_in_range_block :
    let load : Loader := fun _ => .ok (Bytes.ofText "<\x7b\x7bv\x7d\x7d>")
    let given := Bytes.ofText "\x7b\x7b/ab c\x7d\x7d\x7b\x7b/x\x7d\x7d"
    let stale : Scan := ⟨.text, 1, 0, 3, 5⟩
    let page := Bytes.ofText "a\x7b\x7b#x\x7d\x7d--\x7b\x7b/x\x7d\x7db\x7b\x7b>p\x7d\x7d"
    let body : Template := ⟨Bytes.ofText "--", [.literal 0 (Bytes.ofText "--")], {}⟩
    let part : Template := ⟨Bytes.ofText "<\x7b\x7bv\x7d\x7d>",
      [.literal 0 (Bytes.ofText "<"), .value "v" true, .literal 6 (Bytes.ofText ">")], {}⟩
    let template : Template := ⟨page, [.literal 0 (Bytes.ofText "a"), .block .positive "x" body,
      .literal 15 (Bytes.ofText "b"), .inclusion "p" part], {}⟩
    let opening : Reader := ⟨.closing (.opening .positive), 6, 0, 1, 4, 5,
      [.literal 0 (Bytes.ofText "a")]⟩
    let nested := compileBody load {} 0
    Options.maxDepth {} < Options.maxSize ∧
      opening.Reached load nested page ∧ opening.Safe load nested page ∧
      stale.Reached "x" given 7 ∧ stale.Safe "x" given 7 ∧
      Scan.find "x" given = .ok (9, 15) ∧
      compileFrom load {} 0 page = .ok template ∧ Cut page 0 template.tokens ∧
      Cut body.source 0 body.tokens ∧ Cut part.source 0 part.tokens := by
  intro load given stale page body part template opening nested
  have bounded : Options.maxDepth {} < Options.maxSize := by decide
  obtain ⟨compiles, reads, searches, cuts⟩ := offsets_in_range load {} bounded
  have compiled : Template.compile load {} page = .ok template := by decide +kernel
  have reached : Scan.Reached "x" given 7 stale :=
    .step (.step (.step (.step (.step (.step (.step .start rfl rfl) rfl rfl) rfl rfl) rfl rfl)
      rfl rfl) rfl rfl) rfl rfl
  have opened : opening.Reached load nested page :=
    .advance (.advance (.advance (.advance (.advance (.advance .start rfl) rfl) rfl) rfl) rfl) rfl
  have same := (compiles page).2
  rw [compiled] at same
  have within := cuts page template compiled
  have block : Token.block .positive "x" body ∈ template.tokens := .tail _ (.head _)
  have partialTag : Token.inclusion "p" part ∈ template.tokens :=
    .tail _ (.tail _ (.tail _ (.head _)))
  refine ⟨bounded, opened, reads 0 (Nat.zero_le _) page opening opened, reached,
    searches "x" given 7 stale reached, rfl, same, ?_, ?_, ?_⟩
  · exact within template Template.mem_all_self
  · exact within body (Template.mem_all_of_body block rfl Template.mem_all_self)
  · exact within part (Template.mem_all_of_body partialTag rfl Template.mem_all_self)

end Mustache.Proofs.Offsets
