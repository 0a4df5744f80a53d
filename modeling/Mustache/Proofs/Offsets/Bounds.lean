import Mustache.Proofs.Offsets.Readers

namespace Mustache.Proofs.Offsets
open Grammar

section

variable {source : Bytes} {i start : Nat} {b : UInt8}

theorem lt_of_getElem? (there : source[i]? = some b) : i < source.length :=
  (List.getElem?_eq_some_iff.mp there).1

theorem between_self (source : Bytes) (i : Nat) : between source i i = [] :=
  List.drop_eq_nil_of_le (List.length_take_le _ _)

theorem between_succ (there : source[i]? = some b) (le : start ≤ i) :
    between source start (i + 1) = between source start i ++ [b] := by
  have inside := lt_of_getElem? there
  have front : start ≤ (source.take i).length := by
    rwa [List.length_take_of_le (Nat.le_of_lt inside)]
  rw [between, between, List.take_add_one, there, Option.toList_some,
    List.drop_append_of_le_length front]

theorem between_length (source : Bytes) (start : Nat) :
    between source start source.length = source.drop start := by
  rw [between, List.take_length]

theorem slice_of_le {stop : Nat} (ordered : start ≤ stop) (inside : stop ≤ source.length) :
    slice source start stop = .ok (between source start stop) := if_pos ⟨ordered, inside⟩

theorem slice_ok {stop : Nat} {bytes : Bytes} (cut : slice source start stop = .ok bytes) :
    start ≤ stop ∧ stop ≤ source.length ∧ bytes = between source start stop := by
  unfold slice at cut
  split at cut
  · next bounds =>
    cases cut
    exact ⟨bounds.1, bounds.2, rfl⟩
  · cases cut

end

theorem IsName.snoc {first later : UInt8 → Bool} {name : Bytes} {b : UInt8}
    (isName : IsName first later name) (goesOn : later b = true) :
    IsName first later (name ++ [b]) := by
  cases name with
  | nil => exact isName.elim
  | cons c name =>
    refine ⟨isName.1, fun d member => ?_⟩
    rcases List.mem_append.mp member with earlier | last
    · exact isName.2 d earlier
    · rwa [List.mem_singleton.mp last]

/-! ## The search for the end of a block -/

structure Scan.Sound (source : Bytes) (i : Nat) (scan : Scan) : Prop where
  level_pos : 1 ≤ scan.level
  level_le : scan.level ≤ i + 1
  inside : i ≤ source.length
  tag : scan.phase ≠ .text → scan.tagStart < i
  key : scan.phase = .closeKey →
    scan.keyStart < i ∧ IsName isKeyByte isKeyByte (between source scan.keyStart i)
  name : scan.phase = .closeEnd ∨ scan.phase = .closing →
    scan.keyStart < scan.keyEnd ∧ scan.keyEnd ≤ i ∧
      IsName isKeyByte isKeyByte (between source scan.keyStart scan.keyEnd)

def Verdict.Sound (source : Bytes) (i : Nat) : Verdict → Prop
  | .more scan => scan.Sound source i
  | .found body consumed => body < consumed ∧ consumed ≤ source.length

namespace Scan

variable {key : String} {source : Bytes} {i : Nat} {scan : Scan} {b : UInt8}

theorem sound_start (source : Bytes) : Sound source 0 {} :=
  ⟨Nat.le_refl 1, Nat.le_refl 1, Nat.zero_le _, absurd rfl, nofun, nofun⟩

theorem Sound.keep (sound : Sound source i scan) (there : source[i]? = some b) {phase : ScanPhase}
    (inTag : phase ≠ .text → scan.phase ≠ .text) (plain : phase ≠ .closeKey)
    (named : phase = .closeEnd ∨ phase = .closing →
      scan.phase = .closeEnd ∨ scan.phase = .closing) :
    Sound source (i + 1) { scan with phase } where
  level_pos := sound.level_pos
  level_le := Nat.le_succ_of_le sound.level_le
  inside := lt_of_getElem? there
  tag other := Nat.lt_succ_of_lt (sound.tag (inTag other))
  key same := absurd same plain
  name ended := by
    obtain ⟨ordered, behind, isName⟩ := sound.name (named ended)
    exact ⟨ordered, Nat.le_succ_of_le behind, isName⟩

theorem Sound.endKey (sound : Sound source i scan) (there : source[i]? = some b)
    (here : scan.phase = .closeKey) {phase : ScanPhase}
    (ended : phase = .closeEnd ∨ phase = .closing) :
    Sound source (i + 1) { scan with phase, keyEnd := i } where
  level_pos := sound.level_pos
  level_le := Nat.le_succ_of_le sound.level_le
  inside := lt_of_getElem? there
  tag _ := Nat.lt_succ_of_lt (sound.tag (by simp [here]))
  key same := by
    rcases ended with rfl | rfl <;> cases same
  name _ := by
    obtain ⟨behind, isName⟩ := sound.key here
    exact ⟨behind, Nat.le_succ i, isName⟩

theorem Sound.level (sound : Sound source i scan) (there : source[i]? = some b) {level : Nat}
    (positive : 1 ≤ level) (grown : level ≤ scan.level + 1) :
    Sound source (i + 1) { scan with phase := .text, level } where
  level_pos := positive
  level_le := Nat.le_trans grown (Nat.succ_le_succ sound.level_le)
  inside := lt_of_getElem? there
  tag := absurd rfl
  key := nofun
  name := nofun

theorem Sound.closing (sound : Sound source i scan) (here : scan.phase = .closing) :
    minus scan.level 1 = .ok (scan.level - 1) ∧
      slice source scan.keyStart scan.keyEnd =
        .ok (between source scan.keyStart scan.keyEnd) := by
  obtain ⟨ordered, behind, -⟩ := sound.name (.inr here)
  have inside := Nat.le_trans behind sound.inside
  exact ⟨if_pos sound.level_pos, slice_of_le (Nat.le_of_lt ordered) inside⟩

theorem Sound.close (sound : Sound source i scan) (there : source[i]? = some b)
    (here : scan.phase = .closing) {verdict : Verdict}
    (read : scan.close key source i = .ok verdict) : verdict.Sound source (i + 1) := by
  obtain ⟨level, lowered, read⟩ := bind_eq_ok.mp read
  cases minus_ok lowered
  split at read
  · obtain ⟨name, -, read⟩ := bind_eq_ok.mp read
    split at read
    · cases read
      exact ⟨Nat.lt_succ_of_lt (sound.tag (by simp [here])), lt_of_getElem? there⟩
    · cases read
  · next inner =>
    cases read
    exact sound.level there (Nat.one_le_iff_ne_zero.mpr inner) (by omega)

theorem Sound.step (sound : Sound source i scan) (there : source[i]? = some b) {verdict : Verdict}
    (read : scan.step key source i b = .ok verdict) : verdict.Sound source (i + 1) := by
  have toText : Sound source (i + 1) { scan with phase := .text } :=
    sound.keep there (absurd rfl) nofun nofun
  have stays (plain : scan.phase ≠ .closeKey) : Sound source (i + 1) scan :=
    sound.keep there id plain id
  unfold Scan.step at read
  split at read
  · next here =>
    split at read
    · cases read
      exact ⟨sound.level_pos, Nat.le_succ_of_le sound.level_le, lt_of_getElem? there,
        fun _ => Nat.lt_succ_self i, nofun, nofun⟩
    · cases read
      exact stays (by simp [here])
  · next here =>
    cases read
    split
    · exact sound.keep there (fun _ => by simp [here]) nofun nofun
    · exact toText
  · next here =>
    split at read
    · cases read
      exact sound.level there (Nat.le_succ_of_le sound.level_pos) (Nat.le_refl _)
    split at read
    · cases read
      exact sound.keep there (fun _ => by simp [here]) nofun nofun
    split at read
    · cases read
      exact stays (by simp [here])
    · cases read
      exact toText
  · next here =>
    split at read
    · next starts =>
      cases read
      refine ⟨sound.level_pos, Nat.le_succ_of_le sound.level_le, lt_of_getElem? there,
        fun _ => Nat.lt_succ_of_lt (sound.tag (by simp [here])), fun _ => ?_, nofun⟩
      refine ⟨Nat.lt_succ_self i, ?_⟩
      rw [between_succ there (Nat.le_refl i), between_self]
      exact ⟨starts, nofun⟩
    split at read
    · cases read
      exact stays (by simp [here])
    · cases read
      exact toText
  · next here =>
    split at read
    · next goesOn =>
      cases read
      obtain ⟨behind, isName⟩ := sound.key here
      refine ⟨sound.level_pos, Nat.le_succ_of_le sound.level_le, lt_of_getElem? there,
        fun other => Nat.lt_succ_of_lt (sound.tag other), fun _ => ?_, by simp [here]⟩
      refine ⟨Nat.lt_succ_of_lt behind, ?_⟩
      rw [between_succ there (Nat.le_of_lt behind)]
      exact IsName.snoc isName goesOn
    split at read
    · cases read
      exact sound.endKey there here (.inl rfl)
    split at read
    · cases read
      exact sound.endKey there here (.inr rfl)
    · cases read
      exact toText
  · next here =>
    split at read
    · cases read
      exact sound.keep there (fun _ => by simp [here]) nofun (fun _ => .inl here)
    split at read
    · cases read
      exact stays (by simp [here])
    · cases read
      exact toText
  · next here =>
    split at read
    · exact sound.close there here read
    · cases read
      exact toText

inductive Reached (key : String) (source : Bytes) : Nat → Scan → Prop
  | start : Reached key source 0 {}
  | step {i : Nat} {scan next : Scan} {b : UInt8} : Reached key source i scan →
      source[i]? = some b → scan.step key source i b = .ok (.more next) →
      Reached key source (i + 1) next

theorem Reached.sound (reached : Reached key source i scan) : Sound source i scan := by
  induction reached with
  | start => exact sound_start source
  | step _ there read ih => exact ih.step there read

theorem run_bounds (sound : Sound source i scan) {body consumed : Nat}
    (found : scan.run key source i (source.drop i) = .ok (body, consumed)) :
    body < consumed ∧ consumed ≤ source.length := by
  generalize behind : source.drop i = rest at found
  induction rest generalizing scan i with
  | nil => cases found
  | cons b rest ih =>
    obtain ⟨verdict, read, found⟩ := bind_eq_ok.mp found
    have there : source[i]? = some b := by
      rw [← List.head?_drop, behind, List.head?_cons]
    have next := sound.step there read
    cases verdict with
    | more scan => exact ih next (by rw [← List.tail_drop, behind, List.tail_cons]) found
    | found =>
      cases found
      exact next

theorem find_bounds {body consumed : Nat} (found : find key source = .ok (body, consumed)) :
    body < consumed ∧ consumed ≤ source.length :=
  run_bounds (sound_start source) found

end Scan

/-! ## The reader -/

namespace Reader

structure Sound (source : Bytes) (r : Reader) : Prop where
  start_le : r.start ≤ r.idx
  inside : r.idx ≤ source.length
  tag : r.phase ≠ .literal → r.start ≤ r.tagStart ∧ r.tagStart < r.idx
  key : ∀ kind, r.phase = .key kind →
    r.keyStart < r.idx ∧ IsName kind.starts kind.accepts (between source r.keyStart r.idx)
  name : ∀ kind, r.phase.named? = some kind →
    r.keyStart < r.keyEnd ∧ r.keyEnd ≤ r.idx ∧
      IsName kind.starts kind.accepts (between source r.keyStart r.keyEnd)

variable {load : Loader} {nested : Bytes → Except Halt Template} {source : Bytes} {r next : Reader}
  {b : UInt8}

theorem sound_start (source : Bytes) : Sound source {} :=
  ⟨Nat.le_refl 0, Nat.zero_le _, absurd rfl, nofun, nofun⟩

theorem sound_resume {token : Token} (inside : r.idx ≤ source.length) :
    Sound source (r.resume token) :=
  ⟨Nat.le_refl _, inside, absurd rfl, nofun, nofun⟩

theorem Sound.move (sound : Sound source r) (there : source[r.idx]? = some b)
    (moves : Moves source { r with idx := r.idx + 1 } b next) : Sound source next := by
  have inside := lt_of_getElem? there
  have start := Nat.le_succ_of_le sound.start_le
  have tag (other : r.phase ≠ .literal) : r.start ≤ r.tagStart ∧ r.tagStart < r.idx + 1 := by
    obtain ⟨behind, before⟩ := sound.tag other
    exact ⟨behind, Nat.lt_succ_of_lt before⟩
  cases moves with
  | turned inTag plain named =>
    refine ⟨start, inside, fun other => tag (inTag other),
      fun kind same => absurd same (plain kind), fun kind same => ?_⟩
    obtain ⟨ordered, behind, isName⟩ := sound.name kind (named kind same)
    exact ⟨ordered, Nat.le_succ_of_le behind, isName⟩
  | braced => exact ⟨start, inside, fun _ => ⟨sound.start_le, Nat.lt_succ_self _⟩, nofun, nofun⟩
  | opened here =>
    have brace : r.phase = .brace := here
    exact ⟨start, inside, fun _ => tag (by simp [brace]), nofun, nofun⟩
  | @begun kind inTag starts =>
    refine ⟨start, inside, fun _ => tag inTag, fun other same => ?_, nofun⟩
    cases same
    refine ⟨Nat.lt_succ_self _, ?_⟩
    change IsName kind.starts kind.accepts (between source r.idx (r.idx + 1))
    rw [between_succ there (Nat.le_refl _), between_self]
    exact ⟨starts, nofun⟩
  | @continued kind here accepts =>
    have name : r.phase = .key kind := here
    refine ⟨start, inside, tag, fun other same => ?_, fun other named => ?_⟩
    · cases here.symm.trans same
      obtain ⟨behind, isName⟩ := sound.key kind here
      refine ⟨Nat.lt_succ_of_lt behind, ?_⟩
      rw [between_succ there (Nat.le_of_lt behind)]
      exact IsName.snoc isName accepts
    · change r.phase.named? = _ at named
      rw [name] at named
      cases named
  | @ended kind phase here named =>
    have name : r.phase = .key kind := here
    refine ⟨start, inside, fun _ => tag (by simp [name]), fun other same => ?_,
      fun other same => ?_⟩
    · change phase = _ at same
      subst same
      cases named
    · cases named.symm.trans same
      obtain ⟨behind, isName⟩ := sound.key kind here
      exact ⟨behind, Nat.le_succ _, isName⟩
  | resumed => exact sound_resume inside
  | passed cut found =>
    obtain ⟨-, -, rfl⟩ := slice_ok cut
    have bound := (Scan.find_bounds found).2
    rw [between_length, List.length_drop] at bound
    apply sound_resume
    simp only at bound ⊢
    omega

theorem Sound.advance (sound : Sound source r) (read : r.advance load nested source = .ok next) :
    Sound source next := by
  obtain ⟨b, there, moves⟩ := advance_ok read
  exact sound.move there moves

inductive Reached (load : Loader) (nested : Bytes → Except Halt Template) (source : Bytes) :
    Reader → Prop
  | start : Reached load nested source {}
  | advance {r next : Reader} : Reached load nested source r →
      r.advance load nested source = .ok next → Reached load nested source next

theorem Reached.sound (reached : Reached load nested source r) : Sound source r := by
  induction reached with
  | start => exact sound_start source
  | advance _ read ih => exact ih.advance read

end Reader

end Mustache.Proofs.Offsets
