import Mustache.Proofs.Grammar.Reading

/-!
# Reading by offsets

A source can be compiled in one pass over its bytes that keeps five offsets into it: the place
reached, the start of the text that is still to be cut out, the braces of the tag being read, and
the ends of the name in it. The search for the end of a block is a second such pass, with offsets of
its own. Offsets that mean nothing in a phase keep what an earlier tag left in them.

Here both passes check each index, range and difference before they use it (`byteAt`, `slice`,
`minus`), and a depth is raised only where that gives a word again (`compileBody`). A check that
fails is a halt of its own, so the passes say what compiling by offsets relies on. Offsets and
levels that only grow are not checked: they are counts of bytes that were read.

Main statement: every step of the reader moves on (`idx_lt_of_advance`), which bounds the pass.
-/

namespace Mustache.Proofs.Offsets
open Grammar

inductive Halt where
  | refused (error : SyntaxError)
  -- An index, a range or a counter left its bounds.
  | outOfRange
  deriving DecidableEq, Repr

def Halt.within (path : String) : Halt → Halt
  | .refused error => .refused (error.within path)
  | .outOfRange => .outOfRange

def byteAt (bytes : Bytes) (i : Nat) : Except Halt UInt8 :=
  match bytes[i]? with
  | some b => .ok b
  | none => .error .outOfRange

def between (bytes : Bytes) (start stop : Nat) : Bytes := (bytes.take stop).drop start

def slice (bytes : Bytes) (start stop : Nat) : Except Halt Bytes :=
  if start ≤ stop ∧ stop ≤ bytes.length then .ok (between bytes start stop) else .error .outOfRange

def minus (a b : Nat) : Except Halt Nat := if b ≤ a then .ok (a - b) else .error .outOfRange

theorem minus_ok {a b c : Nat} (difference : minus a b = .ok c) : c = a - b := by
  unfold minus at difference
  split at difference <;> cases difference
  rfl

def snippet (consumed : Bytes) : Except Halt String :=
  if 32 < consumed.length then do
    let start ← minus consumed.length 32
    return Utf8.decodeLossy (← slice consumed start consumed.length)
  else return Utf8.decodeLossy consumed

def strayKey (rest : Bytes) : Except Halt String := do
  let key ← slice rest 0 (rest.findIdx (· == closeBrace))
  return Text.trim (Utf8.decodeLossy key)

/-! ## The end of a block -/

inductive ScanPhase where
  | text
  | brace
  | marker
  | closeStart
  | closeKey
  | closeEnd
  | closing
  deriving DecidableEq, Repr

structure Scan where
  phase : ScanPhase := .text
  level : Nat := 1
  tagStart : Nat := 0
  keyStart : Nat := 0
  keyEnd : Nat := 0
  deriving DecidableEq, Repr

inductive Verdict where
  | more (scan : Scan)
  | found (body consumed : Nat)
  deriving DecidableEq, Repr

namespace Scan

section

variable (key : String) (source : Bytes)

def name (scan : Scan) : Except Halt String := do
  return Utf8.decodeLossy (← slice source scan.keyStart scan.keyEnd)

def close (scan : Scan) (i : Nat) : Except Halt Verdict := do
  let level ← minus scan.level 1
  if level = 0 then
    let closed ← scan.name source
    if closed = key then return .found scan.tagStart (i + 1)
    else throw (.refused (.mismatchedClose key closed))
  else return .more { scan with phase := .text, level }

def step (scan : Scan) (i : Nat) (b : UInt8) : Except Halt Verdict :=
  match scan.phase with
  | .text =>
    if b = openBrace then return .more { scan with phase := .brace, tagStart := i }
    else return .more scan
  | .brace => return .more { scan with phase := if b = openBrace then .marker else .text }
  | .marker =>
    if b = hashMark ∨ b = caretMark then
      return .more { scan with phase := .text, level := scan.level + 1 }
    else if b = slashMark then return .more { scan with phase := .closeStart }
    else if isBlank b then return .more scan
    else return .more { scan with phase := .text }
  | .closeStart =>
    if isKeyByte b then return .more { scan with phase := .closeKey, keyStart := i }
    else if isBlank b then return .more scan
    else return .more { scan with phase := .text }
  | .closeKey =>
    if isKeyByte b then return .more scan
    else if isBlank b then return .more { scan with phase := .closeEnd, keyEnd := i }
    else if b = closeBrace then return .more { scan with phase := .closing, keyEnd := i }
    else return .more { scan with phase := .text }
  | .closeEnd =>
    if b = closeBrace then return .more { scan with phase := .closing }
    else if isBlank b then return .more scan
    else return .more { scan with phase := .text }
  | .closing =>
    if b = closeBrace then scan.close key source i
    else return .more { scan with phase := .text }

def run (scan : Scan) (i : Nat) : Bytes → Except Halt (Nat × Nat)
  | [] => .error (.refused (.unterminatedBlock key))
  | b :: rest => do
    match ← scan.step key source i b with
    | .more next => next.run (i + 1) rest
    | .found body consumed => return (body, consumed)

def find : Except Halt (Nat × Nat) := run key source {} 0 source

end

end Scan

/-! ## The source of a template -/

inductive TagKind where
  | value
  | raw
  | opening (polarity : Polarity)
  | inclusion
  deriving DecidableEq, Repr

def TagKind.starts : TagKind → UInt8 → Bool
  | .inclusion => isPathByte
  | .value | .raw | .opening _ => isKeyStart

def TagKind.accepts : TagKind → UInt8 → Bool
  | .inclusion => isPathByte
  | .value | .raw | .opening _ => isKeyByte

inductive Phase where
  | literal
  | brace
  | dispatch
  | keyStart (kind : TagKind)
  | key (kind : TagKind)
  | keyEnd (kind : TagKind)
  | closing (kind : TagKind)
  | rawClosing
  deriving DecidableEq, Repr

def Phase.named? : Phase → Option TagKind
  | .keyEnd kind | .closing kind => some kind
  | .rawClosing => some .raw
  | _ => none

structure Reader where
  phase : Phase := .literal
  idx : Nat := 0
  start : Nat := 0
  tagStart : Nat := 0
  keyStart : Nat := 0
  keyEnd : Nat := 0
  tokens : List Token := []
  deriving DecidableEq

namespace Reader

section

variable (load : Loader) (nested : Bytes → Except Halt Template) (source : Bytes)

def flush (stop : Nat) (r : Reader) : Except Halt (List Token) :=
  if r.start < stop then do
    let text ← slice source r.start stop
    return r.tokens ++ [.literal r.start text]
  else return r.tokens

def name (r : Reader) : Except Halt String := do
  return Utf8.decodeLossy (← slice source r.keyStart r.keyEnd)

def malformed {α : Type} (r : Reader) : Except Halt α := do
  let near ← snippet (← slice source 0 r.idx)
  throw (.refused (.malformedTag near))

def beginKey (kind : TagKind) (r : Reader) : Except Halt Reader := do
  let keyStart ← minus r.idx 1
  return { r with phase := .key kind, keyStart }

def endKey (phase : Phase) (r : Reader) : Except Halt Reader := do
  let keyEnd ← minus r.idx 1
  return { r with phase, keyEnd }

def resume (token : Token) (r : Reader) : Reader :=
  { r with phase := .literal, start := r.idx, tokens := r.tokens ++ [token] }

def value (escaped : Bool) (r : Reader) : Except Halt Reader := do
  return r.resume (.value (← r.name source) escaped)

def block (polarity : Polarity) (r : Reader) : Except Halt Reader := do
  let key ← r.name source
  let rest ← slice source r.idx source.length
  let (body, consumed) ← Scan.find key rest
  let template ← nested (← slice rest 0 body)
  return { r with idx := r.idx + consumed }.resume (.block polarity key template)

def inclusion (r : Reader) : Except Halt Reader := do
  let path ← r.name source
  if Path.isInside path.toList then
    match load path with
    | .error reason => throw (.refused (.unreadablePartial path reason))
    | .ok text =>
      let body ← (nested text).mapError (·.within path)
      return r.resume (.inclusion path body)
  else throw (.refused (.refusedPath path))

def dispatch (r : Reader) (b : UInt8) : Except Halt Reader :=
  if b = openBrace then return { r with phase := .keyStart .raw }
  else if b = hashMark then return { r with phase := .keyStart (.opening .positive) }
  else if b = caretMark then return { r with phase := .keyStart (.opening .inverted) }
  else if b = angleMark then return { r with phase := .keyStart .inclusion }
  else if b = slashMark then do
    let key ← strayKey (← slice source r.idx source.length)
    throw (.refused (.unexpectedClose key))
  else if isBlank b then return r
  else if isKeyStart b then r.beginKey .value
  else r.malformed source

def close (kind : TagKind) (r : Reader) : Except Halt Reader :=
  match kind with
  | .raw => return { r with phase := .rawClosing }
  | .value => r.value source true
  | .opening polarity => r.block nested source polarity
  | .inclusion => r.inclusion load nested source

def step (r : Reader) (b : UInt8) : Except Halt Reader :=
  match r.phase with
  | .literal =>
    if b = openBrace then do
      let tagStart ← minus r.idx 1
      return { r with phase := .brace, tagStart }
    else return r
  | .brace =>
    if b = openBrace then do
      let tokens ← r.flush source r.tagStart
      return { r with phase := .dispatch, tokens }
    else return { r with phase := .literal }
  | .dispatch => r.dispatch source b
  | .keyStart kind =>
    if isBlank b then return r
    else if kind.starts b then r.beginKey kind
    else r.malformed source
  | .key kind =>
    if kind.accepts b then return r
    else if isBlank b then r.endKey (.keyEnd kind)
    else if b = closeBrace then r.endKey (.closing kind)
    else r.malformed source
  | .keyEnd kind =>
    if b = closeBrace then return { r with phase := .closing kind }
    else if isBlank b then return r
    else r.malformed source
  | .closing kind =>
    if b = closeBrace then r.close load nested source kind else r.malformed source
  | .rawClosing => if b = closeBrace then r.value source false else r.malformed source

def advance (r : Reader) : Except Halt Reader := do
  let b ← byteAt source r.idx
  { r with idx := r.idx + 1 }.step load nested source b

def finish (r : Reader) : Except Halt (List Token) :=
  match r.phase with
  | .literal | .brace => r.flush source source.length
  | _ => do throw (.refused (.unterminatedTag (← snippet source)))

end

/-! ## What a step does -/

inductive Moves (source : Bytes) (r : Reader) (b : UInt8) : Reader → Prop
  -- No offset changes, and the phase needs no more of them than the one before.
  | turned {phase : Phase} : (phase ≠ .literal → r.phase ≠ .literal) →
      (∀ kind, phase ≠ .key kind) →
      (∀ kind, phase.named? = some kind → r.phase.named? = some kind) →
      Moves source r b { r with phase }
  | braced : r.phase = .literal → Moves source r b { r with phase := .brace, tagStart := r.idx - 1 }
  | opened {tokens : List Token} : r.phase = .brace →
      Moves source r b { r with phase := .dispatch, tokens }
  | begun {kind : TagKind} : r.phase ≠ .literal → kind.starts b = true →
      Moves source r b { r with phase := .key kind, keyStart := r.idx - 1 }
  | continued {kind : TagKind} : r.phase = .key kind → kind.accepts b = true → Moves source r b r
  | ended {kind : TagKind} {phase : Phase} : r.phase = .key kind → phase.named? = some kind →
      Moves source r b { r with phase, keyEnd := r.idx - 1 }
  | resumed {token : Token} : Moves source r b (r.resume token)
  | passed {token : Token} {key : String} {rest : Bytes} {body consumed : Nat} :
      slice source r.idx source.length = .ok rest → Scan.find key rest = .ok (body, consumed) →
      Moves source r b ({ r with idx := r.idx + consumed }.resume token)

section

variable {load : Loader} {nested : Bytes → Except Halt Template} {source : Bytes} {r next : Reader}
  {b : UInt8}

theorem not_malformed {α : Type} {a : α} : r.malformed source ≠ .ok a := by
  intro read
  obtain ⟨consumed, -, read⟩ := bind_eq_ok.mp read
  obtain ⟨near, -, read⟩ := bind_eq_ok.mp read
  cases read

theorem beginKey_ok {kind : TagKind} (read : r.beginKey kind = .ok next) :
    next = { r with phase := .key kind, keyStart := r.idx - 1 } := by
  obtain ⟨keyStart, difference, same⟩ := bind_eq_ok.mp read
  cases minus_ok difference
  exact (pure_eq_ok.mp same).symm

theorem endKey_ok {phase : Phase} (read : r.endKey phase = .ok next) :
    next = { r with phase, keyEnd := r.idx - 1 } := by
  obtain ⟨keyEnd, difference, same⟩ := bind_eq_ok.mp read
  cases minus_ok difference
  exact (pure_eq_ok.mp same).symm

theorem value_ok {escaped : Bool} (read : r.value source escaped = .ok next) :
    ∃ token, next = r.resume token := by
  obtain ⟨key, -, same⟩ := bind_eq_ok.mp read
  exact ⟨_, (pure_eq_ok.mp same).symm⟩

theorem block_ok {polarity : Polarity} (read : r.block nested source polarity = .ok next) :
    ∃ token key rest body consumed, slice source r.idx source.length = .ok rest ∧
      Scan.find key rest = .ok (body, consumed) ∧
      next = { r with idx := r.idx + consumed }.resume token := by
  obtain ⟨key, -, read⟩ := bind_eq_ok.mp read
  obtain ⟨rest, cut, read⟩ := bind_eq_ok.mp read
  obtain ⟨⟨body, consumed⟩, found, read⟩ := bind_eq_ok.mp read
  obtain ⟨content, -, read⟩ := bind_eq_ok.mp read
  obtain ⟨template, -, same⟩ := bind_eq_ok.mp read
  exact ⟨_, key, rest, body, consumed, cut, found, (pure_eq_ok.mp same).symm⟩

theorem inclusion_ok (read : r.inclusion load nested source = .ok next) :
    ∃ token, next = r.resume token := by
  obtain ⟨path, -, read⟩ := bind_eq_ok.mp read
  split at read
  · split at read
    · cases read
    · obtain ⟨body, -, same⟩ := bind_eq_ok.mp read
      exact ⟨_, (pure_eq_ok.mp same).symm⟩
  · cases read

theorem dispatch_moves (here : r.phase = .dispatch) (read : r.dispatch source b = .ok next) :
    Moves source r b next := by
  have turns {phase : Phase} (plain : ∀ kind, phase ≠ .key kind) (noName : phase.named? = none) :
      Moves source r b { r with phase } := by
    refine .turned (fun _ => by simp [here]) plain fun kind named => ?_
    rw [noName] at named
    cases named
  unfold dispatch at read
  split at read
  · cases read
    exact turns nofun rfl
  split at read
  · cases read
    exact turns nofun rfl
  split at read
  · cases read
    exact turns nofun rfl
  split at read
  · cases read
    exact turns nofun rfl
  split at read
  · obtain ⟨rest, -, read⟩ := bind_eq_ok.mp read
    obtain ⟨key, -, read⟩ := bind_eq_ok.mp read
    cases read
  split at read
  · cases read
    exact turns (by simp [here]) (by simp [here, Phase.named?])
  split at read
  · next starts =>
    rw [beginKey_ok read]
    exact .begun (by simp [here]) starts
  · exact absurd read not_malformed

theorem close_moves {kind : TagKind} (here : r.phase = .closing kind)
    (read : r.close load nested source kind = .ok next) : Moves source r b next := by
  unfold close at read
  split at read
  · cases read
    refine .turned (fun _ => by simp [here]) nofun fun kind named => ?_
    cases named
    simp [here, Phase.named?]
  · obtain ⟨token, rfl⟩ := value_ok read
    exact .resumed
  · obtain ⟨token, key, rest, body, consumed, cut, found, rfl⟩ := block_ok read
    exact .passed cut found
  · obtain ⟨token, rfl⟩ := inclusion_ok read
    exact .resumed

theorem moves_of_step (read : r.step load nested source b = .ok next) :
    Moves source r b next := by
  -- A phase in which nothing has been read of a name, behind one in which nothing has either.
  have turns {phase : Phase} (inTag : phase ≠ .literal → r.phase ≠ .literal)
      (plain : ∀ kind, phase ≠ .key kind)
      (same : phase.named? = none ∨ phase.named? = r.phase.named?) :
      Moves source r b { r with phase } := by
    refine .turned inTag plain fun kind named => ?_
    rcases same with none | same
    · rw [none] at named
      cases named
    · rw [← same, named]
  unfold step at read
  split at read
  · next here =>
    split at read
    · obtain ⟨tagStart, difference, same⟩ := bind_eq_ok.mp read
      cases minus_ok difference
      cases same
      exact .braced here
    · cases read
      exact turns id (by simp [here]) (.inr rfl)
  · next here =>
    split at read
    · obtain ⟨tokens, -, same⟩ := bind_eq_ok.mp read
      cases same
      exact .opened here
    · cases read
      exact turns (absurd rfl) nofun (.inl rfl)
  · next here => exact dispatch_moves here read
  · next kind here =>
    split at read
    · cases read
      exact turns id (by simp [here]) (.inr rfl)
    split at read
    · next starts =>
      rw [beginKey_ok read]
      exact .begun (by simp [here]) starts
    · exact absurd read not_malformed
  · next kind here =>
    split at read
    · next accepts =>
      cases read
      exact .continued here accepts
    split at read
    · rw [endKey_ok read]
      exact .ended here rfl
    split at read
    · rw [endKey_ok read]
      exact .ended here rfl
    · exact absurd read not_malformed
  · next kind here =>
    split at read
    · cases read
      exact turns (fun _ => by simp [here]) nofun (.inr (by rw [here]; rfl))
    split at read
    · cases read
      exact turns id (by simp [here]) (.inr rfl)
    · exact absurd read not_malformed
  · next kind here =>
    split at read
    · exact close_moves here read
    · exact absurd read not_malformed
  · next here =>
    split at read
    · obtain ⟨token, rfl⟩ := value_ok read
      exact .resumed
    · exact absurd read not_malformed

theorem Moves.idx_le (moves : Moves source r b next) : r.idx ≤ next.idx := by
  cases moves with
  | passed => exact Nat.le_add_right _ _
  | turned | braced | opened | begun | continued | ended | resumed => exact Nat.le_refl _

theorem advance_ok (read : r.advance load nested source = .ok next) :
    ∃ b, source[r.idx]? = some b ∧ Moves source { r with idx := r.idx + 1 } b next := by
  obtain ⟨b, there, read⟩ := bind_eq_ok.mp read
  refine ⟨b, ?_, moves_of_step read⟩
  unfold byteAt at there
  split at there <;> cases there
  assumption

theorem idx_lt_of_advance (read : r.advance load nested source = .ok next) : r.idx < next.idx := by
  obtain ⟨b, -, moves⟩ := advance_ok read
  exact moves.idx_le

end

set_option linter.unusedVariables false in
def complete (load : Loader) (nested : Bytes → Except Halt Template) (source : Bytes)
    (r : Reader) : Except Halt (List Token) :=
  if r.idx < source.length then
    match read : r.advance load nested source with
    | .error halt => .error halt
    | .ok next => next.complete load nested source
  else r.finish source
termination_by source.length - r.idx
decreasing_by
  have := idx_lt_of_advance read
  omega

end Reader

/-- Compiles a source that lies in `depth` bodies. Depths are words. -/
def compileFrom (load : Loader) (options : Options) (depth : Nat) (source : Bytes) :
    Except Halt Template :=
  if options.maxDepth < depth then .error (.refused (.tooDeep options.maxDepth))
  else do
    let nested (body : Bytes) : Except Halt Template :=
      if depth < Options.maxSize then compileFrom load options (depth + 1) body
      else .error .outOfRange
    return ⟨source, ← Reader.complete load nested source {}, options⟩
termination_by options.maxDepth + 1 - depth

def compileBody (load : Loader) (options : Options) (depth : Nat) (body : Bytes) :
    Except Halt Template :=
  if depth < Options.maxSize then compileFrom load options (depth + 1) body
  else .error .outOfRange

theorem compileFrom_eq (load : Loader) (options : Options) (depth : Nat) (source : Bytes) :
    compileFrom load options depth source =
      if options.maxDepth < depth then .error (.refused (.tooDeep options.maxDepth))
      else do
        let tokens ← Reader.complete load (compileBody load options depth) source {}
        return ⟨source, tokens, options⟩ := by
  rw [compileFrom]
  rfl

end Mustache.Proofs.Offsets
