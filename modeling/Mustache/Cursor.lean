import Mustache.Bytes

/-!
# Reading a source from left to right

A cursor is a place in a source: the bytes after it, and how many lie before it. What a tag is made
of is read by two steps: bytes of a class are skipped, and a byte that must be there is taken. Both
the reader of tags and the search for the end of a block read names by `named`, so they agree on
what a name in a tag looks like; they differ only in what they do where reading stops.

Main statements: every step that succeeds or stops at a byte leaves less to read
(`named_shorter`, `stray_shorter`, `nextTag_shorter`), which bounds every loop over a source.
-/

namespace Mustache

structure Cursor where
  offset : Nat
  rest : Bytes
  deriving DecidableEq, Repr

inductive Stop where
  | ended
  | stray (after : Cursor)
  deriving DecidableEq, Repr

namespace Cursor

def start (source : Bytes) : Cursor := ⟨0, source⟩

def advance (n : Nat) (c : Cursor) : Cursor := ⟨c.offset + n, c.rest.drop n⟩

def skipWhile (p : UInt8 → Bool) (c : Cursor) : Cursor :=
  ⟨c.offset + (c.rest.takeWhile p).length, c.rest.dropWhile p⟩

def upTo (stop : Nat) (c : Cursor) : Bytes := c.rest.take (stop - c.offset)

def take (p : UInt8 → Bool) (c : Cursor) : Except Stop Cursor :=
  match c.rest with
  | [] => .error .ended
  | b :: rest => if p b then .ok ⟨c.offset + 1, rest⟩ else .error (.stray ⟨c.offset + 1, rest⟩)

def takeBraces : Nat → Cursor → Except Stop Cursor
  | 0, c => .ok c
  | n + 1, c => do takeBraces n (← c.take (· == closeBrace))

def named (first later : UInt8 → Bool) (braces : Nat) (c : Cursor) :
    Except Stop (String × Cursor) := do
  let head := c.skipWhile isBlank
  let tail := (← head.take first).skipWhile later
  let after ← (tail.skipWhile isBlank).takeBraces braces
  return (nameText (head.upTo tail.offset), after)

def marker? (c : Cursor) : Option (UInt8 × Cursor) :=
  match c.skipWhile isBlank with
  | ⟨_, []⟩ => none
  | ⟨offset, b :: rest⟩ => some (b, ⟨offset + 1, rest⟩)

def seekFrom : Nat → Bytes → Cursor
  | offset, b :: b' :: rest =>
    if b = openBrace ∧ b' = openBrace then ⟨offset, b :: b' :: rest⟩
    else seekFrom (offset + 1) (b' :: rest)
  | offset, rest => ⟨offset + rest.length, []⟩

/-- The next tag: the offset of its opening braces, and the cursor behind them. Everything up to
there is text; a brace that stands alone is text, too. -/
def nextTag? (c : Cursor) : Option (Nat × Cursor) :=
  match seekFrom c.offset c.rest with
  | ⟨offset, _ :: _ :: rest⟩ => some (offset, ⟨offset + 2, rest⟩)
  | _ => none

theorem skipWhile_shorter (p : UInt8 → Bool) (c : Cursor) :
    (c.skipWhile p).rest.length ≤ c.rest.length :=
  (List.dropWhile_suffix p).length_le

theorem take_shorter {p : UInt8 → Bool} {c after : Cursor} (taken : c.take p = .ok after) :
    after.rest.length < c.rest.length := by
  unfold take at taken
  split at taken
  · cases taken
  · next b rest equal =>
    split at taken
    · cases taken
      simp [equal]
    · cases taken

theorem take_stray_shorter {p : UInt8 → Bool} {c after : Cursor}
    (stopped : c.take p = .error (.stray after)) : after.rest.length < c.rest.length := by
  unfold take at stopped
  split at stopped
  · cases stopped
  · next b rest equal =>
    split at stopped
    · cases stopped
    · cases stopped
      simp [equal]

theorem takeBraces_shorter {n : Nat} {c after : Cursor} (taken : c.takeBraces n = .ok after) :
    after.rest.length ≤ c.rest.length := by
  induction n generalizing c with
  | zero =>
    cases taken
    exact Nat.le_refl _
  | succ n ih =>
    cases step : c.take (· == closeBrace) with
    | error stop => simp [takeBraces, step, bind, Except.bind] at taken
    | ok next =>
      have later : next.takeBraces n = .ok after := by
        simpa [takeBraces, step, bind, Except.bind] using taken
      exact Nat.le_trans (ih later) (Nat.le_of_lt (take_shorter step))

theorem takeBraces_stray_shorter {n : Nat} {c after : Cursor}
    (stopped : c.takeBraces n = .error (.stray after)) : after.rest.length < c.rest.length := by
  induction n generalizing c with
  | zero => cases stopped
  | succ n ih =>
    cases step : c.take (· == closeBrace) with
    | error stop =>
      have same : stop = .stray after := by
        simpa [takeBraces, step, bind, Except.bind] using stopped
      exact take_stray_shorter (same ▸ step)
    | ok next =>
      have later : next.takeBraces n = .error (.stray after) := by
        simpa [takeBraces, step, bind, Except.bind] using stopped
      exact Nat.lt_trans (ih later) (take_shorter step)

theorem named_shorter {first later : UInt8 → Bool} {braces : Nat} {c after : Cursor} {name : String}
    (read : c.named first later braces = .ok (name, after)) :
    after.rest.length < c.rest.length := by
  unfold named at read
  have blanks := skipWhile_shorter isBlank c
  cases head : (c.skipWhile isBlank).take first with
  | error stop => simp [head, bind, Except.bind] at read
  | ok next =>
    simp only [head, bind, Except.bind, pure, Except.pure] at read
    split at read
    · cases read
    · next closed =>
      cases read
      have := take_shorter head
      have := skipWhile_shorter later next
      have := skipWhile_shorter isBlank (next.skipWhile later)
      have := takeBraces_shorter closed
      omega

theorem stray_shorter {first later : UInt8 → Bool} {braces : Nat} {c after : Cursor}
    (stopped : c.named first later braces = .error (.stray after)) :
    after.rest.length < c.rest.length := by
  unfold named at stopped
  have blanks := skipWhile_shorter isBlank c
  cases head : (c.skipWhile isBlank).take first with
  | error stop =>
    have same : stop = .stray after := by simpa [head, bind, Except.bind] using stopped
    have := take_stray_shorter (same ▸ head)
    omega
  | ok next =>
    simp only [head, bind, Except.bind, pure, Except.pure] at stopped
    split at stopped
    · next closing =>
      cases stopped
      have := take_shorter head
      have := skipWhile_shorter later next
      have := skipWhile_shorter isBlank (next.skipWhile later)
      have := takeBraces_stray_shorter closing
      omega
    · cases stopped

theorem marker_shorter {c after : Cursor} {b : UInt8} (found : c.marker? = some (b, after)) :
    after.rest.length < c.rest.length := by
  have blanks := skipWhile_shorter isBlank c
  unfold marker? at found
  split at found
  · cases found
  · next equal =>
    cases found
    simp only [equal, List.length_cons] at blanks
    exact blanks

theorem seekFrom_shorter (offset : Nat) (bytes : Bytes) :
    (seekFrom offset bytes).rest.length ≤ bytes.length := by
  fun_induction seekFrom offset bytes with
  | case1 => exact Nat.le_refl _
  | case2 offset b b' rest other ih => exact Nat.le_trans ih (Nat.le_succ _)
  | case3 => exact Nat.zero_le _

theorem nextTag_shorter {c after : Cursor} {offset : Nat}
    (found : c.nextTag? = some (offset, after)) : after.rest.length < c.rest.length := by
  have bound := seekFrom_shorter c.offset c.rest
  unfold nextTag? at found
  split at found
  · next equal =>
    cases found
    simp only [equal, List.length_cons] at bound
    exact Nat.lt_of_lt_of_le (Nat.lt_add_of_pos_right Nat.two_pos) bound
  · cases found

end Cursor

end Mustache
