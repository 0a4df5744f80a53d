import Mustache.Bytes

/-!
# Recycling output buffers

Rendering needs room for its output. A pool keeps used buffers on shelves by the size of their
capacity, and hands them out again, emptied. A buffer is drawn from the smallest class that has the
room asked for, and is given back to the largest class that its capacity covers, so a class only
holds buffers with the room that the class promises.

Main statements: the class that a buffer is drawn from has the room asked for
(`le_capacity_ofHint`), and a buffer that was just made goes back to its own class
(`ofCapacity?_capacity`).
-/

namespace Mustache

structure Buffer where
  bytes : Bytes
  capacity : Nat
  fits : bytes.length ≤ capacity
  deriving DecidableEq, Repr

namespace Buffer

def ofCapacity (capacity : Nat) : Buffer := ⟨[], capacity, Nat.zero_le _⟩

def clear (buffer : Buffer) : Buffer := .ofCapacity buffer.capacity

def grown (buffer : Buffer) (more : Nat) : Nat :=
  if buffer.bytes.length + more ≤ buffer.capacity then buffer.capacity
  else max (2 * buffer.capacity) (max (buffer.bytes.length + more) 8)

theorem le_grown (buffer : Buffer) (more : Nat) :
    buffer.bytes.length + more ≤ buffer.grown more := by
  unfold grown
  split
  · assumption
  · omega

def reserve (buffer : Buffer) (more : Nat) : Buffer :=
  ⟨buffer.bytes, buffer.grown more, Nat.le_trans (Nat.le_add_right _ _) (buffer.le_grown more)⟩

def extend (buffer : Buffer) (more : Bytes) : Buffer :=
  ⟨buffer.bytes ++ more, buffer.grown more.length, by
    rw [List.length_append]
    exact buffer.le_grown more.length⟩

def truncate (buffer : Buffer) (n : Nat) : Buffer :=
  ⟨buffer.bytes.take n, buffer.capacity,
    Nat.le_trans (by simp only [List.length_take]; omega) buffer.fits⟩

def shrink (buffer : Buffer) : Buffer := ⟨buffer.bytes, buffer.bytes.length, Nat.le_refl _⟩

end Buffer

/-! ## Size classes -/

def classCount : Nat := 15

abbrev SizeClass := Fin classCount

namespace SizeClass

def leastLog : Nat := 6

def mostLog : Nat := 20

def leastCapacity : Nat := Nat.pow 2 leastLog

def mostCapacity : Nat := Nat.pow 2 mostLog

def capacity (size : SizeClass) : Nat := Nat.pow 2 (size.val + leastLog)

def ceilLog (n : Nat) : Nat := if n ≤ 1 then 0 else (n - 1).log2 + 1

theorem ceilLog_le_iff {n k : Nat} : ceilLog n ≤ k ↔ n ≤ Nat.pow 2 k := by
  have positive : 0 < Nat.pow 2 k := Nat.pow_pos Nat.two_pos
  unfold ceilLog
  split
  · omega
  · have below : (n - 1).log2 < k ↔ n - 1 < Nat.pow 2 k := Nat.log2_lt (by omega)
    omega

def ofHint (hint : Nat) : SizeClass :=
  ⟨min (max (ceilLog hint) leastLog) mostLog - leastLog, by
    simp only [classCount, leastLog, mostLog]
    omega⟩

theorem le_capacity_ofHint {hint : Nat} (possible : hint ≤ mostCapacity) :
    hint ≤ (ofHint hint).capacity := by
  have most : ceilLog hint ≤ mostLog := ceilLog_le_iff.mpr possible
  refine ceilLog_le_iff.mp ?_
  simp only [ofHint, leastLog, mostLog] at *
  omega

def ofCapacity? (capacity : Nat) : Option SizeClass :=
  if unkept : capacity < leastCapacity ∨ mostCapacity < capacity then none
  else
    some ⟨capacity.log2 - leastLog, by
      have least : leastCapacity = 64 := rfl
      have most : mostCapacity = 1048576 := rfl
      have below : capacity.log2 < 21 := (Nat.log2_lt (by omega)).mpr (by omega)
      simp only [classCount, leastLog]
      omega⟩

theorem ofCapacity?_capacity (size : SizeClass) : ofCapacity? size.capacity = some size := by
  have bound := size.isLt
  have low : leastCapacity ≤ size.capacity :=
    Nat.pow_le_pow_right Nat.two_pos (Nat.le_add_left _ _)
  have high : size.capacity ≤ mostCapacity :=
    Nat.pow_le_pow_right Nat.two_pos (by simp only [classCount, leastLog, mostLog] at *; omega)
  have kept : ¬(size.capacity < leastCapacity ∨ mostCapacity < size.capacity) := by omega
  simp only [ofCapacity?, dif_neg kept, Option.some.injEq, Fin.ext_iff]
  simp [capacity, Nat.log2_two_pow]

end SizeClass

structure BufferPool where
  perClass : Nat
  shelf : SizeClass → List Buffer

namespace BufferPool

def empty (perClass : Nat) : BufferPool := ⟨perClass, fun _ => []⟩

def idle (pool : BufferPool) : Nat := ((List.finRange classCount).flatMap pool.shelf).length

def setShelf (pool : BufferPool) (size : SizeClass) (buffers : List Buffer) : BufferPool :=
  ⟨pool.perClass, fun other => if other = size then buffers else pool.shelf other⟩

def take (pool : BufferPool) (hint : Nat) : Buffer × BufferPool :=
  let size := SizeClass.ofHint hint
  match pool.shelf size with
  | [] => (.ofCapacity size.capacity, pool)
  | buffer :: others => (buffer, pool.setShelf size others)

def giveBack (pool : BufferPool) (buffer : Buffer) : BufferPool :=
  match SizeClass.ofCapacity? buffer.capacity with
  | none => pool
  | some size =>
    if (pool.shelf size).length < pool.perClass then
      pool.setShelf size (buffer.clear :: pool.shelf size)
    else pool

end BufferPool

inductive BufferStep where
  | take (hint : Nat)
  | drop
  | extend (more : Bytes)
  | reserve (more : Nat)
  | truncate (length : Nat)
  | shrink
  | replace (capacity : Nat)
  deriving DecidableEq, Repr

structure BufferUse where
  pool : BufferPool
  held : List (String × Buffer)

namespace BufferUse

def buffer? (use : BufferUse) (name : String) : Option Buffer := use.held.lookup name

def hold (use : BufferUse) (name : String) (buffer : Option Buffer) : BufferUse :=
  let others := use.held.filter fun entry => entry.1 != name
  ⟨use.pool, match buffer with
    | some buffer => (name, buffer) :: others
    | none => others⟩

def changed (buffer : Buffer) : BufferStep → Buffer
  | .extend more => buffer.extend more
  | .reserve more => buffer.reserve more
  | .truncate length => buffer.truncate length
  | .shrink => buffer.shrink
  | .replace capacity => .ofCapacity capacity
  | .take _ | .drop => buffer

def step (use : BufferUse) (name : String) (action : BufferStep) : BufferUse :=
  match action, use.buffer? name with
  | .take hint, old =>
    let (buffer, pool) := use.pool.take hint
    let pool := match old with
      | some old => pool.giveBack old
      | none => pool
    BufferUse.hold ⟨pool, use.held⟩ name (some buffer)
  | _, none => use
  | .drop, some buffer => BufferUse.hold ⟨use.pool.giveBack buffer, use.held⟩ name none
  | action, some buffer => use.hold name (some (changed buffer action))

end BufferUse

end Mustache
