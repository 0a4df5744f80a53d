import Mathlib.Algebra.Group.Nat.Defs
import Mathlib.Order.Bounds.Defs
import Mustache.Options
import Mustache.Proofs.Pool.Shelves

/-!
# Size classes on words

The size classes are logarithms, which a machine counts in the bits of a word: the next power of two
is a run of ones and one more, its logarithm is the number of zeros behind its only one, and the
logarithm of a capacity is told by the zeros in front. Here this is done with a check at each step
that the number it should give fits (`convert?`, `plus?`, `minus?`, `shiftLeft?`).

* `nextPowerOfTwo?_eq_some_iff`: there is a next power of two exactly where it fits into a word.
* `ofHint?_eq`, `ofCapacity?_eq`: the checks hold for all words, and the classes are those of the
  pool.
* `ofHint?_capacityFor`: the hint for the output of a template is a word, however long its source.
* `classes_exact`: what the classes are, in powers of two.
-/

namespace Mustache

abbrev Word := BitVec 64

namespace Word

section

variable {n m : Nat}

def convert? (m : Nat) (a : BitVec n) : Option (BitVec m) :=
  if a.toNat < 2 ^ m then some (a.setWidth m) else none

def plus? (a b : BitVec n) : Option (BitVec n) :=
  if a.toNat + b.toNat < 2 ^ n then some (a + b) else none

def minus? (a b : BitVec n) : Option (BitVec n) := if b ≤ a then some (a - b) else none

def shiftLeft? (a : BitVec n) (k : BitVec m) : Option (BitVec n) :=
  if k.toNat < n ∧ a.toNat * 2 ^ k.toNat < 2 ^ n then some (a <<< k) else none

theorem convert?_eq_some_iff {a : BitVec n} {c : BitVec m} :
    convert? m a = some c ↔ c.toNat = a.toNat := by
  unfold convert?
  split
  · next fits =>
    rw [Option.some.injEq, ← BitVec.toNat_inj, BitVec.toNat_setWidth, Nat.mod_eq_of_lt fits,
      eq_comm]
  · next large =>
    have := c.isLt
    simp only [reduceCtorEq, false_iff]
    omega

theorem plus?_eq_some_iff {a b c : BitVec n} :
    plus? a b = some c ↔ c.toNat = a.toNat + b.toNat := by
  unfold plus?
  split
  · next fits =>
    rw [Option.some.injEq, ← BitVec.toNat_inj, BitVec.toNat_add, Nat.mod_eq_of_lt fits, eq_comm]
  · next large =>
    have := c.isLt
    simp only [reduceCtorEq, false_iff]
    omega

theorem minus?_eq_some_iff {a b c : BitVec n} :
    minus? a b = some c ↔ a.toNat = b.toNat + c.toNat := by
  unfold minus?
  split
  · next below =>
    rw [Option.some.injEq, ← BitVec.toNat_inj, BitVec.toNat_sub_of_le below]
    have := BitVec.le_def.mp below
    omega
  · next above =>
    have := mt BitVec.le_def.mpr above
    simp only [reduceCtorEq, false_iff]
    omega

theorem shiftLeft?_eq_some_iff {a c : BitVec n} {k : BitVec m} (inside : k.toNat < n) :
    shiftLeft? a k = some c ↔ c.toNat = a.toNat * 2 ^ k.toNat := by
  unfold shiftLeft?
  split
  · next fits =>
    rw [Option.some.injEq, ← BitVec.toNat_inj, BitVec.shiftLeft_eq', BitVec.toNat_shiftLeft,
      Nat.shiftLeft_eq, Nat.mod_eq_of_lt fits.2, eq_comm]
  · next large =>
    have := c.isLt
    simp only [reduceCtorEq, false_iff]
    intro same
    exact large ⟨inside, same ▸ c.isLt⟩

end

theorem log2_add_clz {w : Word} (filled : w ≠ 0) : w.toNat.log2 + w.clz.toNat = 63 := by
  have low : 2 ^ (63 - w.clz.toNat) ≤ w.toNat :=
    BitVec.two_pow_sub_clz_le_toNat_of_ne_zero (by decide) filled
  have high := BitVec.toNat_lt_two_pow_sub_clz (x := w)
  have inside : w.clz.toNat < 64 := BitVec.lt_def.mp (BitVec.clz_lt_iff_ne_zero.mpr filled)
  have positive : w.toNat ≠ 0 := fun zero => filled (BitVec.eq_of_toNat_eq zero)
  rw [show 64 - w.clz.toNat = 63 - w.clz.toNat + 1 by omega] at high
  have log := (Nat.log2_eq_iff positive).mpr ⟨low, high⟩
  omega

theorem ctz_of_pow {w : Word} {k : Nat} (power : w.toNat = 2 ^ k) : w.ctz.toNat = k := by
  have filled : w ≠ 0 := by
    rintro rfl
    exact absurd power (Nat.ne_of_lt (Nat.two_pow_pos k))
  have lowest := BitVec.getLsbD_true_ctz_of_ne_zero filled
  rw [← BitVec.testBit_toNat, power, Nat.testBit_two_pow, decide_eq_true_eq] at lowest
  exact lowest.symm

theorem toNat_allOnes_shiftRight {k : Word} (inside : k.toNat < 64) :
    (BitVec.allOnes 64 >>> k).toNat + 1 = 2 ^ (64 - k.toNat) := by
  have split : 2 ^ 64 = 2 ^ k.toNat * 2 ^ (64 - k.toNat) := by
    rw [← Nat.pow_add, Nat.add_sub_cancel' (Nat.le_of_lt inside)]
  have ones : (2 ^ 64 - 1) / 2 ^ k.toNat = 2 ^ (64 - k.toNat) - 1 := by
    rw [split, Nat.mul_sub_div 0 _ _ (split ▸ Nat.two_pow_pos 64), Nat.zero_div]
  have positive := Nat.two_pow_pos (64 - k.toNat)
  rw [BitVec.ushiftRight_eq', BitVec.toNat_ushiftRight, BitVec.toNat_allOnes,
    Nat.shiftRight_eq_div_pow, ones]
  omega

def nextPowerOfTwo? (w : Word) : Option Word :=
  plus? (if w ≤ 1 then 0 else BitVec.allOnes 64 >>> (w - 1).clz) 1

theorem nextPowerOfTwo?_eq_some_iff {w power : Word} :
    nextPowerOfTwo? w = some power ↔ power.toNat = 2 ^ SizeClass.ceilLog w.toNat := by
  unfold nextPowerOfTwo? SizeClass.ceilLog
  rw [plus?_eq_some_iff]
  by_cases small : w.toNat ≤ 1
  · rw [if_pos (BitVec.le_def.mpr small), if_pos small]
    rfl
  · have below : (w - 1).toNat = w.toNat - 1 := by
      have least : (1 : Word) ≤ w := BitVec.le_def.mpr (Nat.le_of_not_le small)
      rw [BitVec.toNat_sub_of_le least]
      rfl
    have filled : w - 1 ≠ 0 := by
      intro zero
      rw [zero] at below
      simp at below
      omega
    -- So many ones and one more are a power of two, where they fit.
    have log := log2_add_clz filled
    rw [below] at log
    rw [if_neg (mt BitVec.le_def.mp small), if_neg small,
      show (1 : Word).toNat = 1 from rfl, toNat_allOnes_shiftRight (by omega),
      show 64 - (w - 1).clz.toNat = (w.toNat - 1).log2 + 1 by omega]

theorem exists_toNat {n k : Nat} (fits : k < 2 ^ n) : ∃ a : BitVec n, a.toNat = k :=
  ⟨BitVec.ofNatLT k fits, BitVec.toNat_ofNatLT k fits⟩

theorem ceilLog_of_nextPowerOfTwo?_eq_none {w : Word} (absent : nextPowerOfTwo? w = none) :
    64 ≤ SizeClass.ceilLog w.toNat := by
  refine Nat.not_lt.mp fun inside => ?_
  obtain ⟨power, exact⟩ := exists_toNat (Nat.pow_lt_pow_right (by decide : 1 < 2) inside)
  rw [nextPowerOfTwo?_eq_some_iff.mpr exact] at absent
  cases absent

abbrev Count := BitVec 32

def clamp (low high count : Count) : Count :=
  if count < low then low else if high < count then high else count

def ceilLog? (hint : Word) : Option Count :=
  match nextPowerOfTwo? (if hint < 1 then 1 else hint) with
  | some power => convert? 32 power.ctz
  | none => some 20

def floorLog? (capacity : Word) : Option Count := do
  minus? (← minus? 64 1) (← convert? 32 capacity.clz)

def classOf? (log : Count) : Option Word := do
  minus? (← convert? 64 log) (← convert? 64 (6 : Count))

def ofHint? (hint : Word) : Option Word := do
  classOf? (clamp 6 20 (← ceilLog? hint))

def capacity? (size : Word) : Option Word := do
  shiftLeft? (1 : Word) (← plus? size (← convert? 64 (6 : Count)))

def ofCapacity? (capacity : Word) : Option (Option Word) := do
  if capacity < (← shiftLeft? (1 : Word) (6 : Count)) then return none
  if (← shiftLeft? (1 : Word) (20 : Count)) < capacity then return none
  return some (← classOf? (← floorLog? capacity))

def ofClass (size : SizeClass) : Word := BitVec.ofNat 64 size.val

theorem toNat_ofClass (size : SizeClass) : (ofClass size).toNat = size.val := by
  have bound := size.isLt
  simp only [classCount] at bound
  rw [ofClass, BitVec.toNat_ofNat, Nat.mod_eq_of_lt (by omega)]

theorem toNat_clamp (count : Count) :
    (clamp 6 20 count).toNat = min (max count.toNat 6) 20 := by
  unfold clamp
  simp only [BitVec.lt_def]
  have low : (6 : Count).toNat = 6 := rfl
  have high : (20 : Count).toNat = 20 := rfl
  split
  · omega
  · split <;> omega

theorem classOf?_eq {log : Count} {size : SizeClass} (exact : log.toNat = size.val + 6) :
    classOf? log = some (ofClass size) := by
  have inside : log.toNat < 2 ^ 64 := Nat.lt_trans log.isLt (by decide)
  obtain ⟨wide, same⟩ := exists_toNat inside
  have converted : convert? 64 log = some wide := convert?_eq_some_iff.mpr same
  have least : convert? 64 (6 : Count) = some 6 := rfl
  have size : minus? wide 6 = some (ofClass size) := by
    rw [minus?_eq_some_iff, same, exact, toNat_ofClass, Nat.add_comm]
    rfl
  simp only [classOf?, converted, least, Option.bind_eq_bind, Option.bind_some, size]

theorem ceilLog?_eq_some (hint : Word) :
    ∃ log, ceilLog? hint = some log ∧
      (clamp 6 20 log).toNat = (SizeClass.ofHint hint.toNat).val + 6 := by
  let filled : Word := if hint < 1 then 1 else hint
  have sameLog : SizeClass.ceilLog filled.toNat = SizeClass.ceilLog hint.toNat := by
    unfold filled
    split
    · next empty =>
      have zero : hint.toNat = 0 := Nat.lt_one_iff.mp (BitVec.lt_def.mp empty)
      rw [zero]
      rfl
    · rfl
  have clamped : min (max (SizeClass.ceilLog filled.toNat) 6) 20 =
      (SizeClass.ofHint hint.toNat).val + 6 := by
    simp only [sameLog, SizeClass.ofHint, SizeClass.leastLog, SizeClass.mostLog]
    omega
  unfold ceilLog?
  cases next : nextPowerOfTwo? filled with
  | none =>
    have large := ceilLog_of_nextPowerOfTwo?_eq_none next
    refine ⟨20, rfl, ?_⟩
    rw [toNat_clamp, show (20 : Count).toNat = 20 from rfl]
    omega
  | some power =>
    have isPower := nextPowerOfTwo?_eq_some_iff.mp next
    have inside := (Nat.pow_lt_pow_iff_right (by decide : 1 < 2)).mp (isPower ▸ power.isLt)
    obtain ⟨log, exact⟩ := exists_toNat (n := 32) (Nat.lt_trans inside (by decide))
    refine ⟨log, ?_, by rw [toNat_clamp, exact, clamped]⟩
    rw [convert?_eq_some_iff, exact, ctz_of_pow isPower]

theorem floorLog?_eq_some {capacity : Word} {log : Nat} (least : 2 ^ log ≤ capacity.toNat)
    (below : capacity.toNat < 2 ^ (log + 1)) :
    ∃ count, floorLog? capacity = some count ∧ count.toNat = log := by
  have positive := Nat.two_pow_pos log
  have filled : capacity ≠ 0 := by
    rintro rfl
    exact Nat.not_le_of_lt positive least
  have zeros := log2_add_clz filled
  rw [(Nat.log2_eq_iff (by omega)).mpr ⟨least, below⟩] at zeros
  obtain ⟨front, same⟩ := exists_toNat (n := 32) (k := capacity.clz.toNat) (by omega)
  obtain ⟨count, exact⟩ := exists_toNat (n := 32) (k := log) (by omega)
  have converted : convert? 32 capacity.clz = some front := convert?_eq_some_iff.mpr same
  have bits : minus? (64 : Count) 1 = some 63 := rfl
  have rest : minus? (63 : Count) front = some count := by
    rw [minus?_eq_some_iff, same, exact, Nat.add_comm, zeros]
    rfl
  refine ⟨count, ?_, exact⟩
  simp only [floorLog?, converted, bits, rest, Option.bind_eq_bind, Option.bind_some]

theorem capacity?_ofClass (size : SizeClass) :
    ∃ capacity, capacity? (ofClass size) = some capacity ∧
      capacity.toNat = 2 ^ (size.val + 6) := by
  have bound := size.isLt
  simp only [classCount] at bound
  have least : convert? 64 (6 : Count) = some 6 := rfl
  obtain ⟨log, exact⟩ := exists_toNat (n := 64) (k := size.val + 6) (by omega)
  have sum : plus? (ofClass size) 6 = some log := by
    rw [plus?_eq_some_iff, exact, toNat_ofClass]
    rfl
  obtain ⟨capacity, power⟩ := exists_toNat (n := 64) (k := 2 ^ (size.val + 6))
    (Nat.pow_lt_pow_right (by decide) (by omega))
  have shifted : shiftLeft? (1 : Word) log = some capacity := by
    rw [shiftLeft?_eq_some_iff (by omega), power, exact]
    exact (Nat.one_mul _).symm
  refine ⟨capacity, ?_, power⟩
  simp only [capacity?, least, sum, shifted, Option.bind_eq_bind, Option.bind_some]

end Word

/-! ## The classes of the pool -/

namespace SizeClass

theorem isLeast_ofHint {hint : Nat} (possible : hint ≤ 2 ^ 20) :
    IsLeast {k | hint ≤ 2 ^ (k + 6)} (ofHint hint).val := by
  refine ⟨le_capacity_ofHint possible, fun k room => ?_⟩
  have log : ceilLog hint ≤ k + 6 := ceilLog_le_iff.mpr room
  simp only [ofHint, leastLog, mostLog]
  omega

theorem ofCapacity?_eq_none_iff {capacity : Nat} :
    ofCapacity? capacity = none ↔ capacity < 2 ^ 6 ∨ 2 ^ 20 < capacity := by
  unfold ofCapacity?
  split
  · next unkept => exact iff_of_true rfl unkept
  · next kept => exact iff_of_false (Option.some_ne_none _) kept

theorem between_powers_iff {capacity : Nat} {size : SizeClass}
    (given : ofCapacity? capacity = some size) {k : Nat} :
    2 ^ (k + 6) ≤ capacity ∧ capacity < 2 ^ (k + 7) ↔ k = size.val := by
  have bounds := ofCapacity?_eq_some_iff.mp given
  have positive := Nat.two_pow_pos (size.val + 6)
  have filled : capacity ≠ 0 := Nat.ne_of_gt (Nat.lt_of_lt_of_le positive bounds.1)
  have log := (Nat.log2_eq_iff filled).mpr ⟨bounds.1, bounds.2.1⟩
  rw [← Nat.log2_eq_iff filled, log]
  omega

end SizeClass

namespace Word

theorem ofHint?_eq (hint : Word) : ofHint? hint = some (ofClass (.ofHint hint.toNat)) := by
  obtain ⟨log, found, clamped⟩ := ceilLog?_eq_some hint
  simp only [ofHint?, found, Option.bind_eq_bind, Option.bind_some, classOf?_eq clamped]

theorem ofHint?_capacityFor (options : Options) (length : Nat) :
    ofHint? (BitVec.ofNat 64 (options.capacityFor length)) =
      some (ofClass (.ofHint (options.capacityFor length))) := by
  have word : options.capacityFor length < 2 ^ 64 := Nat.lt_succ_of_le (Nat.min_le_right _ _)
  rw [ofHint?_eq, BitVec.toNat_ofNat, Nat.mod_eq_of_lt word]

theorem ofCapacity?_eq (capacity : Word) :
    ofCapacity? capacity = some ((SizeClass.ofCapacity? capacity.toNat).map ofClass) := by
  have low : shiftLeft? (1 : Word) (6 : Count) = some 64 := rfl
  have high : shiftLeft? (1 : Word) (20 : Count) = some 1048576 := rfl
  have least : (64 : Word).toNat = 2 ^ 6 := rfl
  have most : (1048576 : Word).toNat = 2 ^ 20 := rfl
  simp only [ofCapacity?, low, high, Option.bind_eq_bind, Option.bind_some, BitVec.lt_def, least,
    most]
  cases given : SizeClass.ofCapacity? capacity.toNat with
  | none =>
    rcases SizeClass.ofCapacity?_eq_none_iff.mp given with small | large
    · rw [if_pos small]
      rfl
    · rw [if_neg (by omega), if_pos large]
      rfl
  | some size =>
    obtain ⟨first, last, inside⟩ := SizeClass.ofCapacity?_eq_some_iff.mp given
    obtain ⟨log, counted, exact⟩ := floorLog?_eq_some first last
    have kept := mt SizeClass.ofCapacity?_eq_none_iff.mpr (given ▸ Option.some_ne_none size)
    rw [not_or] at kept
    rw [if_neg kept.1, if_neg kept.2]
    simp only [counted, classOf?_eq exact, Option.bind_some]
    rfl

end Word

namespace Proofs.Pool
open Word

/-- For every word the classes are counted without a check that fails. A hint gets the least class
with the room, a capacity the class between whose powers of two it lies, and a new buffer is of the
class that it was made for. -/
theorem classes_exact :
    (∀ hint : Word, ∃ size : SizeClass,
      ofHint? hint = some (ofClass size) ∧ SizeClass.ofHint hint.toNat = size ∧ size.val ≤ 14 ∧
        (hint.toNat ≤ 2 ^ 20 → IsLeast {k | hint.toNat ≤ 2 ^ (k + 6)} size.val) ∧
        (2 ^ 20 < hint.toNat → size.val = 14) ∧
        ∃ capacity, capacity? (ofClass size) = some capacity ∧
          capacity.toNat = 2 ^ (size.val + 6) ∧ ofCapacity? capacity = some (some (ofClass size))) ∧
    ∀ capacity : Word, ∃ given : Option SizeClass,
      ofCapacity? capacity = some (given.map ofClass) ∧
        SizeClass.ofCapacity? capacity.toNat = given ∧
        (given = none ↔ capacity.toNat < 64 ∨ 2 ^ 20 < capacity.toNat) ∧
        ∀ size, given = some size → size.val ≤ 14 ∧
          ∀ k, 2 ^ (k + 6) ≤ capacity.toNat ∧ capacity.toNat < 2 ^ (k + 7) ↔ k = size.val := by
  constructor
  · intro hint
    obtain ⟨capacity, made, power⟩ := capacity?_ofClass (.ofHint hint.toNat)
    have own := ofCapacity?_eq capacity
    rw [power] at own
    rw [show 2 ^ ((SizeClass.ofHint hint.toNat).val + 6) =
      (SizeClass.ofHint hint.toNat).capacity from rfl, SizeClass.ofCapacity?_capacity] at own
    refine ⟨_, ofHint?_eq hint, rfl, Nat.le_of_lt_succ (SizeClass.ofHint hint.toNat).isLt,
      SizeClass.isLeast_ofHint, fun large => ?_, capacity, made, power, own⟩
    exact Nat.add_right_cancel (SizeClass.ofHint_of_large large)
  · intro capacity
    refine ⟨_, ofCapacity?_eq capacity, rfl, SizeClass.ofCapacity?_eq_none_iff, ?_⟩
    intro size given
    exact ⟨Nat.le_of_lt_succ size.isLt, fun k => SizeClass.between_powers_iff given⟩

theorem classes_exact_beside_powers :
    ofHint? 65 = some 1 ∧ IsLeast {k | 65 ≤ 2 ^ (k + 6)} 1 ∧
      ofHint? 0x8000000000000001 = some 14 ∧ ofCapacity? 127 = some (some 0) ∧
      ∀ k, 2 ^ (k + 6) ≤ 127 ∧ 127 < 2 ^ (k + 7) ↔ k = 0 := by
  obtain ⟨hints, capacities⟩ := classes_exact
  obtain ⟨_, small, rfl, -, least, -⟩ := hints 65
  obtain ⟨_, large, rfl, -, -, last, -⟩ := hints 0x8000000000000001
  obtain ⟨_, kept, rfl, -, bounds⟩ := capacities 127
  have second : SizeClass.ofHint (65 : Word).toNat = ⟨1, by decide⟩ := by decide +kernel
  have first : SizeClass.ofCapacity? (127 : Word).toNat = some ⟨0, by decide⟩ := by decide +kernel
  rw [second] at small least
  rw [first] at kept bounds
  rw [ofClass, last (by decide)] at large
  exact ⟨small, least (by decide), large, kept, (bounds _ rfl).2⟩

end Proofs.Pool

end Mustache
