import Mustache.BufferPool
import Mustache.Loader

/-!
# What lies on the shelves

Whatever the holders of buffers do, a pool stays in order: no shelf holds more buffers than it may,
and all of them are empty, with a capacity of the class of the shelf. A buffer is drawn from the
class that its hint rounds up to and goes back to the class that its capacity rounds down to, so
this order says what the next holder gets.

* `ofCapacity?_eq_some_iff`: the class of a capacity is the one whose bounds it lies between.
* `BufferUse.outcome_step`: what a step can come to, the steps that do nothing included.
* `Tidy.take` and `Tidy.giveBack`: what a pool does keeps its shelves in order.
* `tidy_of_reached`: after any run they are, and what is taken then is empty and large enough.
-/

namespace Mustache

namespace SizeClass

theorem ofCapacity?_eq_some_iff {capacity : Nat} {size : SizeClass} :
    ofCapacity? capacity = some size ↔
      Nat.pow 2 (size.val + 6) ≤ capacity ∧ capacity < Nat.pow 2 (size.val + 7) ∧
        capacity ≤ Nat.pow 2 20 := by
  have least : leastCapacity ≤ Nat.pow 2 (size.val + 6) :=
    Nat.pow_le_pow_right Nat.two_pos (Nat.le_add_left 6 _)
  have first : leastCapacity = Nat.pow 2 6 := rfl
  have last : mostCapacity = Nat.pow 2 20 := rfl
  unfold ofCapacity?
  split
  · next unkept =>
    simp only [reduceCtorEq, false_iff, not_and]
    omega
  · next kept =>
    have filled : capacity ≠ 0 := by
      have : leastCapacity = 64 := rfl
      omega
    have low : 6 ≤ capacity.log2 := (Nat.le_log2 filled).mpr (show Nat.pow 2 6 ≤ capacity by omega)
    have classes : capacity.log2 - leastLog = size.val ↔ capacity.log2 = size.val + 6 := by
      simp only [leastLog]
      omega
    have bounds : capacity.log2 = size.val + 6 ↔
        Nat.pow 2 (size.val + 6) ≤ capacity ∧ capacity < Nat.pow 2 (size.val + 7) :=
      Nat.log2_eq_iff filled
    simp only [Option.some.injEq, Fin.ext_iff, classes, bounds]
    omega

theorem ofHint_of_large {hint : Nat} (large : mostCapacity < hint) :
    (ofHint hint).val + leastLog = mostLog := by
  have most : ¬ ceilLog hint ≤ mostLog := fun low =>
    Nat.not_le_of_lt large (ceilLog_le_iff.mp low)
  simp only [ofHint, leastLog, mostLog] at *
  omega

theorem min_le_capacity_ofHint (hint : Nat) : min hint mostCapacity ≤ (ofHint hint).capacity := by
  by_cases possible : hint ≤ mostCapacity
  · exact Nat.le_trans (Nat.min_le_left _ _) (le_capacity_ofHint possible)
  · rw [capacity, ofHint_of_large (Nat.lt_of_not_le possible)]
    exact Nat.min_le_right _ _

end SizeClass

namespace BufferUse

theorem buffer?_hold (use : BufferUse) (name other : String) (buffer : Option Buffer) :
    (use.hold name buffer).buffer? other = if other = name then buffer else use.buffer? other := by
  split
  · next same =>
    subst same
    cases buffer with
    | none =>
      refine List.lookup_eq_none_iff.mpr fun entry member => ?_
      have distinct := (List.mem_filter.mp member).2
      rwa [bne_comm] at distinct
    | some buffer => exact List.lookup_cons_self
  · next different =>
    have others := Registry.lookup_filter different use.held
    cases buffer with
    | none => exact others
    | some buffer => simpa [hold, buffer?, List.lookup_cons, beq_false_of_ne different] using others

inductive Outcome (use : BufferUse) (name : String) : BufferStep → BufferUse → Prop
  | taken (hint : Nat) :
      Outcome use name (.take hint)
        (hold ⟨(use.pool.take hint).2, use.held⟩ name (some (use.pool.take hint).1))
  | exchanged (hint : Nat) (old : Buffer) :
      Outcome use name (.take hint)
        (hold ⟨(use.pool.take hint).2.giveBack old, use.held⟩ name (some (use.pool.take hint).1))
  | dropped {buffer : Buffer} : use.buffer? name = some buffer →
      Outcome use name .drop (hold ⟨use.pool.giveBack buffer, use.held⟩ name none)
  | absent {action : BufferStep} : use.buffer? name = none → (∀ hint, action ≠ .take hint) →
      Outcome use name action use
  | changed {action : BufferStep} {buffer : Buffer} : use.buffer? name = some buffer →
      (∀ hint, action ≠ .take hint) → action ≠ .drop →
      Outcome use name action (use.hold name (some (changed buffer action)))

theorem outcome_step (use : BufferUse) (name : String) (action : BufferStep) :
    Outcome use name action (use.step name action) := by
  cases held : use.buffer? name with
  | none =>
    cases action with
    | take hint => simpa only [step, held] using .taken hint
    | _ => simpa only [step, held] using .absent held (fun _ other => BufferStep.noConfusion other)
  | some buffer =>
    cases action with
    | take hint => simpa only [step, held] using .exchanged hint buffer
    | drop => simpa only [step, held] using .dropped held
    | _ =>
      simpa only [step, held] using .changed held (fun _ other => BufferStep.noConfusion other)
        (fun other => BufferStep.noConfusion other)

theorem buffer?_take (use : BufferUse) (name : String) (hint : Nat) :
    (use.step name (.take hint)).buffer? name = some (use.pool.take hint).1 := by
  have outcome := use.outcome_step name (.take hint)
  generalize use.step name (.take hint) = next at outcome ⊢
  cases outcome with
  | taken | exchanged => rw [buffer?_hold, if_pos rfl]
  | absent _ other | changed _ other => exact absurd rfl (other hint)

end BufferUse

namespace Proofs.Pool

structure Idle (size : SizeClass) (buffer : Buffer) : Prop where
  empty : buffer.bytes = []
  least : Nat.pow 2 (size.val + 6) ≤ buffer.capacity
  below : buffer.capacity < Nat.pow 2 (size.val + 7)
  most : buffer.capacity ≤ Nat.pow 2 20

structure Tidy (perClass : Nat) (pool : BufferPool) : Prop where
  perClass_eq : pool.perClass = perClass
  idle : ∀ size, ∀ buffer ∈ pool.shelf size, Idle size buffer
  bounded : ∀ size, (pool.shelf size).length ≤ perClass

variable {perClass : Nat} {pool : BufferPool}

theorem tidy_empty (perClass : Nat) : Tidy perClass (.empty perClass) where
  perClass_eq := rfl
  idle _ _ member := by cases member
  bounded _ := Nat.zero_le _

theorem Tidy.setShelf (tidy : Tidy perClass pool) {size : SizeClass} {buffers : List Buffer}
    (idle : ∀ buffer ∈ buffers, Idle size buffer) (bounded : buffers.length ≤ perClass) :
    Tidy perClass (pool.setShelf size buffers) := by
  refine ⟨tidy.perClass_eq, fun other => ?_, fun other => ?_⟩
  · unfold BufferPool.setShelf
    by_cases same : other = size
    · subst same
      simpa using idle
    · simpa [same] using tidy.idle other
  · unfold BufferPool.setShelf
    by_cases same : other = size
    · simpa [same] using bounded
    · simpa [same] using tidy.bounded other

theorem take_of_nil {hint : Nat} (bare : pool.shelf (.ofHint hint) = []) :
    pool.take hint = (.ofCapacity (SizeClass.ofHint hint).capacity, pool) := by
  simp only [BufferPool.take, bare]

theorem take_of_cons {hint : Nat} {buffer : Buffer} {others : List Buffer}
    (filled : pool.shelf (.ofHint hint) = buffer :: others) :
    pool.take hint = (buffer, pool.setShelf (.ofHint hint) others) := by
  simp only [BufferPool.take, filled]

theorem Tidy.take (tidy : Tidy perClass pool) (hint : Nat) : Tidy perClass (pool.take hint).2 := by
  cases shelf : pool.shelf (.ofHint hint) with
  | nil => rwa [take_of_nil shelf]
  | cons buffer others =>
    have idle := tidy.idle (.ofHint hint)
    have bounded := tidy.bounded (.ofHint hint)
    rw [shelf] at idle bounded
    rw [take_of_cons shelf]
    refine tidy.setShelf (fun other member => idle other (List.mem_cons_of_mem _ member)) ?_
    exact Nat.le_trans (Nat.le_succ _) bounded

theorem Tidy.taken (tidy : Tidy perClass pool) (hint : Nat) :
    (pool.take hint).1.bytes = [] ∧ min hint (Nat.pow 2 20) ≤ (pool.take hint).1.capacity := by
  have room := SizeClass.min_le_capacity_ofHint hint
  cases shelf : pool.shelf (.ofHint hint) with
  | nil =>
    rw [take_of_nil shelf]
    exact ⟨rfl, room⟩
  | cons buffer others =>
    have member : buffer ∈ pool.shelf (.ofHint hint) := shelf ▸ List.mem_cons_self
    have first := tidy.idle _ buffer member
    rw [take_of_cons shelf]
    exact ⟨first.empty, Nat.le_trans room first.least⟩

theorem Tidy.giveBack (tidy : Tidy perClass pool) (buffer : Buffer) :
    Tidy perClass (pool.giveBack buffer) := by
  unfold BufferPool.giveBack
  split
  · exact tidy
  · next size given =>
    obtain ⟨least, below, most⟩ := SizeClass.ofCapacity?_eq_some_iff.mp given
    split
    · next room =>
      refine tidy.setShelf (List.forall_mem_cons.mpr ⟨⟨rfl, least, below, most⟩, tidy.idle size⟩) ?_
      rw [tidy.perClass_eq] at room
      exact room
    · exact tidy

theorem Tidy.step {use : BufferUse} (tidy : Tidy perClass use.pool) (name : String)
    (action : BufferStep) : Tidy perClass (use.step name action).pool := by
  have outcome := use.outcome_step name action
  generalize use.step name action = next at outcome ⊢
  cases outcome with
  | taken hint => exact tidy.take hint
  | exchanged hint old => exact (tidy.take hint).giveBack old
  | dropped => exact tidy.giveBack _
  | absent | changed => exact tidy

/-- What becomes of a pool that was empty. The holder of a buffer may do to it what can be done to
bytes with room for more, so any other buffer may be in its place afterwards. -/
inductive Reached (perClass : Nat) : BufferUse → Prop
  | start : Reached perClass ⟨.empty perClass, []⟩
  | step {use : BufferUse} (name : String) (action : BufferStep) :
      Reached perClass use → Reached perClass (use.step name action)
  | change {use : BufferUse} {name : String} {buffer : Buffer} (other : Buffer) :
      Reached perClass use → use.buffer? name = some buffer →
      Reached perClass (use.hold name (some other))

theorem Reached.tidy {use : BufferUse} (reached : Reached perClass use) :
    Tidy perClass use.pool := by
  induction reached with
  | start => exact tidy_empty perClass
  | step name action _ ih => exact ih.step name action
  | change other _ _ ih => exact ih

/-- After any run the shelves are in order, and whoever takes a buffer gets an empty one with the
room asked for, or as much as there is in the last class. -/
theorem tidy_of_reached {perClass : Nat} {use : BufferUse} (reached : Reached perClass use) :
    (∀ size, (use.pool.shelf size).length ≤ perClass ∧
        ∀ buffer ∈ use.pool.shelf size, Idle size buffer) ∧
      ∀ name hint, ∃ buffer, (use.step name (.take hint)).buffer? name = some buffer ∧
        buffer.bytes = [] ∧ min hint (Nat.pow 2 20) ≤ buffer.capacity := by
  have tidy := reached.tidy
  refine ⟨fun size => ⟨tidy.bounded size, tidy.idle size⟩, fun name hint => ?_⟩
  exact ⟨(use.pool.take hint).1, use.buffer?_take name hint, tidy.taken hint⟩

theorem tidy_of_reached_exchanged :
    let taken := (BufferUse.step ⟨.empty 1, []⟩ "a" (.take 100)).step "b" (.take 128)
    let exchanged := taken.hold "a" (some ⟨[1, 2, 3], 255, by decide⟩)
    let use := (exchanged.step "a" .drop).step "b" .drop
    Reached 1 use ∧ use.pool.shelf (.ofHint 128) = [.ofCapacity 255] ∧
      Idle (.ofHint 128) (.ofCapacity 255) ∧
      ∃ buffer, (use.step "c" (.take 128)).buffer? "c" = some buffer ∧
        buffer.bytes = [] ∧ 128 ≤ buffer.capacity := by
  intro taken exchanged use
  have held : taken.buffer? "a" = some (.ofCapacity 128) := by decide +kernel
  have before : Reached 1 taken := .step "b" _ (.step "a" _ .start)
  have reached : Reached 1 use := .step "b" _ (.step "a" _ (.change _ before held))
  have shelf : use.pool.shelf (.ofHint 128) = [.ofCapacity 255] := by decide +kernel
  obtain ⟨shelves, takes⟩ := tidy_of_reached reached
  have idle := (shelves (.ofHint 128)).2
  rw [shelf] at idle
  exact ⟨reached, shelf, idle _ List.mem_cons_self, takes "c" 128⟩

end Proofs.Pool

end Mustache
