import Mustache.Proofs.Pool.Shelves

namespace Mustache

def BufferUse.run (use : BufferUse) (steps : List (String × BufferStep)) : BufferUse :=
  steps.foldl (fun use step => use.step step.1 step.2) use

def BufferUse.bytes? (use : BufferUse) (name : String) : Option Bytes :=
  (use.buffer? name).map Buffer.bytes

namespace Proofs.Pool

def after : BufferStep → Option Bytes → Option Bytes
  | .take _, _ => some []
  | .drop, _ => none
  | .extend more, bytes => bytes.map (· ++ more)
  | .truncate length, bytes => bytes.map (·.take length)
  | .replace _, bytes => bytes.map fun _ => []
  | .reserve _, bytes | .shrink, bytes => bytes

abbrev Contents := String → Option Bytes

namespace Contents

def nothing : Contents := fun _ => none

def step (contents : Contents) (name : String) (action : BufferStep) : Contents := fun other =>
  if other = name then after action (contents name) else contents other

def run (contents : Contents) (steps : List (String × BufferStep)) : Contents :=
  steps.foldl (fun contents step => contents.step step.1 step.2) contents

end Contents

def own (name : String) (steps : List (String × BufferStep)) : List BufferStep :=
  (steps.filter fun step => step.1 == name).map Prod.snd

theorem run_eq_foldl_own (contents : Contents) (steps : List (String × BufferStep))
    (name : String) :
    contents.run steps name = (own name steps).foldl (fun bytes action => after action bytes)
      (contents name) := by
  induction steps generalizing contents with
  | nil => rfl
  | cons step steps ih =>
    obtain ⟨other, action⟩ := step
    have later := ih (contents.step other action)
    by_cases same : other = name
    · subst same
      simpa [Contents.run, Contents.step, own] using later
    · simpa [Contents.run, Contents.step, own, same, Ne.symm same] using later

variable {perClass : Nat} {use : BufferUse} {contents : Contents}

structure Shows (perClass : Nat) (use : BufferUse) (contents : Contents) : Prop where
  tidy : Tidy perClass use.pool
  bytes : use.bytes? = contents

theorem bytes_changed (buffer : Buffer) {action : BufferStep} (other : ∀ hint, action ≠ .take hint)
    (kept : action ≠ .drop) :
    some (BufferUse.changed buffer action).bytes = after action (some buffer.bytes) := by
  cases action with
  | take hint => exact absurd rfl (other hint)
  | drop => exact absurd rfl kept
  | _ => rfl

theorem after_none {action : BufferStep} (other : ∀ hint, action ≠ .take hint) :
    after action none = none := by
  cases action with
  | take hint => exact absurd rfl (other hint)
  | _ => rfl

theorem bytes?_hold (use : BufferUse) (name other : String) (buffer : Option Buffer) :
    (use.hold name buffer).bytes? other =
      if other = name then buffer.map Buffer.bytes else use.bytes? other := by
  rw [BufferUse.bytes?, BufferUse.buffer?_hold]
  split <;> rfl

theorem bytes?_step (tidy : Tidy perClass use.pool) (name : String) (action : BufferStep) :
    (use.step name action).bytes? = Contents.step use.bytes? name action := by
  have outcome := use.outcome_step name action
  generalize use.step name action = next at outcome ⊢
  funext other
  cases outcome with
  | taken hint | exchanged hint =>
    rw [bytes?_hold, Option.map_some, (tidy.taken hint).1]
    rfl
  | dropped held =>
    rw [bytes?_hold]
    rfl
  | absent held untaken =>
    have nothing : use.bytes? name = none := by rw [BufferUse.bytes?, held, Option.map_none]
    rw [Contents.step, nothing, after_none untaken]
    split
    · next same => rw [same, nothing]
    · rfl
  | @changed _ buffer held untaken kept =>
    have before : use.bytes? name = some buffer.bytes := by
      rw [BufferUse.bytes?, held, Option.map_some]
    rw [bytes?_hold, Option.map_some, bytes_changed buffer untaken kept, ← before]
    rfl

theorem shows_nothing {pool : BufferPool} (tidy : Tidy perClass pool) :
    Shows perClass ⟨pool, []⟩ .nothing := ⟨tidy, rfl⟩

theorem shows_step (shows : Shows perClass use contents) (name : String) (action : BufferStep) :
    Shows perClass (use.step name action) (contents.step name action) := by
  refine ⟨shows.tidy.step name action, ?_⟩
  rw [bytes?_step shows.tidy, shows.bytes]

theorem shows_run (shows : Shows perClass use contents) (steps : List (String × BufferStep)) :
    Shows perClass (use.run steps) (contents.run steps) := by
  induction steps generalizing use contents with
  | nil => exact shows
  | cons step steps ih => exact ih (shows_step shows step.1 step.2)

/-- The bytes in held buffers are those that they would hold without a pool, whatever lies on the
shelves at first. So they are the same for two pools, and nothing that happened before a buffer was
taken shows in it, nor anything that other holders do. -/
theorem bytes?_run {perClass perClass' : Nat} {use use' : BufferUse}
    (reached : Reached perClass use) (reached' : Reached perClass' use')
    (steps : List (String × BufferStep)) (name : String) :
    BufferUse.bytes? (.run ⟨use.pool, []⟩ steps) name = Contents.run .nothing steps name ∧
      BufferUse.bytes? (.run ⟨use'.pool, []⟩ steps) name =
        BufferUse.bytes? (.run ⟨use.pool, []⟩ steps) name ∧
      ∀ before hint behind, steps = before ++ (name, .take hint) :: behind →
        BufferUse.bytes? (.run ⟨use.pool, []⟩ steps) name =
          (own name behind).foldl (fun bytes action => after action bytes) (some []) := by
  have first := (shows_run (shows_nothing reached.tidy) steps).bytes
  have second := (shows_run (shows_nothing reached'.tidy) steps).bytes
  refine ⟨by rw [first], by rw [first, second], ?_⟩
  rintro before hint behind rfl
  rw [first, Contents.run, List.foldl_append, List.foldl_cons]
  exact (run_eq_foldl_own _ behind name).trans (by rw [Contents.step, if_pos rfl]; rfl)

theorem bytes?_run_used :
    let used := ((BufferUse.step ⟨.empty 2, []⟩ "a" (.take 64)).step "a" (.extend [1, 2])).step
      "a" .drop
    let steps : List (String × BufferStep) :=
      [("b", .take 64), ("b", .extend [7]), ("b", .truncate 9), ("c", .take 64), ("c", .extend [8])]
    used.pool.idle = 1 ∧ BufferUse.bytes? (.run ⟨used.pool, []⟩ steps) "b" = some [7] ∧
      BufferUse.bytes? (.run ⟨.empty 0, []⟩ steps) "b" = some [7] := by
  intro used steps
  have reached : Reached 2 used := .step "a" _ (.step "a" _ (.step "a" _ .start))
  obtain ⟨-, second, own⟩ := bytes?_run reached (.start : Reached 0 _) steps "b"
  have seven : BufferUse.bytes? (.run ⟨used.pool, []⟩ steps) "b" = some [7] := own [] 64 _ rfl
  exact ⟨by decide +kernel, seven, second.trans seven⟩

end Proofs.Pool

end Mustache
