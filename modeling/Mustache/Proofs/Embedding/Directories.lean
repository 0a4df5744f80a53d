import Mustache.Proofs.Embedding.Recording
import Mustache.Proofs.Paths.Walks

/-!
# Templates of a directory

Which files of a directory become accessors, and what it takes:

* `embedFiles_ok_iff`: accessors are made of all files or of none; they are made if no two files
  have the same name and all of them compile.
* `offends_of_error`: an error is about the first file that repeats a name or does not compile.
* `templateFiles_eq_map`: where all files can be read, the files are those of the walk through the
  directory that have the extension of templates, each with its own content.
* `embedDirectory_covers`: the accessors of a directory are those of exactly these files.
-/

namespace Mustache.Proofs.Embedding
open FileTree Grammar

def nameOf (file : Path × Bytes) : String := accessorName (String.ofList (file.1.stem?.getD []))

abbrev check (files : FileTree) (root : Path) (content : Bytes) : Except SyntaxError Template :=
  Template.compile (FileBase.load ⟨root, some templateExtension⟩ files) {} content

variable {files : FileTree} {root : Path}

theorem embedContent_of_ok {file : Path × Bytes} {template : Template}
    (compiled : check files root file.2 = .ok template) :
    ∃ partials, embedContent files root file.1 file.2 =
      .ok ⟨nameOf file, .file file.1, partials⟩ := by
  rw [check, ← compile_forgets] at compiled
  unfold embedContent embedSource
  cases run : FileBase.compile ⟨root, some templateExtension⟩ files {} file.2 with
  | error cause =>
    rw [run] at compiled
    cases compiled
  | ok result => exact ⟨result.2, rfl⟩

theorem embedContent_of_error {file : Path × Bytes} {cause : SyntaxError}
    (refused : check files root file.2 = .error cause) :
    embedContent files root file.1 file.2 =
      .error (.inTemplate (String.ofList (file.1.stem?.getD [])) cause) := by
  rw [check, ← compile_forgets] at refused
  unfold embedContent embedSource
  cases run : FileBase.compile ⟨root, some templateExtension⟩ files {} file.2 with
  | error cause' =>
    rw [run] at refused
    cases refused
    rfl
  | ok result =>
    rw [run] at refused
    cases refused

structure MadeOf (files : FileTree) (root : Path) (file : Path × Bytes) (accessor : Accessor) :
    Prop where
  name : accessor.name = nameOf file
  origin : accessor.origin = .file file.1
  compiles : ∃ template, check files root file.2 = .ok template

theorem madeOf_of_ok {file : Path × Bytes} {accessor : Accessor}
    (made : embedContent files root file.1 file.2 = .ok accessor) :
    MadeOf files root file accessor := by
  cases checked : check files root file.2 with
  | error cause =>
    rw [embedContent_of_error checked] at made
    cases made
  | ok template =>
    obtain ⟨partials, made'⟩ := embedContent_of_ok checked
    rw [made', Except.ok.injEq] at made
    subst made
    exact ⟨rfl, rfl, template, checked⟩

/-- Files that can all become accessors beside those of some names: the names of the files are new
and different, and the files compile. -/
structure Embeddable (files : FileTree) (root : Path) (seen : List String)
    (found : List (Path × Bytes)) : Prop where
  different : (found.map nameOf).Nodup
  new : ∀ name ∈ found.map nameOf, name ∉ seen
  compile : ∀ file ∈ found, ∃ template, check files root file.2 = .ok template

theorem Embeddable.nil (seen : List String) : Embeddable files root seen [] := ⟨.nil, nofun, nofun⟩

theorem embeddable_cons_iff {seen : List String} {file : Path × Bytes}
    {found : List (Path × Bytes)} :
    Embeddable files root seen (file :: found) ↔
      nameOf file ∉ seen ∧ (∃ template, check files root file.2 = .ok template) ∧
        Embeddable files root (nameOf file :: seen) found := by
  constructor
  · intro ⟨different, new, compile⟩
    obtain ⟨other, different⟩ := List.nodup_cons.mp different
    obtain ⟨here, compile⟩ := List.forall_mem_cons.mp compile
    refine ⟨new _ List.mem_cons_self, here, different, ?_, compile⟩
    intro name later
    rw [List.mem_cons, not_or]
    exact ⟨fun same => other (same ▸ later), new name (List.mem_cons_of_mem _ later)⟩
  · intro ⟨first, here, different, new, compile⟩
    refine ⟨List.nodup_cons.mpr ⟨?_, different⟩, ?_, List.forall_mem_cons.mpr ⟨here, compile⟩⟩
    · exact fun later => new _ later List.mem_cons_self
    · intro name member
      rcases List.mem_cons.mp member with rfl | later
      · exact first
      · exact mt (List.mem_cons_of_mem _) (new name later)

theorem embedFiles_of_seen {seen : List String} {file : Path × Bytes}
    (others : List (Path × Bytes)) (known : nameOf file ∈ seen) :
    embedFiles files root seen (file :: others) = .error (.sameName (nameOf file) file.1) := by
  rw [embedFiles]
  exact if_pos (List.contains_iff_mem.mpr known)

theorem embedFiles_of_new {seen : List String} {file : Path × Bytes}
    (others : List (Path × Bytes)) (new : nameOf file ∉ seen) :
    embedFiles files root seen (file :: others) = (do
      let first ← embedContent files root file.1 file.2
      return first :: (← embedFiles files root (nameOf file :: seen) others)) := by
  rw [embedFiles]
  exact if_neg (mt List.contains_iff_mem.mp new)

theorem made_of_ok {seen : List String} {found : List (Path × Bytes)}
    {accessors : List Accessor} (made : embedFiles files root seen found = .ok accessors) :
    Embeddable files root seen found ∧ List.Forall₂ (MadeOf files root) found accessors := by
  induction found generalizing seen accessors with
  | nil =>
    cases made
    exact ⟨.nil seen, .nil⟩
  | cons file others ih =>
    by_cases known : nameOf file ∈ seen
    · rw [embedFiles_of_seen others known] at made
      cases made
    · rw [embedFiles_of_new others known] at made
      obtain ⟨first, first', made⟩ := bind_eq_ok.mp made
      obtain ⟨rest, rest', made⟩ := bind_eq_ok.mp made
      cases made
      have here := madeOf_of_ok first'
      obtain ⟨embeddable, there⟩ := ih rest'
      exact ⟨embeddable_cons_iff.mpr ⟨known, here.compiles, embeddable⟩, .cons here there⟩

theorem embedFiles_ok_iff {seen : List String} {found : List (Path × Bytes)} :
    (∃ accessors, embedFiles files root seen found = .ok accessors) ↔
      Embeddable files root seen found := by
  constructor
  · intro ⟨accessors, made⟩
    exact (made_of_ok made).1
  · intro embeddable
    induction found generalizing seen with
    | nil => exact ⟨[], rfl⟩
    | cons file others ih =>
      obtain ⟨new, ⟨template, checked⟩, embeddable⟩ := embeddable_cons_iff.mp embeddable
      obtain ⟨partials, here⟩ := embedContent_of_ok checked
      obtain ⟨accessors, there⟩ := ih embeddable
      rw [embedFiles_of_new others new, here, there]
      exact ⟨_, rfl⟩

inductive Offends (files : FileTree) (root : Path) (names : List String) (file : Path × Bytes) :
    EmbedError → Prop
  | repeated : nameOf file ∈ names → Offends files root names file (.sameName (nameOf file) file.1)
  | refused {cause : SyntaxError} : nameOf file ∉ names → check files root file.2 = .error cause →
      Offends files root names file (.inTemplate (String.ofList (file.1.stem?.getD [])) cause)

theorem Offends.congr {names names' : List String} {file : Path × Bytes} {error : EmbedError}
    (offends : Offends files root names file error)
    (same : nameOf file ∈ names ↔ nameOf file ∈ names') :
    Offends files root names' file error := by
  cases offends with
  | repeated known => exact .repeated (same.mp known)
  | refused new failed => exact .refused (mt same.mpr new) failed

theorem offends_of_error {seen : List String} {found : List (Path × Bytes)} {error : EmbedError}
    (failed : embedFiles files root seen found = .error error) :
    ∃ before file after, found = before ++ file :: after ∧ Embeddable files root seen before ∧
      Offends files root (before.map nameOf ++ seen) file error := by
  induction found generalizing seen with
  | nil => cases failed
  | cons file others ih =>
    by_cases known : nameOf file ∈ seen
    · rw [embedFiles_of_seen others known] at failed
      cases failed
      exact ⟨[], file, others, rfl, .nil seen, .repeated known⟩
    rw [embedFiles_of_new others known] at failed
    cases checked : check files root file.2 with
    | error cause =>
      rw [embedContent_of_error checked] at failed
      cases failed
      exact ⟨[], file, others, rfl, .nil seen, .refused known checked⟩
    | ok template =>
      obtain ⟨partials, here⟩ := embedContent_of_ok checked
      rw [here] at failed
      cases there : embedFiles files root (nameOf file :: seen) others with
      | ok accessors =>
        rw [there] at failed
        cases failed
      | error error' =>
        rw [there] at failed
        cases failed
        obtain ⟨before, offender, after, rfl, embeddable, offends⟩ := ih there
        refine ⟨file :: before, offender, after, rfl, ?_, ?_⟩
        · exact embeddable_cons_iff.mpr ⟨known, ⟨template, checked⟩, embeddable⟩
        · apply offends.congr
          simp only [List.mem_append, List.map_cons, List.mem_cons]
          rw [or_left_comm, or_assoc]

def placed (root : Path) (file : List Path × Bytes) : Path × Bytes := (root.under file.1, file.2)

structure Gathered (tree : FileTree) (found : List (List Path × Bytes)) : Prop where
  mem_iff : ∀ names content, (names, content) ∈ found ↔
    Leads tree names content ∧ Path.extensionOf names = some templateExtension
  ordered : found.Pairwise fun file other => Earlier file.1 other.1

def Readable (files : FileTree) (root : Path) (tree : FileTree) : Prop :=
  ∀ names content, Leads tree names content →
    ∃ answer, files.read (root.under names) = .ok answer

theorem Gathered.nodup {tree : FileTree} {found : List (List Path × Bytes)}
    (gathered : Gathered tree found) : found.Nodup := by
  apply gathered.ordered.imp
  rintro file _ earlier rfl
  exact earlier_asymm earlier earlier

theorem Gathered.unique {tree : FileTree} {found found' : List (List Path × Bytes)}
    (gathered : Gathered tree found) (gathered' : Gathered tree found') :
    found = found' := by
  apply List.Perm.eq_of_pairwise _ gathered.ordered gathered'.ordered
  · apply (List.perm_ext_iff_of_nodup gathered.nodup gathered'.nodup).mpr
    intro ⟨names, content⟩
    rw [gathered.mem_iff, gathered'.mem_iff]
  · intro file file' _ _ earlier later
    exact absurd later (earlier_asymm earlier)

def gather (tree : FileTree) : List (List Path × Bytes) :=
  tree.contents.filter fun file => Path.extensionOf file.1 = some templateExtension

theorem gathered_gather {tree : FileTree} (orderly : tree.Orderly) :
    Gathered tree (gather tree) := by
  refine ⟨fun names content => ?_, (pairwise_contents orderly).filter _⟩
  rw [gather, List.mem_filter, mem_contents_iff, decide_eq_true_eq]

theorem templateFiles_eq_map {entries : List (Path × FileTree)} (orderly : files.Orderly)
    (found : files.find root = .ok (.directory entries))
    (readable : Readable files root (.directory entries)) :
    templateFiles files root (.directory entries) =
      (gather (.directory entries)).map (placed root) := by
  have inner := orderly_of_find orderly found
  have sameExtension : ∀ file ∈ (directory entries).contents,
      (root.under file.1).extension? = Path.extensionOf file.1 := by
    intro file member
    have leads := mem_contents_iff.mp member
    exact Path.extension_under (find_eq_ok found).1 (inner.isName leads) leads.ne_nil
  have kept : gather (.directory entries) = (directory entries).contents.filter fun file =>
      (root.under file.1).extension? = some templateExtension := by
    apply List.filter_congr
    intro file member
    rw [sameExtension file member]
  rw [templateFiles, files_eq_map, List.filter_map, List.filterMap_map, kept]
  apply List.filterMap_eq_map_iff_forall_eq_some.mpr
  intro file member
  have leads := mem_contents_iff.mp (List.mem_of_mem_filter member)
  obtain ⟨answer, read⟩ := readable _ _ leads
  cases read_under orderly found leads read
  simp only [Function.comp_apply, read]
  rfl

/-! ## Directories -/

structure Covers (files : FileTree) (root : Path) (found : List (Path × Bytes))
    (outcome : Except EmbedError (List Accessor)) : Prop where
  succeeds : (∃ accessors, outcome = .ok accessors) ↔ Embeddable files root [] found
  made : ∀ accessors, outcome = .ok accessors →
    List.Forall₂ (fun file accessor =>
      MadeOf files root file accessor ∧ accessor.source? files = some file.2) found accessors ∧
    (accessors.map Accessor.name).Nodup
  failed : ∀ error, outcome = .error error →
    ∃ before file after, found = before ++ file :: after ∧ Embeddable files root [] before ∧
      Offends files root (before.map nameOf) file error

theorem MadeOf.source {file : Path × Bytes} {accessor : Accessor}
    (made : MadeOf files root file accessor) (held : files.read file.1 = .ok file.2) :
    accessor.source? files = some file.2 := by
  rw [Accessor.source?, made.origin]
  simp only [held]
  rfl

theorem names_of_made {found : List (Path × Bytes)} {accessors : List Accessor}
    (made : List.Forall₂ (MadeOf files root) found accessors) :
    accessors.map Accessor.name = found.map nameOf := by
  induction made with
  | nil => rfl
  | cons here _ ih => rw [List.map_cons, List.map_cons, here.name, ih]

theorem embedFiles_covers {found : List (Path × Bytes)}
    (held : ∀ file ∈ found, files.read file.1 = .ok file.2) :
    Covers files root found (embedFiles files root [] found) := by
  refine ⟨embedFiles_ok_iff, fun accessors outcome => ?_, fun error outcome => ?_⟩
  · obtain ⟨embeddable, made⟩ := made_of_ok outcome
    constructor
    · have sourced := (List.forall₂_and_left found accessors).mpr ⟨held, made⟩
      exact sourced.imp fun file accessor here => ⟨here.2, here.2.source here.1⟩
    · rw [names_of_made made]
      exact embeddable.different
  · obtain ⟨before, file, after, same, embeddable, offends⟩ := offends_of_error outcome
    rw [List.append_nil] at offends
    exact ⟨before, file, after, same, embeddable, offends⟩

theorem embedDirectory_of_directory {project directory : Path} {entries : List (Path × FileTree)}
    (found : files.find (project.join directory) = .ok (.directory entries)) :
    embedDirectory files project directory =
      embedFiles files (project.join directory) []
        (templateFiles files (project.join directory) (.directory entries)) := by
  simp only [embedDirectory, found]

theorem embedDirectory_of_other {project directory : Path}
    (other : ∀ entries, files.find (project.join directory) ≠ .ok (.directory entries)) :
    embedDirectory files project directory = .error (.noDirectory (project.join directory)) := by
  -- The last case of the match asks that no other one applies, which is the hypothesis.
  simp only [embedDirectory]

/-- The template files of a directory are one list, which the order and the extension determine, and
the accessors of the directory are made of it as a whole or not at all. -/
theorem embedDirectory_covers (orderly : files.Orderly) (project directory : Path) :
    let root := project.join directory
    let outcome := embedDirectory files project directory
    ((∀ entries, files.find root ≠ .ok (.directory entries)) →
      outcome = .error (.noDirectory root)) ∧
    ∀ entries, files.find root = .ok (.directory entries) →
      Readable files root (.directory entries) →
        ∃ found, Gathered (.directory entries) found ∧
          (∀ other, Gathered (.directory entries) other → other = found) ∧
          Covers files root (found.map (placed root)) outcome := by
  intro root outcome
  refine ⟨embedDirectory_of_other, ?_⟩
  intro entries found readable
  have gathered : Gathered (.directory entries) (gather (.directory entries)) :=
    gathered_gather (orderly_of_find orderly found)
  refine ⟨_, gathered, fun other others => others.unique gathered, ?_⟩
  have listed := templateFiles_eq_map orderly found readable
  unfold outcome
  rw [embedDirectory_of_directory found, ← listed]
  apply embedFiles_covers
  intro file member
  exact (mem_templateFiles.mp member).2.2

theorem embedDirectory_covers_pages :
    let page : Bytes := inclusionSource "parts/item"
    let item : Bytes := valueSource "name" true
    let files := ((empty.add "pages/parts/item.mustache".toList item).add
      "pages/notes.txt".toList []).add "pages/Nav-Bar.mustache".toList page
    ∃ accessors, embedDirectory files [] "pages".toList = .ok accessors ∧
      List.Forall₂ (fun file accessor =>
          MadeOf files "pages".toList file accessor ∧ accessor.source? files = some file.2)
        [("pages/Nav-Bar.mustache".toList, page), ("pages/parts/item.mustache".toList, item)]
        accessors ∧
      accessors.map Accessor.name = ["nav_bar", "item"] := by
  intro page item files
  let root : Path := "pages".toList
  let entries : List (Path × FileTree) := [("Nav-Bar.mustache".toList, .file page),
    ("notes.txt".toList, .file []),
    ("parts".toList, .directory [("item.mustache".toList, .file item)])]
  let templates : List (Path × Bytes) :=
    [("pages/Nav-Bar.mustache".toList, page), ("pages/parts/item.mustache".toList, item)]
  have orderly : files.Orderly :=
    ((orderly_empty.add (by decide) item).add (by decide) []).add (by decide) page
  have located : files.find root = .ok (.directory entries) := rfl
  have readable : Readable files root (.directory entries) := by
    intro names content leads
    have each : ∀ file ∈ (directory entries).contents,
        files.read (root.under file.1) = .ok file.2 := by
      decide +kernel
    exact ⟨content, each _ (mem_contents_iff.mpr leads)⟩
  have embeddable : Embeddable files root [] templates := by
    have checkedPage : check files root page =
        .ok ⟨page, [.inclusion "parts/item" ⟨item, [.value "name" true], {}⟩], {}⟩ := by
      decide +kernel
    have checkedItem : check files root item = .ok ⟨item, [.value "name" true], {}⟩ := by
      decide +kernel
    refine ⟨by decide +kernel, fun _ _ => List.not_mem_nil, ?_⟩
    exact List.forall_mem_cons.mpr
      ⟨⟨_, checkedPage⟩, List.forall_mem_singleton.mpr ⟨_, checkedItem⟩⟩
  obtain ⟨-, covered⟩ := embedDirectory_covers orderly [] root
  obtain ⟨found, -, unique, covers⟩ := covered entries located readable
  have listed : found.map (placed root) = templates := by
    rw [← unique _ (gathered_gather (orderly_of_find orderly located))]
    rfl
  have covers : Covers files root templates (embedDirectory files [] root) := listed ▸ covers
  obtain ⟨accessors, outcome⟩ := covers.succeeds.mpr embeddable
  obtain ⟨made, -⟩ := covers.made accessors outcome
  refine ⟨accessors, outcome, made, ?_⟩
  rw [names_of_made (made.imp fun _ _ => And.left)]
  decide +kernel

end Mustache.Proofs.Embedding
