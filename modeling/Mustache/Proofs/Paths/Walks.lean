import Mathlib.Data.List.Lex
import Mustache.FileTree
import Mustache.Proofs.Paths.Components

namespace Mustache

namespace Path

def under (root : Path) (names : List Path) : Path := names.foldl join root

structure IsName (name : Path) : Prop where
  busy : isIdle name = false
  not_above : name ≠ above
  plain : '/' ∉ name

theorem IsName.ne_nil {name : Path} (proper : IsName name) : name ≠ [] := by
  rintro rfl
  cases proper.busy

theorem IsName.relative {name : Path} (proper : IsName name) : isAbsolute name = false := by
  cases name with
  | nil => rfl
  | cons c name =>
    have other : c ≠ '/' := fun same => proper.plain (same ▸ List.mem_cons_self)
    simp [isAbsolute, other]

theorem join_ne_nil {root name : Path} (filled : root ≠ []) (proper : IsName name) :
    join root name ≠ [] := by
  unfold join
  rw [if_neg (by simp [proper.relative])]
  split <;> simp [filled]

theorem segments_join {root name : Path} (filled : root ≠ []) (proper : IsName name) :
    ∃ front, segments (join root name) = front ++ [name] ∧
      (segments root = front ∨ segments root = front ++ [[]]) := by
  have last := segments_of_not_mem proper.plain
  unfold join
  rw [if_neg (by simp [proper.relative])]
  split
  · next slash =>
    obtain ⟨kept, rfl⟩ := List.getLast?_eq_some_iff.mp (slash.resolve_left filled)
    refine ⟨segments kept, ?_, .inr (segments_append kept [])⟩
    rw [List.append_assoc, List.singleton_append, segments_append, last]
  · refine ⟨segments root, ?_, .inl rfl⟩
    rw [segments_append, last]

theorem segments_under {root : Path} {names : List Path} (filled : root ≠ [])
    (proper : ∀ name ∈ names, IsName name) :
    ∃ front, segments (root.under names) = front ++ names ∧
      (segments root = front ∨ segments root = front ++ [[]]) := by
  induction names generalizing root with
  | nil => exact ⟨segments root, (List.append_nil _).symm, .inl rfl⟩
  | cons name names ih =>
    obtain ⟨first, others⟩ := List.forall_mem_cons.mp proper
    obtain ⟨front, joined, place⟩ := segments_join filled first
    obtain ⟨front', parts, place'⟩ := ih (join_ne_nil filled first) others
    rw [joined] at place'
    rcases place' with rfl | same
    · exact ⟨front, by rw [← List.append_cons] at parts; exact parts, place⟩
    · -- The joined path ends in a name, so it has no empty segment at its end.
      have last := congrArg List.getLast? same
      rw [List.getLast?_concat, List.getLast?_concat] at last
      exact absurd (Option.some.inj last) first.ne_nil

theorem fileName_join {root name : Path} (filled : root ≠ []) (proper : IsName name) :
    fileName? (join root name) = some name := by
  have meant : named name = [.entry name] := by
    rw [named, segments_of_not_mem proper.plain, List.filterMap_cons_some, List.filterMap_nil]
    exact ofSegment_eq_entry_iff.mpr ⟨rfl, proper.busy, proper.not_above⟩
  rw [fileName?, components_join filled proper.relative, meant, List.getLast?_concat]

theorem fileName_under {root : Path} {names : List Path} (filled : root ≠ [])
    (proper : ∀ name ∈ names, IsName name) {last : Path} (ends : names.getLast? = some last) :
    fileName? (root.under names) = some last := by
  induction names generalizing root with
  | nil => cases ends
  | cons name names ih =>
    obtain ⟨first, others⟩ := List.forall_mem_cons.mp proper
    cases names with
    | nil =>
      cases ends
      exact fileName_join filled first
    | cons next names => exact ih (join_ne_nil filled first) others ends

def extensionOf (names : List Path) : Option Path :=
  names.getLast?.bind fun name => (splitName name).2

theorem extension_under {root : Path} {names : List Path} (filled : root ≠ [])
    (proper : ∀ name ∈ names, IsName name) (below : names ≠ []) :
    (root.under names).extension? = extensionOf names := by
  have ends := List.getLast?_eq_some_getLast below
  rw [extension?, extensionOf, fileName_under filled proper ends, ends]

end Path

namespace FileTree
open Mustache.Path

@[elab_as_elim]
theorem induction {motive : FileTree → Prop} (file : ∀ content, motive (.file content))
    (directory : ∀ entries : List (Path × FileTree),
      (∀ entry ∈ entries, motive entry.2) → motive (.directory entries))
    (tree : FileTree) : motive tree := by
  match tree with
  | .file content => exact file content
  | .directory entries =>
    apply directory entries
    intro entry member
    exact induction file directory entry.2
termination_by sizeOf tree
decreasing_by
  have smaller := List.sizeOf_lt_of_mem member
  obtain ⟨name, tree⟩ := entry
  simp only [Prod.mk.sizeOf_spec, FileTree.directory.sizeOf_spec] at smaller ⊢
  omega

inductive Leads : FileTree → List Path → Bytes → Prop
  | file {content : Bytes} : Leads (.file content) [] content
  | entry {entries : List (Path × FileTree)} {name : Path} {tree : FileTree} {names : List Path}
      {content : Bytes} : (name, tree) ∈ entries → Leads tree names content →
      Leads (.directory entries) (name :: names) content

mutual

def contents : FileTree → List (List Path × Bytes)
  | .file content => [([], content)]
  | .directory entries => contentsOf entries

def contentsOf : List (Path × FileTree) → List (List Path × Bytes)
  | [] => []
  | (name, tree) :: entries => tree.contents.map (fun file => (name :: file.1, file.2)) ++
      contentsOf entries

end

theorem contents_directory (entries : List (Path × FileTree)) :
    (directory entries).contents = entries.flatMap fun entry =>
      entry.2.contents.map fun file => (entry.1 :: file.1, file.2) := by
  rw [contents]
  induction entries with
  | nil => rfl
  | cons entry entries ih => rw [contentsOf, ih, List.flatMap_cons]

theorem files_directory (root : Path) (entries : List (Path × FileTree)) :
    files root (directory entries) =
      entries.flatMap fun entry => files (root.join entry.1) entry.2 := by
  rw [files]
  induction entries with
  | nil => rfl
  | cons entry entries ih => rw [filesOf, ih, List.flatMap_cons]

theorem files_eq_map (root : Path) (tree : FileTree) :
    files root tree = tree.contents.map fun file => root.under file.1 := by
  induction tree using FileTree.induction generalizing root with
  | file content => rfl
  | directory entries ih =>
    rw [files_directory, contents_directory, List.map_flatMap]
    apply List.flatMap_congr
    intro entry member
    rw [ih entry member, List.map_map]
    rfl

theorem mem_contents_iff {tree : FileTree} {names : List Path} {content : Bytes} :
    (names, content) ∈ tree.contents ↔ Leads tree names content := by
  induction tree using FileTree.induction generalizing names with
  | file content' =>
    rw [contents, List.mem_singleton]
    constructor
    · rintro ⟨⟩
      exact .file
    · rintro ⟨⟩
      rfl
  | directory entries ih =>
    simp only [contents_directory, List.mem_flatMap, List.mem_map]
    constructor
    · rintro ⟨⟨name, tree⟩, member, file, listed, same⟩
      cases same
      exact .entry member ((ih _ member).mp listed)
    · intro leads
      cases leads with
      | entry member leads => exact ⟨_, member, (_, _), (ih _ member).mpr leads, rfl⟩

theorem Leads.ne_nil {entries : List (Path × FileTree)} {names : List Path} {content : Bytes}
    (leads : Leads (.directory entries) names content) : names ≠ [] := by
  cases leads with
  | entry member leads => exact List.cons_ne_nil _ _

/-! ## Trees in order -/

/-- Every directory of the tree has entries of proper names, each once and in their order. -/
inductive Orderly : FileTree → Prop
  | file (content : Bytes) : Orderly (.file content)
  | directory {entries : List (Path × FileTree)} :
      (entries.Pairwise fun entry other => Text.precedes entry.1 other.1 = true) →
      (∀ entry ∈ entries, IsName entry.1) → (∀ entry ∈ entries, Orderly entry.2) →
      Orderly (.directory entries)

def Earlier (names names' : List Path) : Prop :=
  List.Lex (fun name name' => Text.precedes name name' = true) names names'

theorem earlier_asymm {names names' : List Path} (first : Earlier names names') :
    ¬ Earlier names' names := by
  have order : Std.Asymm fun name name' : Path => Text.precedes name name' = true := by
    constructor
    intro name name' first later
    rw [Text.precedes_asymm first] at later
    cases later
  exact (List.Lex.asymm _).asymm _ _ first

theorem pairwise_contents {tree : FileTree} (orderly : tree.Orderly) :
    tree.contents.Pairwise fun file other => Earlier file.1 other.1 := by
  induction orderly with
  | file content => exact List.pairwise_singleton _ _
  | directory ordered proper orderly ih =>
    rw [contents_directory, List.pairwise_flatMap]
    constructor
    · intro entry member
      rw [List.pairwise_map]
      exact (ih entry member).imp .cons
    · apply ordered.imp
      intro entry other order file listed file' listed'
      obtain ⟨inner, -, rfl⟩ := List.mem_map.mp listed
      obtain ⟨inner', -, rfl⟩ := List.mem_map.mp listed'
      exact .rel order

theorem Orderly.isName {tree : FileTree} (orderly : tree.Orderly) {names : List Path}
    {content : Bytes} (leads : Leads tree names content) : ∀ name ∈ names, IsName name := by
  induction leads with
  | file => exact nofun
  | entry member leads ih =>
    obtain - | ⟨-, proper, inner⟩ := orderly
    exact List.forall_mem_cons.mpr ⟨proper _ member, ih (inner _ member)⟩

theorem mem_putEntry {name : Path} {change : Option FileTree → FileTree}
    {entries : List (Path × FileTree)} {entry : Path × FileTree}
    (member : entry ∈ putEntry name change entries) :
    entry ∈ entries ∨ ∃ old : Option FileTree,
      (∀ tree ∈ old, (name, tree) ∈ entries) ∧ entry = (name, change old) := by
  fun_induction putEntry name change entries with
  | case1 => exact .inr ⟨none, nofun, List.mem_singleton.mp member⟩
  | case2 tree entries =>
    rcases List.mem_cons.mp member with rfl | later
    · refine .inr ⟨some tree, ?_, rfl⟩
      rintro _ ⟨⟩
      exact List.mem_cons_self
    · exact .inl (List.mem_cons_of_mem _ later)
  | case3 other tree entries different order =>
    rcases List.mem_cons.mp member with rfl | later
    · exact .inr ⟨none, nofun, rfl⟩
    · exact .inl later
  | case4 other tree entries different order ih =>
    rcases List.mem_cons.mp member with rfl | later
    · exact .inl List.mem_cons_self
    · rcases ih later with known | ⟨old, listed, rfl⟩
      · exact .inl (List.mem_cons_of_mem _ known)
      · exact .inr ⟨old, fun tree held => List.mem_cons_of_mem _ (listed tree held), rfl⟩

theorem pairwise_putEntry {name : Path} {change : Option FileTree → FileTree}
    {entries : List (Path × FileTree)}
    (ordered : entries.Pairwise fun entry other => Text.precedes entry.1 other.1 = true) :
    (putEntry name change entries).Pairwise fun entry other =>
      Text.precedes entry.1 other.1 = true := by
  fun_induction putEntry name change entries with
  | case1 => exact List.pairwise_singleton _ _
  | case2 tree entries => exact List.pairwise_cons.mpr (List.pairwise_cons.mp ordered)
  | case3 other tree entries different order =>
    refine List.pairwise_cons.mpr ⟨?_, ordered⟩
    intro entry member
    rcases List.mem_cons.mp member with rfl | later
    · exact order
    · exact Text.precedes_trans order ((List.pairwise_cons.mp ordered).1 entry later)
  | case4 other tree entries different order ih =>
    obtain ⟨first, others⟩ := List.pairwise_cons.mp ordered
    refine List.pairwise_cons.mpr ⟨?_, ih others⟩
    intro entry member
    rcases mem_putEntry member with known | ⟨old, -, rfl⟩
    · exact first entry known
    · exact (Text.precedes_total different).resolve_left order

theorem Orderly.putEntry {name : Path} {change : Option FileTree → FileTree}
    {entries : List (Path × FileTree)} (orderly : Orderly (.directory entries))
    (proper : IsName name)
    (changed : ∀ old : Option FileTree, (∀ tree ∈ old, Orderly tree) → Orderly (change old)) :
    Orderly (.directory (putEntry name change entries)) := by
  obtain - | ⟨ordered, names, inner⟩ := orderly
  refine .directory (pairwise_putEntry ordered) ?_ ?_
  · intro entry member
    rcases mem_putEntry member with known | ⟨old, -, rfl⟩
    · exact names entry known
    · exact proper
  · intro entry member
    rcases mem_putEntry member with known | ⟨old, listed, rfl⟩
    · exact inner entry known
    · exact changed old fun tree held => inner _ (listed tree held)

theorem orderly_empty : Orderly empty := .directory .nil nofun nofun

theorem orderly_getD {old : Option FileTree} (held : ∀ tree ∈ old, Orderly tree) :
    (old.getD empty).Orderly := by
  cases old with
  | none => exact orderly_empty
  | some tree => exact held tree rfl

theorem Orderly.graft {leaf tree : FileTree} {names : List Path} (orderly : tree.Orderly)
    (filed : leaf.Orderly) (proper : ∀ name ∈ names, IsName name) :
    (graft leaf names tree).Orderly := by
  fun_induction FileTree.graft leaf names tree with
  | case1 => exact filed
  | case2 => exact orderly
  | case3 name names entries ih =>
    obtain ⟨first, others⟩ := List.forall_mem_cons.mp proper
    exact orderly.putEntry first fun old held => ih old (orderly_getD held) others

theorem Orderly.graftDirectory {tree : FileTree} {names : List Path} (orderly : tree.Orderly)
    (proper : ∀ name ∈ names, IsName name) : (graftDirectory names tree).Orderly := by
  fun_induction FileTree.graftDirectory names tree with
  | case1 | case2 => exact orderly
  | case3 name names entries ih =>
    obtain ⟨first, others⟩ := List.forall_mem_cons.mp proper
    exact orderly.putEntry first fun old held => ih old (orderly_getD held) others

theorem Orderly.add {tree : FileTree} (orderly : tree.Orderly) {path : Path}
    (level : Path.above ∉ path.segments) (content : Bytes) : (tree.add path content).Orderly := by
  have proper : ∀ name ∈ path.segments.filter fun segment => !isIdle segment, IsName name := by
    intro name member
    obtain ⟨listed, busy⟩ := List.mem_filter.mp member
    have other : name ≠ Path.above := fun same => level (same ▸ listed)
    exact ⟨by simpa using busy, other, not_mem_of_mem_segments listed⟩
  unfold FileTree.add
  split
  · exact orderly.graftDirectory proper
  · exact orderly.graft (.file content) proper

/-! ## Following the path of a file -/

theorem lookup_of_mem {entries : List (Path × FileTree)} {name : Path} {tree : FileTree}
    (ordered : entries.Pairwise fun entry other => Text.precedes entry.1 other.1 = true)
    (member : (name, tree) ∈ entries) : entries.lookup name = some tree := by
  induction entries with
  | nil => cases member
  | cons entry entries ih =>
    obtain ⟨first, others⟩ := List.pairwise_cons.mp ordered
    rcases List.mem_cons.mp member with rfl | later
    · exact List.lookup_cons_self
    · have different : name ≠ entry.1 := by
        rintro rfl
        have order := first _ later
        rw [Text.precedes_irrefl] at order
        cases order
      rw [List.lookup_cons, beq_false_of_ne different]
      exact ih others later

theorem follow_directory (above : List FileTree) (entries : List (Path × FileTree))
    (segment : Path) (segments : List Path) :
    follow above (.directory entries) (segment :: segments) =
      if isIdle segment then follow above (.directory entries) segments
      else if segment = Path.above then
        match above with
        | [] => follow [] (.directory entries) segments
        | parent :: others => follow others parent segments
      else if maxNameSize < Path.size segment then .error .nameTooLong
      else
        match entries.lookup segment with
        | none => .error .notFound
        | some next => follow (.directory entries :: above) next segments := by
  cases above <;> rfl

theorem follow_append {above : List FileTree} {place found : FileTree} {front idle : List Path}
    (followed : follow above place (front ++ idle) = .ok found)
    (ends : idle = [] ∨ idle = [[]]) :
    ∃ above', ∀ more, follow above place (front ++ more) = follow above' found more := by
  induction front generalizing above place with
  | nil =>
    refine ⟨above, fun more => ?_⟩
    rcases ends with rfl | rfl
    · cases followed
      rfl
    · cases place with
      | file content => cases followed
      | directory entries =>
        cases followed
        rfl
  | cons segment front ih =>
    cases place with
    | file content => cases followed
    | directory entries =>
      simp only [List.cons_append, follow_directory] at followed ⊢
      by_cases idle : isIdle segment = true
      · rw [if_pos idle] at followed
        simpa only [if_pos idle] using ih followed
      simp only [if_neg idle] at followed ⊢
      by_cases up : segment = Path.above
      · simp only [if_pos up] at followed ⊢
        cases above with
        | nil => exact ih followed
        | cons parent others => exact ih followed
      simp only [if_neg up] at followed ⊢
      by_cases long : maxNameSize < Path.size segment
      · rw [if_pos long] at followed
        cases followed
      simp only [if_neg long] at followed ⊢
      cases entry : entries.lookup segment with
      | none =>
        rw [entry] at followed
        cases followed
      | some next =>
        rw [entry] at followed
        exact ih followed

theorem follow_names {above : List FileTree} {tree : FileTree} (orderly : tree.Orderly)
    {names : List Path} {content : Bytes} (leads : Leads tree names content) {found : FileTree}
    (followed : follow above tree names = .ok found) : found = .file content := by
  induction leads generalizing above with
  | file =>
    cases followed
    rfl
  | @entry entries name tree names content member leads ih =>
    obtain - | ⟨ordered, proper, inner⟩ := orderly
    have isName := proper _ member
    rw [follow_directory, if_neg (by simp [isName.busy]), if_neg isName.not_above] at followed
    split at followed
    · cases followed
    · rw [lookup_of_mem ordered member] at followed
      exact ih (inner _ member) followed

theorem orderly_of_follow {above : List FileTree} {place found : FileTree} {segments : List Path}
    (around : ∀ parent ∈ above, Orderly parent) (orderly : place.Orderly)
    (followed : follow above place segments = .ok found) : found.Orderly := by
  fun_induction follow above place segments
  case case1 =>
    cases followed
    exact orderly
  case case2 | case6 | case7 => cases followed
  case case3 ih | case4 ih => exact ih around orderly followed
  case case5 ih =>
    obtain ⟨parent, others⟩ := List.forall_mem_cons.mp around
    exact ih others parent followed
  case case8 looked ih =>
    refine ih (List.forall_mem_cons.mpr ⟨orderly, around⟩) ?_ followed
    obtain ⟨before, behind, rfl, -⟩ := List.lookup_eq_some_iff.mp looked
    obtain - | ⟨-, -, inner⟩ := orderly
    exact inner (_, _) (List.mem_append_right _ List.mem_cons_self)

theorem find_eq_ok {files found : FileTree} {path : Path} (answer : files.find path = .ok found) :
    path ≠ [] ∧ follow [] files path.segments = .ok found := by
  unfold find at answer
  repeat' split at answer
  case isFalse.isFalse.isFalse filled => exact ⟨filled, answer⟩
  all_goals cases answer

theorem orderly_of_find {files found : FileTree} {path : Path} (orderly : files.Orderly)
    (answer : files.find path = .ok found) : found.Orderly :=
  orderly_of_follow (List.forall_mem_nil _) orderly (find_eq_ok answer).2

theorem find_eq_ok_of_read {files : FileTree} {path : Path} {content : Bytes}
    (answer : files.read path = .ok content) : files.find path = .ok (.file content) := by
  unfold read at answer
  split at answer
  · next found =>
    cases answer
    exact found
  · cases answer
  · cases answer

theorem read_under {files tree : FileTree} (orderly : files.Orderly) {root : Path}
    (found : files.find root = .ok tree) {names : List Path} {content answer : Bytes}
    (leads : Leads tree names content) (read : files.read (root.under names) = .ok answer) :
    answer = content := by
  obtain ⟨filled, followed⟩ := find_eq_ok found
  have inner := orderly_of_find orderly found
  obtain ⟨front, parts, place⟩ := segments_under filled (inner.isName leads)
  -- A slash at the end of the root is an empty segment, which is not there below the root.
  obtain ⟨idle, rootParts, ends⟩ :
      ∃ idle, root.segments = front ++ idle ∧ (idle = [] ∨ idle = [[]]) := by
    rcases place with same | same
    · exact ⟨[], by rw [same, List.append_nil], .inl rfl⟩
    · exact ⟨[[]], same, .inr rfl⟩
  rw [rootParts] at followed
  obtain ⟨above, continues⟩ := follow_append followed ends
  obtain ⟨-, reached⟩ := find_eq_ok (find_eq_ok_of_read read)
  rw [parts, continues] at reached
  cases follow_names inner leads reached
  rfl

end FileTree

end Mustache
