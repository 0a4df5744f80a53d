import Mathlib
import Mustache.Embed.AccessorName

/-!
# Accessor names are normal forms

The name of an accessor is made in three stages, which cannot be told apart in the result: a
lower-case form can be of any number of characters, digits and underscores among them. The first
stage leaves no capital (`small_of_mem_snakeFrom`), the second nothing else that cannot stand in a
name (`usable_of_mem_collapseFrom`), and the third one mends the start (`isUsable_nameOfChars`). A
name that can be one passes through all of them as it is (`accessorName_of_isUsable`).

Little has to be known of letters for this: which characters of ASCII are upper case, and that no
lower-case form holds a capital of ASCII (`CaseTables.Standard`). The tables of Unicode are such
tables (`standard_unicode`).
-/

namespace Mustache

structure CaseTables.Standard (tables : CaseTables) : Prop where
  isUpper_ascii : ∀ c : Char, c.toNat < 0x80 → tables.isUpper c = c.isUpper
  lowerChars_small : ∀ c, ∀ d ∈ tables.lowerChars c, d.isUpper = false

namespace Proofs.Embedding

def IsUsableChar (c : Char) : Prop := c.isLower = true ∨ c.isDigit = true ∨ c = '_'

theorem isUpper_iff {c : Char} : c.isUpper = true ↔ 0x41 ≤ c.toNat ∧ c.toNat ≤ 0x5a := by
  simp [Char.isUpper, UInt32.le_iff_toNat_le]

theorem isLower_iff {c : Char} : c.isLower = true ↔ 0x61 ≤ c.toNat ∧ c.toNat ≤ 0x7a := by
  simp [Char.isLower, UInt32.le_iff_toNat_le]

theorem isDigit_iff {c : Char} : c.isDigit = true ↔ 0x30 ≤ c.toNat ∧ c.toNat ≤ 0x39 := by
  simp [Char.isDigit, UInt32.le_iff_toNat_le]

theorem isDigitChar_iff {c : Char} : isDigitChar c = true ↔ c.isDigit = true := by
  simp [isDigitChar, isDigit_iff]

theorem isNameChar_iff {c : Char} : isNameChar c = true ↔ c.isUpper = true ∨ IsUsableChar c := by
  simp only [isNameChar, IsUsableChar, isUpper_iff, isLower_iff, Bool.or_eq_true, Bool.and_eq_true,
    decide_eq_true_eq, beq_iff_eq, isDigitChar_iff, or_assoc]

theorem IsUsableChar.ascii {c : Char} (usable : IsUsableChar c) :
    c.toNat < 0x80 ∧ c.isUpper = false := by
  rw [← Bool.not_eq_true, isUpper_iff]
  rcases usable with lower | digit | rfl
  · rw [isLower_iff] at lower
    omega
  · rw [isDigit_iff] at digit
    omega
  · decide

variable {tables : CaseTables}

theorem small_of_mem_snakeFrom (standard : tables.Standard) {afterLower : Bool} {chars : List Char}
    {c : Char} (member : c ∈ tables.snakeFrom afterLower chars) : c.isUpper = false := by
  induction chars generalizing afterLower with
  | nil => cases member
  | cons d rest ih =>
    rw [CaseTables.snakeFrom] at member
    split at member
    · rcases List.mem_append.mp member with word | later
      · rcases List.mem_append.mp word with mark | form
        · have underscore : c = '_' := by cases afterLower <;> simp_all
          rw [underscore]
          rfl
        · exact standard.lowerChars_small d c form
      · exact ih later
    · next other =>
      rcases List.mem_cons.mp member with rfl | later
      · -- A capital of ASCII is upper case by the tables, so it does not come here.
        apply eq_false_of_ne_true
        intro capital
        have ascii := isUpper_iff.mp capital
        rw [standard.isUpper_ascii c (by omega)] at other
        exact other capital
      · exact ih later

theorem mem_collapseFrom {inRun : Bool} {chars : List Char} {c : Char}
    (member : c ∈ collapseFrom inRun chars) : c = '_' ∨ c ∈ chars := by
  fun_induction collapseFrom inRun chars with
  | case1 => cases member
  | case2 inRun d rest valid ih =>
    rcases List.mem_cons.mp member with rfl | later
    · exact .inr List.mem_cons_self
    · exact (ih later).imp_right (List.mem_cons_of_mem d)
  | case3 d rest invalid ih => exact (ih member).imp_right (List.mem_cons_of_mem d)
  | case4 inRun d rest invalid first ih =>
    rcases List.mem_cons.mp member with rfl | later
    · exact .inl rfl
    · exact (ih later).imp_right (List.mem_cons_of_mem d)

theorem usable_of_mem_collapseFrom {inRun : Bool} {chars : List Char} {c : Char}
    (small : ∀ d ∈ chars, d.isUpper = false) (member : c ∈ collapseFrom inRun chars) :
    IsUsableChar c := by
  rcases isNameChar_iff.mp (isNameChar_of_mem_collapseFrom member) with capital | usable
  · rcases mem_collapseFrom member with rfl | there
    · cases capital
    · rw [small c there] at capital
      cases capital
  · exact usable

structure IsUsable (name : List Char) : Prop where
  filled : name ≠ []
  usable : ∀ c ∈ name, IsUsableChar c
  starts : ∀ c ∈ name.head?, c.isDigit = false
  named : name ≠ ['_']

theorem isUsable_nameOfChars {chars : List Char} (usable : ∀ c ∈ chars, IsUsableChar c) :
    IsUsable (nameOfChars chars) := by
  have standard : IsUsable standardName := by
    refine ⟨by decide, fun c member => .inl ?_, fun c first => ?_, by decide⟩
    · exact List.all_eq_true.mp (by decide) c member
    · cases first
      rfl
  fun_cases nameOfChars chars with
  | case1 => exact standard
  | case2 => exact standard
  | case3 c rest _ digit =>
    refine ⟨List.cons_ne_nil _ _, ?_, ?_, by simp⟩
    · exact List.forall_mem_cons.mpr ⟨.inr (.inr rfl), usable⟩
    · rintro d ⟨⟩
      rfl
  | case4 c rest lone digit =>
    refine ⟨List.cons_ne_nil _ _, usable, ?_, ?_⟩
    · rintro d ⟨⟩
      rwa [isDigitChar_iff, Bool.not_eq_true] at digit
    · rintro ⟨⟩
      exact lone rfl rfl

theorem snakeFrom_of_usable (standard : tables.Standard) {chars : List Char}
    (usable : ∀ c ∈ chars, IsUsableChar c) (afterLower : Bool) :
    tables.snakeFrom afterLower chars = chars := by
  induction chars generalizing afterLower with
  | nil => rfl
  | cons c rest ih =>
    obtain ⟨first, others⟩ := List.forall_mem_cons.mp usable
    obtain ⟨ascii, small⟩ := first.ascii
    rw [CaseTables.snakeFrom, standard.isUpper_ascii c ascii, small, if_neg Bool.false_ne_true,
      ih others]

theorem collapseFrom_of_usable {chars : List Char} (usable : ∀ c ∈ chars, IsUsableChar c)
    (inRun : Bool) : collapseFrom inRun chars = chars := by
  induction chars generalizing inRun with
  | nil => rfl
  | cons c rest ih =>
    obtain ⟨first, others⟩ := List.forall_mem_cons.mp usable
    rw [collapseFrom, if_pos (isNameChar_iff.mpr (.inr first)), ih others]

theorem nameOfChars_of_isUsable {name : List Char} (usable : IsUsable name) :
    nameOfChars name = name := by
  fun_cases nameOfChars name with
  | case1 => exact absurd rfl usable.filled
  | case2 => exact absurd rfl usable.named
  | case3 c rest _ digit =>
    rw [isDigitChar_iff, usable.starts c rfl] at digit
    cases digit
  | case4 => rfl

theorem accessorName_of_isUsable (standard : tables.Standard) {name : String}
    (usable : IsUsable name.toList) : tables.accessorName name = name := by
  rw [CaseTables.accessorName, snakeFrom_of_usable standard usable.usable,
    collapseFrom_of_usable usable.usable, nameOfChars_of_isUsable usable, String.ofList_toList]

theorem isUsable_accessorName (standard : tables.Standard) (name : String) :
    IsUsable (tables.accessorName name).toList := by
  rw [CaseTables.accessorName, String.toList_ofList]
  apply isUsable_nameOfChars
  intro c member
  exact usable_of_mem_collapseFrom (fun d there => small_of_mem_snakeFrom standard there) member

theorem lowerRuns_above_capitals :
    ∀ run ∈ Text.upperRuns, 0x5a < (run.first : Int) + run.shift := by
  decide +kernel

theorem isUpper_unicode_ascii {c : Char} (ascii : c.toNat < 0x80) :
    Text.isUpper c = c.isUpper := by
  have table := Text.isUpper_ascii c.toNat (List.mem_range.mpr ascii)
  rw [Char.ofNat_toNat] at table
  rw [Bool.eq_iff_iff, isUpper_iff, table]
  simp

theorem standard_unicode : CaseTables.unicode.Standard where
  isUpper_ascii c ascii := isUpper_unicode_ascii ascii
  lowerChars_small c d member := by
    change d ∈ Text.lowerChars c at member
    unfold Text.lowerChars at member
    split at member
    · simp only [List.mem_cons, List.not_mem_nil, or_false] at member
      rcases member with rfl | rfl <;> rfl
    · split at member
      · next run found =>
        have above := lowerRuns_above_capitals run (List.mem_of_find?_eq_some found)
        have inside := List.find?_some found
        simp only [Text.CaseRun.contains, Bool.and_eq_true, decide_eq_true_eq] at inside
        rw [List.mem_singleton.mp member, ← Bool.not_eq_true, isUpper_iff]
        have form := Char.toNat_ofNat (c.toNat + run.shift).toNat
        split at form <;> omega
      · next absent =>
        rw [List.mem_singleton.mp member, ← Bool.not_eq_true]
        intro capital
        have ascii := isUpper_iff.mp capital
        rw [← isUpper_unicode_ascii (by omega)] at capital
        obtain ⟨run, listed, inside⟩ := List.any_eq_true.mp capital
        exact List.find?_eq_none.mp absent run listed inside

/-- Whatever the tables say of letters beyond ASCII, the name of an accessor can be one, and naming
an accessor by it gives the same name again. -/
theorem accessorName_normal (name : String) :
    (IsUsable (accessorName name).toList ∧ accessorName (accessorName name) = accessorName name) ∧
      ∀ tables : CaseTables, tables.Standard →
        IsUsable (tables.accessorName name).toList ∧
          tables.accessorName (tables.accessorName name) = tables.accessorName name := by
  have normal (tables : CaseTables) (standard : tables.Standard) :
      IsUsable (tables.accessorName name).toList ∧
        tables.accessorName (tables.accessorName name) = tables.accessorName name := by
    have usable := isUsable_accessorName standard name
    exact ⟨usable, accessorName_of_isUsable standard usable⟩
  exact ⟨normal .unicode standard_unicode, normal⟩

theorem accessorName_normal_numeral :
    let numeral : Char → List Char := fun c => if c = 'Ⅸ' then ['9', '_'] else Text.lowerChars c
    let tables := { CaseTables.unicode with lowerChars := numeral }
    tables.Standard ∧ tables.accessorName "ⅨnavBar--é" = "_9_nav_bar_" ∧
      IsUsable "_9_nav_bar_".toList ∧ tables.accessorName "_9_nav_bar_" = "_9_nav_bar_" := by
  intro numeral tables
  have standard : tables.Standard := by
    refine ⟨standard_unicode.isUpper_ascii, fun c d member => ?_⟩
    change d ∈ numeral c at member
    unfold numeral at member
    split at member
    · simp only [List.mem_cons, List.not_mem_nil, or_false] at member
      rcases member with rfl | rfl <;> rfl
    · exact standard_unicode.lowerChars_small c d member
  have name : tables.accessorName "ⅨnavBar--é" = "_9_nav_bar_" := by decide +kernel
  have normal := (accessorName_normal "ⅨnavBar--é").2 tables standard
  rw [name] at normal
  exact ⟨standard, name, normal⟩

end Proofs.Embedding

end Mustache
