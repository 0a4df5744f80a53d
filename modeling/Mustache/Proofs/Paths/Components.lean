import Mathlib.Data.List.TakeWhile
import Mustache.Path

namespace Mustache.Path

theorem segments_append (left right : Path) :
    segments (left ++ '/' :: right) = segments left ++ segments right := by
  fun_induction segments left with
  | case1 => rfl
  | case2 rest ih => rw [List.cons_append, segments, ih, List.cons_append]
  | case3 c rest _ parts => exact absurd parts (segments_ne_nil rest)
  | case4 c rest other segment others parts ih =>
    rw [List.cons_append, segments.eq_3 _ _ other, ih, parts]
    rfl

theorem segments_of_not_mem {segment : Path} (plain : '/' ∉ segment) :
    segments segment = [segment] := by
  induction segment with
  | nil => rfl
  | cons c segment ih =>
    obtain ⟨other, plain⟩ := not_or.mp (mt List.mem_cons.mpr plain)
    rw [segments.eq_3 _ _ (Ne.symm other), ih plain]

theorem not_mem_of_mem_segments {path segment : Path} (member : segment ∈ segments path) :
    '/' ∉ segment := by
  fun_induction segments path generalizing segment with
  | case1 =>
    rw [List.mem_singleton.mp member]
    exact List.not_mem_nil
  | case2 rest ih =>
    rcases List.mem_cons.mp member with rfl | later
    · exact List.not_mem_nil
    · exact ih later
  | case3 c rest _ parts => exact absurd parts (segments_ne_nil rest)
  | case4 c rest other first others parts ih =>
    rw [parts] at ih
    rcases List.mem_cons.mp member with rfl | later
    · rw [List.mem_cons, not_or]
      exact ⟨Ne.symm other, ih List.mem_cons_self⟩
    · exact ih (List.mem_cons_of_mem _ later)

theorem segments_ofSegments {parts : List Path} (filled : parts ≠ [])
    (plain : ∀ part ∈ parts, '/' ∉ part) : segments (ofSegments parts) = parts := by
  induction parts with
  | nil => exact absurd rfl filled
  | cons part parts ih =>
    obtain ⟨first, others⟩ := List.forall_mem_cons.mp plain
    cases parts with
    | nil => exact segments_of_not_mem first
    | cons next parts =>
      rw [ofSegments, segments_append, segments_of_not_mem first, ih (List.cons_ne_nil _ _) others]
      · rfl
      · exact List.cons_ne_nil _ _

theorem ofSegments_cons (part : Path) {parts : List Path} (filled : parts ≠ []) :
    ofSegments (part :: parts) = part ++ '/' :: ofSegments parts := by
  cases parts with
  | nil => exact absurd rfl filled
  | cons next parts => rfl

theorem ofSegments_append_last (front : List Path) (last more : Path) :
    ofSegments (front ++ [last]) ++ more = ofSegments (front ++ [last ++ more]) := by
  induction front with
  | nil => rfl
  | cons part front ih =>
    have filled (segment : Path) : front ++ [segment] ≠ [] :=
      List.append_ne_nil_of_right_ne_nil _ (List.cons_ne_nil _ _)
    rw [List.cons_append, List.cons_append, ofSegments_cons part (filled _),
      ofSegments_cons part (filled _), List.append_assoc, List.cons_append, ih]

theorem isIdle_of_length {segment : Path} (long : 1 < segment.length) : isIdle segment = false := by
  rcases segment with _ | ⟨first, _ | ⟨second, others⟩⟩
  · exact absurd long (by decide)
  · exact absurd long (Nat.lt_irrefl 1)
  · simp [isIdle, here]

def named (path : Path) : List Component := (segments path).filterMap Component.ofSegment?

theorem ofSegment_eq_none_iff {segment : Path} :
    Component.ofSegment? segment = none ↔ isIdle segment = true := by
  unfold Component.ofSegment?
  split
  · next idle => simp [idle]
  · next busy => split <;> simp [busy]

theorem ofSegment_eq_entry_iff {segment name : Path} :
    Component.ofSegment? segment = some (.entry name) ↔
      segment = name ∧ isIdle name = false ∧ name ≠ above := by
  unfold Component.ofSegment?
  split
  · next idle =>
    simp only [reduceCtorEq, false_iff]
    rintro ⟨rfl, busy, -⟩
    simp [busy] at idle
  · next busy =>
    split
    · next up =>
      simp only [Option.some.injEq, reduceCtorEq, false_iff]
      rintro ⟨rfl, -, other⟩
      exact other up
    · next other =>
      simp only [Option.some.injEq, Component.entry.injEq]
      refine ⟨?_, And.left⟩
      rintro rfl
      exact ⟨rfl, eq_false_of_ne_true busy, other⟩

theorem leading_slash (left right : Path) :
    leading (left ++ '/' :: right) = leading (left ++ ['/']) := by
  cases left with
  | nil => rfl
  | cons c left =>
    have heads : (segments (c :: left ++ '/' :: right)).head? =
        (segments (c :: left ++ ['/'])).head? := by
      rw [segments_append, segments_append]
      cases parts : segments (c :: left) with
      | nil => exact absurd parts (segments_ne_nil _)
      | cons part parts => rfl
    simp only [leading, heads]
    rfl

theorem leading_append {left : Path} (filled : left ≠ []) (right : Path) :
    leading (left ++ '/' :: right) = leading left := by
  cases left with
  | nil => exact absurd rfl filled
  | cons c left =>
    have heads : (segments (c :: left ++ '/' :: right)).head? = (segments (c :: left)).head? := by
      rw [segments_append]
      cases parts : segments (c :: left) with
      | nil => exact absurd parts (segments_ne_nil _)
      | cons part parts => rfl
    simp only [leading, heads]
    rfl

theorem components_slash (left right : Path) :
    components (left ++ '/' :: right) = components (left ++ ['/']) ++ named right := by
  simp only [components, leading_slash left right, segments_append, List.filterMap_append, named]
  simp [segments, Component.ofSegment?, isIdle]

theorem components_append {left : Path} (filled : left ≠ []) (right : Path) :
    components (left ++ '/' :: right) = components left ++ named right := by
  simp only [components, leading_append filled, segments_append, List.filterMap_append, named,
    List.append_assoc]

theorem components_join {base path : Path} (filled : base ≠ [])
    (relative : isAbsolute path = false) :
    components (join base path) = components base ++ named path := by
  unfold join
  rw [if_neg (by simp [relative])]
  split
  · next slash =>
    obtain ⟨front, rfl⟩ := List.getLast?_eq_some_iff.mp (slash.resolve_left filled)
    rw [List.append_assoc, List.singleton_append, components_slash]
  · exact components_append filled path

theorem leading_eq_nil {path first : Path} {others : List Path}
    (parts : segments path = first :: others) (busy : isIdle first = false) :
    leading path = [] := by
  have relative : isAbsolute path = false := by
    by_contra slash
    obtain ⟨rest, rfl⟩ : ∃ rest, path = '/' :: rest := by
      cases path with
      | nil => exact absurd rfl slash
      | cons c rest => exact ⟨rest, by simpa [isAbsolute] using slash⟩
    rw [segments, List.cons.injEq] at parts
    rw [← parts.1] at busy
    cases busy
  have other : first ≠ here := by
    rintro rfl
    cases busy
  rw [leading, parts]
  simp [relative, other]

theorem leading_congr {path path' : Path} {front others others' : List Path} {name name' : Path}
    (parts : segments path = front ++ name :: others)
    (parts' : segments path' = front ++ name' :: others') (busy : isIdle name = false)
    (busy' : isIdle name' = false) :
    leading path = leading path' := by
  cases front with
  | nil => rw [leading_eq_nil parts busy, leading_eq_nil parts' busy']
  | cons part front =>
    have filled (last : Path) (more : List Path) : front ++ last :: more ≠ [] :=
      List.append_ne_nil_of_right_ne_nil _ (List.cons_ne_nil _ _)
    rw [← ofSegments_segments path, ← ofSegments_segments path', parts, parts', List.cons_append,
      List.cons_append, ofSegments_cons part (filled _ _), ofSegments_cons part (filled _ _),
      leading_slash, leading_slash _ (ofSegments (front ++ name' :: others'))]

theorem trimIdle_append {front idles : List Path} {name : Path} (busy : isIdle name = false)
    (idle : ∀ segment ∈ idles, isIdle segment = true) :
    trimIdle (front ++ name :: idles) = front ++ [name] := by
  have behind : ∀ segment ∈ idles.reverse, isIdle segment = true := by simpa using idle
  cases front with
  | nil => rw [List.nil_append, trimIdle, List.dropWhile_eq_nil_iff.mpr behind]; rfl
  | cons part front =>
    rw [List.cons_append, trimIdle, List.reverse_append, List.reverse_cons, List.append_assoc,
      List.dropWhile_append_of_pos behind, List.singleton_append,
      List.dropWhile_cons_of_neg (by simp [busy]), List.reverse_cons, List.reverse_reverse]
    rfl

theorem entry_not_mem_leading {path name : Path} : Component.entry name ∉ leading path := by
  unfold leading
  split
  · simp
  · split <;> simp

theorem segments_of_fileName {path name : Path} (found : fileName? path = some name) :
    ∃ front idles, segments path = front ++ name :: idles ∧
      (∀ segment ∈ idles, isIdle segment = true) ∧ isIdle name = false ∧ name ≠ above := by
  have last : (components path).getLast? = some (.entry name) := by
    unfold fileName? at found
    split at found
    · next last =>
      cases found
      exact last
    · cases found
  rw [components, List.getLast?_append, Option.or_eq_some_iff] at last
  rcases last with last | ⟨-, last⟩
  · rw [List.getLast?_filterMap, List.findSome?_eq_some_iff] at last
    obtain ⟨behind, segment, before, parts, meant, idle⟩ := last
    obtain ⟨rfl, busy, other⟩ := ofSegment_eq_entry_iff.mp meant
    refine ⟨before.reverse, behind.reverse, ?_, ?_, busy, other⟩
    · rw [← List.reverse_reverse (segments path), parts]
      simp
    · intro segment member
      exact ofSegment_eq_none_iff.mp (idle segment (List.mem_reverse.mp member))
  · exact absurd (List.mem_of_getLast? last) entry_not_mem_leading

theorem splitName_of_none {name : Path} (bare : (splitName name).2 = none) :
    (splitName name).1 = name := by
  revert bare
  simp only [splitName]
  split
  · exact fun _ => rfl
  · exact fun bare => nomatch bare

theorem named_of_segments {path name : Path} {front idles : List Path}
    (parts : segments path = front ++ name :: idles)
    (idle : ∀ segment ∈ idles, isIdle segment = true) (busy : isIdle name = false)
    (other : name ≠ above) :
    named path = front.filterMap Component.ofSegment? ++ [.entry name] := by
  have behind : idles.filterMap Component.ofSegment? = [] :=
    List.filterMap_eq_nil_iff.mpr fun segment member =>
      ofSegment_eq_none_iff.mpr (idle segment member)
  rw [named, parts, List.filterMap_append,
    List.filterMap_cons_some (ofSegment_eq_entry_iff.mpr ⟨rfl, busy, other⟩), behind]

theorem components_withExtension {path name extension : Path} (found : fileName? path = some name)
    (bare : (splitName name).2 = none) (filled : extension ≠ []) (plain : '/' ∉ extension) :
    ∃ front, components path = front ++ [.entry name] ∧
      components (path.withExtension extension) = front ++ [.entry (name ++ '.' :: extension)] := by
  obtain ⟨front, idles, parts, idle, busy, other⟩ := segments_of_fileName found
  have text : path.withExtension extension = ofSegments (front ++ [name ++ '.' :: extension]) := by
    rw [withExtension, found]
    simp only [splitName_of_none bare, if_neg filled, Nat.sub_self, Nat.sub_zero, List.take_length]
    rw [trimmed, parts, trimIdle_append busy idle, ofSegments_append_last]
  have newParts :
      segments (path.withExtension extension) = front ++ [name ++ '.' :: extension] := by
    rw [text]
    refine segments_ofSegments (List.append_ne_nil_of_right_ne_nil _ (List.cons_ne_nil _ _)) ?_
    intro part member
    have listed {segment : Path} (member : segment ∈ front ++ name :: idles) : '/' ∉ segment :=
      not_mem_of_mem_segments (parts ▸ member)
    rcases List.mem_append.mp member with before | last
    · exact listed (List.mem_append_left _ before)
    · have namePlain := listed (List.mem_append_right front (List.mem_cons_self (a := name)))
      rw [List.mem_singleton.mp last]
      simp [namePlain, plain]
  have long : 2 < (name ++ '.' :: extension).length := by
    have : name ≠ [] := by
      rintro rfl
      cases busy
    have := List.length_pos_iff.mpr this
    have := List.length_pos_iff.mpr filled
    rw [List.length_append, List.length_cons]
    omega
  have newBusy := isIdle_of_length (Nat.lt_of_succ_lt long)
  have newOther : name ++ '.' :: extension ≠ above := by
    intro same
    rw [same] at long
    exact absurd long (by decide)
  refine ⟨leading path ++ front.filterMap Component.ofSegment?, ?_, ?_⟩
  · rw [List.append_assoc, ← named_of_segments parts idle busy other]
    rfl
  · rw [List.append_assoc, leading_congr parts newParts busy newBusy,
      ← named_of_segments newParts (by simp) newBusy newOther]
    rfl

end Mustache.Path
