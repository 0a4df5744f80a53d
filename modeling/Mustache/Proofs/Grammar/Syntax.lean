import Mathlib.Data.List.Basic
import Mustache.Compile

/-!
# The grammar of sources

What a template source may look like, said without the scanners that read it. A name is a first byte
of one class and further bytes of another; the names in tags are keys or paths, with blanks around
them. `TagForm` and `ClosingForm` give the written forms of tags, and `Derives` splits a source into
text, tags, blocks with their closing tags, and partials, next to the tokens that they stand for.

Every derivation stands for a tree: bodies and partials are derived as sources of their own, with
offsets that start again.
-/

namespace Mustache.Proofs.Grammar

def Blanks (bytes : Bytes) : Prop := ∀ b ∈ bytes, isBlank b = true

def IsName (first later : UInt8 → Bool) : Bytes → Prop
  | [] => False
  | b :: rest => first b = true ∧ ∀ c ∈ rest, later c = true

inductive Padded (first later : UInt8 → Bool) (name : Bytes) : Bytes → Prop
  | mk {before after : Bytes} : Blanks before → IsName first later name → Blanks after →
      Padded first later name (before ++ name ++ after)

abbrev PaddedKey : Bytes → Bytes → Prop := Padded isKeyStart isKeyByte

abbrev PaddedPath : Bytes → Bytes → Prop := Padded isPathByte isPathByte

structure Relative (path : Bytes) : Prop where
  not_rooted : path.head? ≠ some slashMark
  not_above : [dotMark, dotMark] ∉ path.splitOn slashMark

def openTag : Bytes := [openBrace, openBrace]

def closeTag (braces : Nat) : Bytes := List.replicate braces closeBrace

def blockMark : Polarity → UInt8
  | .positive => hashMark
  | .inverted => caretMark

inductive TagForm : Tag → Bytes → Prop
  | value {key inner : Bytes} : PaddedKey key inner →
      TagForm (.value (nameText key) true) (inner ++ closeTag 2)
  | raw {before key inner : Bytes} : Blanks before → PaddedKey key inner →
      TagForm (.value (nameText key) false) (before ++ openBrace :: (inner ++ closeTag 3))
  | opening {polarity : Polarity} {before key inner : Bytes} : Blanks before → PaddedKey key inner →
      TagForm (.opening polarity (nameText key))
        (before ++ blockMark polarity :: (inner ++ closeTag 2))
  | inclusion {before path inner : Bytes} : Blanks before → PaddedPath path inner →
      TagForm (.inclusion (nameText path)) (before ++ angleMark :: (inner ++ closeTag 2))

inductive ClosingForm : String → Bytes → Prop
  | mk {before key inner : Bytes} : Blanks before → Padded isKeyByte isKeyByte key inner →
      ClosingForm (nameText key) (before ++ slashMark :: (inner ++ closeTag 2))

def Plain (text : Bytes) : Prop := ¬ openTag <:+: text

/-- Bytes that two opening braces may follow: a brace in front of these would belong to them. -/
def EndsApart (bytes : Bytes) : Prop := bytes.getLast? ≠ some openBrace

instance (bytes : Bytes) : Decidable (EndsApart bytes) := inferInstanceAs (Decidable (_ ≠ _))

/-- Tokens that text may stand in front of. Text is never split, so none of it follows. -/
def TagFirst : List Token → Prop
  | .literal _ _ :: _ => False
  | _ => True

inductive Derives (loader : Loader) (options : Options) : Nat → Bytes → List Token → Prop
  | done {start : Nat} : Derives loader options start [] []
  | literal {start : Nat} {text rest : Bytes} {tokens : List Token} :
      text ≠ [] → Plain text → (rest ≠ [] → EndsApart text) →
      TagFirst tokens → Derives loader options (start + text.length) rest tokens →
      Derives loader options start (text ++ rest) (.literal start text :: tokens)
  | value {start : Nat} {tag rest : Bytes} {key : String} {escaped : Bool} {tokens : List Token} :
      TagForm (.value key escaped) tag →
      Derives loader options (start + (openTag ++ tag).length) rest tokens →
      Derives loader options start (openTag ++ tag ++ rest) (.value key escaped :: tokens)
  | block {start : Nat} {opening body closing rest : Bytes} {polarity : Polarity} {key : String}
      {inner tokens : List Token} :
      TagForm (.opening polarity key) opening → Derives loader options 0 body inner →
      EndsApart body → ClosingForm key closing →
      Derives loader options
        (start + (openTag ++ opening ++ body ++ (openTag ++ closing)).length) rest tokens →
      Derives loader options start (openTag ++ opening ++ body ++ (openTag ++ closing) ++ rest)
        (.block polarity key ⟨body, inner, options⟩ :: tokens)
  | inclusion {start : Nat} {tag rest path source : Bytes} {inner tokens : List Token} :
      TagForm (.inclusion (nameText path)) tag → Relative path →
      loader (nameText path) = .ok source → Derives loader options 0 source inner →
      Derives loader options (start + (openTag ++ tag).length) rest tokens →
      Derives loader options start (openTag ++ tag ++ rest)
        (.inclusion (nameText path) ⟨source, inner, options⟩ :: tokens)

theorem segments_map (path : Bytes) :
    Path.segments (path.map Char.ofUInt8) =
      (path.splitOn slashMark).map (List.map Char.ofUInt8) := by
  induction path with
  | nil => rfl
  | cons b path ih =>
    rw [List.splitOn, List.splitOnP_cons_eq_if_modifyHead, ← List.splitOn, List.map_cons]
    by_cases slash : b = slashMark
    · subst slash
      change [] :: Path.segments (path.map Char.ofUInt8) = _
      rw [ih]
      rfl
    · have other : Char.ofUInt8 b ≠ '/' := fun same => slash (ofUInt8_injective same)
      rw [if_neg (by simpa using slash), Path.segments.eq_3 _ _ other, ih]
      cases parts : path.splitOn slashMark with
      | nil => exact absurd parts (List.splitOnP_ne_nil _ _)
      | cons part parts => rfl

theorem relative_iff {path : Bytes} :
    Relative path ↔ Path.isInside (nameText path).toList = true := by
  have rooted : Path.isAbsolute (path.map Char.ofUInt8) = true ↔ path.head? = some slashMark := by
    cases path with
    | nil => decide
    | cons b path =>
      simp only [Path.isAbsolute, List.map_cons, List.head?_cons, beq_iff_eq, Option.some.injEq]
      exact ⟨fun same => ofUInt8_injective same, fun same => same ▸ rfl⟩
  have above : Path.above ∈ Path.segments (path.map Char.ofUInt8) ↔
      [dotMark, dotMark] ∈ path.splitOn slashMark := by
    rw [segments_map, show Path.above = [dotMark, dotMark].map Char.ofUInt8 from rfl,
      List.mem_map_of_injective (List.map_injective_iff.mpr fun _ _ => ofUInt8_injective)]
  simp only [nameText, String.toList_ofList, Path.isInside, Bool.and_eq_true, Bool.not_eq_true',
    ← Bool.not_eq_true, List.contains_iff_mem, rooted, above]
  exact ⟨fun inside => ⟨inside.not_rooted, inside.not_above⟩, fun both => ⟨both.1, both.2⟩⟩

end Mustache.Proofs.Grammar
