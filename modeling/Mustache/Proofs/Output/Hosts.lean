import Mustache.Host
import Mustache.Template.Printer
import Mustache.Proofs.Output.Likeness

/-!
# Data that a program hands over

What a program hands to a template shows only in the values that the template sees. So hosts are
compared as what they hold (`Matches`), whichever type holds it, and hosts that match turn into
values that are alike (`Matches.alike`). There are two cases of this:

* `render_unasked`: hosts that differ in fields without a tag that asks for them render the same.
* `render_mirrored`: JSON and any host that mirrors it render the same.
-/

namespace Mustache

def Host.ofJson : Json → Host
  | .null => .null
  | .bool b => .bool b
  | .int n => .int n
  | .uint n => .uint n
  | .float bits => .float bits
  | .text content => .text content
  | .list items => .list (items.map .json)
  | .map entries => .map (entries.map fun entry => (entry.1, .json entry.2))

def Host.ofData : Data → Host
  | .null => .null
  | .bool b => .bool b
  | .int n => .int n
  | .uint n => .uint n
  | .float bits => .float bits
  | .text content => .text content
  | .bytes content => .bytes content
  | .list items => .list (items.map .data)
  | .map entries => .map (entries.map fun entry => (entry.1, .data entry.2))
  | .object own => .adapter own

def Host.opened : Host → Host
  | .behind inner => inner
  | .json content => .ofJson content
  | .data content => .ofData content
  | host => host

def Host.item (entries : List (String × Host)) (key : String) : Host :=
  (entries.lookup key).getD .null

theorem Host.field_eq_item (entries : List (String × Host)) (key : String) :
    Host.field entries key = (Host.item entries key).toValue := by
  induction entries with
  | nil => rfl
  | cons entry entries ih =>
    obtain ⟨name, inner⟩ := entry
    by_cases same : name = key
    · simp [Host.field, Host.item, same]
    · have other : (key == name) = false := beq_false_of_ne (Ne.symm same)
      simp [Host.field, Host.item, List.lookup_cons, same, other, ih]

theorem Host.item_of_not_mem {entries : List (String × Host)} {key : String}
    (absent : key ∉ entries.map Prod.fst) : Host.item entries key = .null := by
  have missing : entries.lookup key = none := by
    rw [List.lookup_eq_none_iff]
    intro entry member
    apply bne_iff_ne.mpr
    rintro rfl
    exact absent (List.mem_map_of_mem member)
  rw [Host.item, missing, Option.getD_none]

theorem Host.field_json (entries : List (String × Json)) (key : String) :
    Host.field (entries.map fun entry => (entry.1, .json entry.2)) key =
      Json.field entries key := by
  induction entries with
  | nil => rfl
  | cons entry entries ih => simp only [List.map_cons, Host.field, Host.toValue, Json.field, ih]

theorem Host.field_data (entries : List (String × Data)) (key : String) :
    Host.field (entries.map fun entry => (entry.1, .data entry.2)) key =
      Data.field entries key := by
  induction entries with
  | nil => rfl
  | cons entry entries ih => simp only [List.map_cons, Host.field, Host.toValue, Data.field, ih]

theorem Host.toValue_ofJson (content : Json) : (Host.ofJson content).toValue = content.toValue := by
  cases content with
  | list items =>
    simp [Host.ofJson, Host.toValue, Json.toValue, Host.toValues_eq_map, Json.toValues_eq_map]
  | map entries =>
    simp [Host.ofJson, Host.toValue, Json.toValue, funext (Host.field_json entries)]
  | _ => rfl

theorem Host.toValue_ofData (content : Data) : (Host.ofData content).toValue = content.toValue := by
  cases content with
  | list items =>
    simp [Host.ofData, Host.toValue, Data.toValue, Host.toValues_eq_map, Data.toValues_eq_map]
  | map entries =>
    simp [Host.ofData, Host.toValue, Data.toValue, funext (Host.field_data entries)]
  | _ => rfl

theorem Host.toValue_opened (host : Host) : host.opened.toValue = host.toValue := by
  cases host with
  | json content => exact Host.toValue_ofJson content
  | data content => exact Host.toValue_ofData content
  | _ => rfl

def Json.isMap : Json → Bool
  | .map _ => true
  | _ => false

def Json.isRecords : Json → Bool
  | .list items => items.all isMap
  | json => json.isMap

theorem Json.text_of_isMap {json : Json} (isMap : json.isMap = true) :
    json.toValue.text? = none := by
  cases json with
  | map entries => rfl
  | _ => cases isMap

end Mustache

namespace Mustache.Proofs.Output

/-- Hosts that hold the same where it is asked for. Neither what a part stands behind nor the order
of entries counts. -/
inductive Matches (leaf : Host → Host → Prop) (asked : String → Prop) : Host → Host → Prop
  | leaf {host host' : Host} : leaf host host' → Matches leaf asked host host'
  | list {items items' : List Host} : items.length = items'.length →
      (∀ {item item'}, (item, item') ∈ items.zip items' → Matches leaf asked item item') →
      Matches leaf asked (.list items) (.list items')
  | map {entries entries' : List (String × Host)} : entries.isEmpty = entries'.isEmpty →
      (∀ key, asked key → Matches leaf asked (Host.item entries key) (Host.item entries' key)) →
      Matches leaf asked (.map entries) (.map entries')
  | scalar {host host' : Host} : Matches leaf asked host host' →
      Matches leaf asked (.scalar host) (.scalar host')
  | left {host host' : Host} : Matches leaf asked host.opened host' → Matches leaf asked host host'
  | right {host host' : Host} : Matches leaf asked host host'.opened → Matches leaf asked host host'

variable {leaf : Host → Host → Prop} {same : Value → Value → Prop} {asked : String → Prop}

theorem Matches.alike {host host' : Host} (matched : Matches leaf asked host host')
    (leaves : ∀ {host host'}, leaf host host' → same host.toValue host'.toValue) :
    Alike same asked host.toValue host'.toValue := by
  induction matched with
  | leaf known => exact .leaf (leaves known)
  | list length each ih =>
    simp only [Host.toValue, Host.toValues_eq_map]
    apply Alike.list
    · simpa using length
    · intro value value' member
      rw [List.zip_map, List.mem_map] at member
      obtain ⟨⟨item, item'⟩, listed, both⟩ := member
      cases both
      exact ih listed
  | map empty each ih =>
    simp only [Host.toValue, empty]
    apply Alike.fields
    intro key asks
    rw [Host.field_eq_item, Host.field_eq_item]
    exact ih key asks
  | scalar inner ih => exact .scalar ih
  | left inner ih => rwa [Host.toValue_opened] at ih
  | right inner ih => rwa [Host.toValue_opened] at ih

theorem matches_list {items items' : List Host}
    (each : List.Forall₂ (Matches leaf asked) items items') :
    Matches leaf asked (.list items) (.list items') := by
  obtain ⟨length, zipped⟩ := List.forall₂_iff_zip.mp each
  exact .list length zipped

theorem isEmpty_eq_of_keys {entries entries' : List (String × Host)}
    (keys : ∀ key, key ∈ entries.map Prod.fst ↔ key ∈ entries'.map Prod.fst) :
    entries.isEmpty = entries'.isEmpty := by
  cases entries with
  | nil =>
    cases entries' with
    | nil => rfl
    | cons entry entries' => exact absurd ((keys entry.1).mpr List.mem_cons_self) List.not_mem_nil
  | cons entry entries =>
    cases entries' with
    | nil => exact absurd ((keys entry.1).mp List.mem_cons_self) List.not_mem_nil
    | cons entry' entries' => rfl

theorem matches_map {entries entries' : List (String × Host)} (null : leaf .null .null)
    (keys : ∀ key, key ∈ entries.map Prod.fst ↔ key ∈ entries'.map Prod.fst)
    (each : ∀ key ∈ entries.map Prod.fst,
      Matches leaf asked (Host.item entries key) (Host.item entries' key)) :
    Matches leaf asked (.map entries) (.map entries') := by
  refine .map (isEmpty_eq_of_keys keys) ?_
  intro key _
  by_cases occurs : key ∈ entries.map Prod.fst
  · exact each key occurs
  · have absent : key ∉ entries'.map Prod.fst := fun occurs' => occurs ((keys key).mpr occurs')
    rw [Host.item_of_not_mem occurs, Host.item_of_not_mem absent]
    exact .leaf null

theorem indistinct_eq : Indistinct Eq := ⟨rfl, fun known => .inl known⟩

/-- Fields without a tag that asks for them do not show in the result, but for whether a map has any
entries. -/
theorem render_unasked (template : Template) :
    (∀ data data', Alike Eq (· ∈ template.keys) data data' →
      template.render data = template.render data') ∧
    ∀ host host', Matches Eq (· ∈ template.keys) host host' →
      template.render host.toValue = template.render host'.toValue := by
  have values (data data' : Value) (alike : Alike Eq (· ∈ template.keys) data data') :
      template.render data = template.render data' := by
    apply render_alike template indistinct_eq (fun key member => member) alike
    intro value value' _ known
    rw [known]
  refine ⟨values, ?_⟩
  intro host host' matched
  exact values _ _ (matched.alike fun known => congrArg Host.toValue known)

theorem render_unasked_secret :
    let item : Template := ⟨valueSource "name" true, [.value "name" true], {}⟩
    let template : Template :=
      ⟨blockSource .positive "users" item.source, [.block .positive "users" item], {}⟩
    let user (secret : Host) : Host := .map [("secret", secret), ("name", .text "Ada")]
    let host (secret : Host) : Host := .map [("users", .list [user secret])]
    template.render (host .null).toValue = .ok (Bytes.ofText "Ada") ∧
      template.render (host (.uint 7)).toValue = .ok (Bytes.ofText "Ada") := by
  intro item template user host
  have keys : template.keys = ["users", "name"] := by decide +kernel
  have users : Matches Eq (· ∈ template.keys) (user .null) (user (.uint 7)) := by
    refine .map (by rfl) ?_
    rw [keys]
    intro key asks
    rcases List.mem_pair.mp asks with rfl | rfl <;> exact .leaf rfl
  have hosts : Matches Eq (· ∈ template.keys) (host .null) (host (.uint 7)) := by
    refine .map (by rfl) ?_
    rw [keys]
    intro key asks
    rcases List.mem_pair.mp asks with rfl | rfl
    · rw [← keys]
      exact matches_list (.cons users .nil)
    · exact .leaf rfl
  have rendered : template.render (host .null).toValue = .ok (Bytes.ofText "Ada") := by
    decide +kernel
  refine ⟨rendered, ?_⟩
  rw [← (render_unasked template).2 _ _ hosts]
  exact rendered

/-! ## Mirrors of JSON -/

def integer? : Host → Option Int
  | .int n => some n.toInt
  | .uint n => some n.toNat
  | _ => none

inductive Mirrored : Host → Host → Prop
  | null : Mirrored .null .null
  | bool (b : Bool) : Mirrored (.bool b) (.bool b)
  | integer {host host' : Host} {n : Int} : integer? host = some n → integer? host' = some n →
      Mirrored host host'
  | float (bits : UInt64) : Mirrored (.float bits) (.float bits)
  | text (content : String) : Mirrored (.text content) (.text content)
  | bytes (content : String) : Mirrored (.text content) (.bytes (.ofText content))

def Mirrors (json : Json) (host : Host) : Prop := Matches Mirrored (fun _ => True) (.json json) host

theorem interchangeable_self {value : Value} (scalar : value.text? ≠ none) :
    Interchangeable value value := ⟨scalar, rfl, rfl, Iff.rfl⟩

theorem text_of_integer {host : Host} {n : Int} (number : integer? host = some n) :
    host.toValue.text? = some (.ofText (toString n)) := by
  cases host with
  | int m =>
    cases number
    rfl
  | uint m =>
    cases number
    rfl
  | _ => cases number

theorem number_of_integer {host : Host} {n : Int} (number : integer? host = some n) :
    host.toValue.typeName ∈ ["int", "uint", "float"] := by
  cases host with
  | int | uint => simp [Host.toValue, Value.typeName]
  | _ => cases number

theorem ofText_eq_nil_iff {content : String} : Bytes.ofText content = [] ↔ content = "" := by
  simp only [Bytes.ofText, List.flatMap_eq_nil_iff, String.utf8EncodeChar_ne_nil, imp_false]
  rw [← List.eq_nil_iff_forall_not_mem, String.toList_eq_nil_iff]

theorem interchangeable_of_mirrored {host host' : Host} (mirrored : Mirrored host host') :
    Interchangeable host.toValue host'.toValue := by
  cases mirrored with
  | null | bool | float | text => exact interchangeable_self (Option.some_ne_none _)
  | integer number number' =>
    have text := text_of_integer number
    have name := number_of_integer number
    have name' := number_of_integer number'
    refine ⟨by simp [text], by rw [text, text_of_integer number'], ?_, ?_⟩
    · rw [Value.isTruthy_number _ name, Value.isTruthy_number _ name']
    · constructor
      · intro flag
        simp [flag, Value.typeName] at name
      · intro flag
        simp [flag, Value.typeName] at name'
  | bytes content =>
    refine ⟨Option.some_ne_none _, rfl, ?_, by simp [Host.toValue]⟩
    rw [Bool.eq_iff_iff]
    simp [Host.toValue, Value.isTruthy, ofText_eq_nil_iff]

theorem indistinct_interchangeable : Indistinct Interchangeable :=
  ⟨interchangeable_self (Option.some_ne_none _), .inr⟩

theorem text_of_mem_heads {json : Json} (records : json.isRecords = true) {value : Value}
    (head : value ∈ heads json.toValue) : value.text? = none := by
  cases json with
  | map entries =>
    rw [List.mem_singleton.mp head]
    rfl
  | list items =>
    rw [Json.toValue, Json.toValues_eq_map] at head
    rcases List.mem_cons.mp head with rfl | item
    · rfl
    · obtain ⟨inner, member, rfl⟩ := List.mem_map.mp item
      exact Json.text_of_isMap (List.all_eq_true.mp records inner member)
  | _ => cases records

/-- Whichever types hold it, data that mirrors JSON renders as the JSON does. -/
theorem render_mirrored (template : Template) {json : Json} {host : Host}
    (records : json.isRecords = true) (mirrors : Mirrors json host) :
    template.render json.toValue = template.render host.toValue := by
  apply render_alike template indistinct_interchangeable (fun _ _ => trivial)
    (mirrors.alike interchangeable_of_mirrored)
  intro value value' head known
  exact absurd (text_of_mem_heads records head) known.scalar

theorem render_mirrored_rows :
    let row : Template := ⟨valueSource "name" true ++ valueSource "size" true,
      [.value "name" true, .value "size" true], {}⟩
    let template : Template :=
      ⟨blockSource .positive "rows" row.source, [.block .positive "rows" row], {}⟩
    let json : Json := .map [("next", .null),
      ("rows", .list [.map [("name", .text "a&b"), ("size", .int 7)]])]
    let host : Host := .behind (.map [("rows", .list
      [.data (.map [("size", .uint 7), ("name", .bytes (.ofText "a&b"))])]), ("next", .null)])
    json.isRecords = true ∧ template.render json.toValue = .ok (Bytes.ofText "a&amp;b7") ∧
      template.render host.toValue = .ok (Bytes.ofText "a&amp;b7") := by
  intro row template json host
  have records : json.isRecords = true := rfl
  have rendered : template.render json.toValue = .ok (Bytes.ofText "a&amp;b7") := by
    decide +kernel
  have inner : Mirrors (.map [("name", .text "a&b"), ("size", .int 7)])
      (.data (.map [("size", .uint 7), ("name", .bytes (.ofText "a&b"))])) := by
    refine .left (.right (matches_map .null (by simp [or_comm]) ?_))
    intro key occurs
    rcases List.mem_pair.mp occurs with rfl | rfl
    · exact .left (.right (.leaf (.bytes "a&b")))
    · exact .left (.right (.leaf (.integer rfl rfl)))
  have mirrors : Mirrors json host := by
    refine .left (.right (matches_map .null (by simp [or_comm]) ?_))
    intro key occurs
    rcases List.mem_pair.mp occurs with rfl | rfl
    · exact .left (.leaf .null)
    · exact .left (matches_list (.cons inner .nil))
  refine ⟨records, rendered, ?_⟩
  rw [← render_mirrored template records mirrors]
  exact rendered

end Mustache.Proofs.Output
