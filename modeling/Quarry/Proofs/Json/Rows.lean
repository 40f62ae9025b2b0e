import Mathlib.Data.List.Forall2
import Quarry.Json.Rows
import Quarry.Proofs.Json.Members

/-!
# Rows of responses

An array gives a row for each item, an object one row and anything else none. A string is to appear in a
row as its own text and any other value as its JSON text. That is so of all properties of objects, but not
of strings that are items themselves: they keep their quotes and escapes.
-/

namespace Quarry.Json

/-! ## 1. Rows -/

/-- The text that a value is to appear as in a row. -/
inductive Shows : Json → String → Prop
  | string (s : String) : Shows (string s) s
  | other {value : Json} (hvalue : ∀ s, value ≠ string s) : Shows value value.compact

/-- The row of an item. Each key of an object stands in it once, with the text of its value, and what is no
object stands under the key `value`. -/
inductive IsRow : Json → Properties → Prop
  | object {members : List (String × Json)} {row : Properties}
    (hkeys : (members.map Prod.fst).Nodup)
    (hrow : List.Forall₂ (fun m p => p.1 = m.1 ∧ Shows m.2 p.2) members row) :
    IsRow (object members) row
  | bare {item : Json} {text : String} (hitem : ∀ members, item ≠ object members)
    (htext : Shows item text) : IsRow item [("value", text)]

/-- The rows that a document is to give. -/
structure KeepsText (document : Json) (rows : List Properties) : Prop where
  ofItems : ∀ items, document = array items → List.Forall₂ IsRow items rows
  ofObject : ∀ members, document = object members → ∃ row, rows = [row] ∧ IsRow document row
  ofOther : (∀ items, document ≠ array items) → (∀ members, document ≠ object members) → rows = []

/-- The row that an item has. A string keeps its quotes and escapes. -/
inductive HasRow : Json → Properties → Prop
  | regular {item : Json} {row : Properties} (hstring : ∀ s, item ≠ string s) (hrow : IsRow item row) :
    HasRow item row
  | quoted (s : String) : HasRow (string s) [("value", stringText s)]

/-- The rows that a document has. -/
inductive HasRows : Json → List Properties → Prop
  | array {items : List Json} {rows : List Properties} (hrows : List.Forall₂ HasRow items rows) :
    HasRows (array items) rows
  | object {members : List (String × Json)} {row : Properties} (hrow : HasRow (object members) row) :
    HasRows (object members) [row]
  | none {document : Json} (harray : ∀ items, document ≠ .array items)
    (hobject : ∀ members, document ≠ .object members) : HasRows document []

/-- An array with a string among its items. -/
def ListsString (document : Json) : Prop := ∃ items s, document = array items ∧ string s ∈ items

theorem shows_propertyText (value : Json) : Shows value value.propertyText := by
  cases value with
  | string s => exact .string s
  | null => exact .other fun _ => nofun
  | boolean b => exact .other fun _ => nofun
  | number n => exact .other fun _ => nofun
  | array items => exact .other fun _ => nofun
  | object members => exact .other fun _ => nofun

-- The row of an object has the keys and the texts of its members.
theorem isRow_object {members : List (String × Json)} (h : (members.map Prod.fst).Nodup) :
    IsRow (object members) (object members).properties := by
  refine .object h ?_
  have hrow : (object members).properties = members.map fun m => (m.1, m.2.propertyText) := rfl
  rw [hrow, List.forall₂_map_right_iff]
  exact List.forall₂_same.mpr fun m _ => ⟨rfl, shows_propertyText m.2⟩

-- What is neither an object nor a string has its JSON text.
theorem isRow_bare {item : Json} (hobject : ∀ members, item ≠ object members)
    (hstring : ∀ s, item ≠ string s) : IsRow item item.properties := by
  have hrow : item.properties = [("value", item.compact)] := by
    cases item with
    | object members => exact absurd rfl (hobject members)
    | null | boolean | number | string | array => rfl
  rw [hrow]
  exact .bare hobject (.other hstring)

-- A string apart, an item has the row that it is to have.
theorem isRow_properties {item : Json} (hstring : ∀ s, item ≠ string s)
    (hkeys : ∀ members, item = object members → (members.map Prod.fst).Nodup) :
    IsRow item item.properties := by
  cases item with
  | object members => exact isRow_object (hkeys members rfl)
  | string s => exact absurd rfl (hstring s)
  | null | boolean | number | array => exact isRow_bare (fun _ => nofun) hstring

theorem hasRow_properties {item : Json}
    (hkeys : ∀ members, item = object members → (members.map Prod.fst).Nodup) :
    HasRow item item.properties := by
  by_cases hstring : ∃ s, item = string s
  · obtain ⟨s, rfl⟩ := hstring
    exact .quoted s
  · have hstring : ∀ s, item ≠ string s := not_exists.mp hstring
    exact .regular hstring (isRow_properties hstring hkeys)

theorem length_le_flatMap_escapedChar (cs : List Char) : cs.length ≤ (cs.flatMap escapedChar).length := by
  have hchar : ∀ c, 1 ≤ (escapedChar c).length := by
    intro c
    unfold escapedChar
    split
    all_goals try exact Nat.le_add_left 1 _
    split <;> exact Nat.le_add_left 1 _
  induction cs with
  | nil => exact Nat.le_refl 0
  | cons c cs ih =>
    rw [List.flatMap_cons, List.length_append, List.length_cons]
    have := hchar c
    omega

-- Between quotes a text is longer than it was.
theorem stringText_ne (s : String) : stringText s ≠ s := by
  intro h
  have hlength := congrArg (fun t : String => t.toList.length) h
  have hle := length_le_flatMap_escapedChar s.toList
  simp only [stringText, String.toList_ofList, List.length_append, List.length_cons,
    List.length_nil] at hlength
  omega

theorem not_isRow_string (s : String) : ¬IsRow (string s) (string s).properties := by
  intro h
  have hrow : (string s).properties = [("value", stringText s)] := rfl
  rw [hrow] at h
  cases h with
  | bare _ htext =>
    generalize htext' : stringText s = text at htext
    cases htext with
    | string => exact stringText_ne s htext'
    | other hother => exact hother s rfl

/-! ## 2. Documents that were read -/

section Reading

variable {bound depth : Nat} {cs rest : List Char}

-- Each item of a list was read by the reader of items.
theorem exists_of_readItems? {α : Type} {item : Reader α} {close : Char} {xs : List α}
    (h : readItems? item close bound cs = some (xs, rest)) :
    ∀ x ∈ xs, ∃ cs' rest', item cs' = some (x, rest') := by
  induction bound generalizing cs xs rest with
  | zero => cases h
  | succ bound ih =>
    unfold readItems? at h
    obtain ⟨⟨x, behind⟩, hx, h⟩ := Option.bind_eq_some_iff.mp h
    simp only at h
    split at h
    next c behind' _ =>
      split at h
      next =>
        cases h
        intro y hy
        rw [List.mem_singleton.mp hy]
        exact ⟨_, _, hx⟩
      next =>
        split at h
        next =>
          obtain ⟨⟨ys, behind''⟩, hys, h⟩ := Option.bind_eq_some_iff.mp h
          cases h
          intro y hy
          rcases List.mem_cons.mp hy with rfl | hy
          · exact ⟨_, _, hx⟩
          · exact ih hys y hy
        next => cases h
    next => cases h

theorem exists_of_readBracketed? {α : Type} {item : Reader α} {close : Char} {xs : List α}
    (h : readBracketed? bound item close cs = some (xs, rest)) :
    ∀ x ∈ xs, ∃ cs' rest', item cs' = some (x, rest') := by
  unfold readBracketed? at h
  split at h
  next =>
    split at h
    next =>
      cases h
      exact fun x hx => absurd hx List.not_mem_nil
    next => exact exists_of_readItems? h
  next => cases h

-- The members of an object that was read are sorted.
theorem exists_sortMembers_of_readValue? {members : List (String × Json)}
    (h : readValue? bound depth cs = some (object members, rest)) :
    ∃ read, members = sortMembers read := by
  unfold readValue? at h
  split at h
  case h_6 =>
    cases depth with
    | zero => cases h
    | succ depth =>
      obtain ⟨⟨read, behind⟩, _, heq⟩ := Option.map_eq_some_iff.mp h
      cases heq
      exact ⟨read, rfl⟩
  case h_5 =>
    cases depth with
    | zero => cases h
    | succ depth =>
      obtain ⟨_, _, heq⟩ := Option.map_eq_some_iff.mp h
      cases heq
  all_goals
    obtain ⟨_, _, heq⟩ := Option.map_eq_some_iff.mp h
    cases heq

-- The items of an array that was read were read.
theorem exists_of_readValue?_array {items : List Json}
    (h : readValue? bound depth cs = some (array items, rest)) :
    ∀ item ∈ items, ∃ depth' cs' rest', readValue? bound depth' cs' = some (item, rest') := by
  unfold readValue? at h
  split at h
  case h_5 =>
    cases depth with
    | zero => cases h
    | succ depth =>
      obtain ⟨⟨read, behind⟩, hread, heq⟩ := Option.map_eq_some_iff.mp h
      cases heq
      exact fun item hitem => ⟨depth, exists_of_readBracketed? hread item hitem⟩
  case h_6 =>
    cases depth with
    | zero => cases h
    | succ depth =>
      obtain ⟨_, _, heq⟩ := Option.map_eq_some_iff.mp h
      cases heq
  all_goals
    obtain ⟨_, _, heq⟩ := Option.map_eq_some_iff.mp h
    cases heq

end Reading

/-- An object that stands alone in a document, or as an item of an array, has each key once. -/
theorem nodup_keys_of_parse? {text : String} {document : Json} (h : parse? text = some document) :
    (∀ members, document = object members → (members.map Prod.fst).Nodup) ∧
      ∀ items, document = array items → ∀ members, object members ∈ items →
        (members.map Prod.fst).Nodup := by
  obtain ⟨⟨read, rest⟩, hread, h⟩ := Option.bind_eq_some_iff.mp h
  simp only [Option.ite_none_right_eq_some] at h
  obtain ⟨_, heq⟩ := h
  cases heq
  refine ⟨?_, ?_⟩
  · rintro members rfl
    obtain ⟨written, rfl⟩ := exists_sortMembers_of_readValue? hread
    exact nodup_keys_sortMembers written
  · rintro items rfl members hmembers
    obtain ⟨depth, cs, behind, hitem⟩ := exists_of_readValue?_array hread _ hmembers
    obtain ⟨written, rfl⟩ := exists_sortMembers_of_readValue? hitem
    exact nodup_keys_sortMembers written

/-! ## 3. Rows of documents -/

theorem rowsOfBytes?_eq_some_iff {body : ByteArray} {rows : List Properties} :
    rowsOfBytes? body = some rows ↔ ∃ text document, String.fromUTF8? body = some text ∧
      parse? text = some document ∧ document.rows = rows := by
  unfold rowsOfBytes?
  simp only [Option.bind_eq_bind, Option.bind_eq_some_iff, Option.pure_def, Option.some.injEq]
  constructor
  · rintro ⟨text, htext, document, hdocument, hrows⟩
    exact ⟨text, document, htext, hdocument, hrows⟩
  · rintro ⟨text, document, htext, hdocument, hrows⟩
    exact ⟨text, htext, document, hdocument, hrows⟩

/-- Each document that was read has its rows. -/
theorem hasRows_of_parse? {text : String} {document : Json} (h : parse? text = some document) :
    HasRows document document.rows := by
  obtain ⟨hobject, hitems⟩ := nodup_keys_of_parse? h
  cases document with
  | array items =>
    refine .array ?_
    show List.Forall₂ HasRow items (items.map properties)
    rw [List.forall₂_map_right_iff, List.forall₂_same]
    intro item hitem
    apply hasRow_properties
    rintro members rfl
    exact hitems items rfl members hitem
  | object members =>
    refine .object (hasRow_properties ?_)
    rintro _ ⟨⟩
    exact hobject members rfl
  | null | boolean | number | string => exact .none (fun _ => nofun) fun _ => nofun

/-- The rows of a response are those that its document is to give, exactly if the document is not an array
with a string among its items. -/
theorem keepsText_iff {body : ByteArray} {text : String} {document : Json}
    (htext : String.fromUTF8? body = some text) (hdocument : parse? text = some document) :
    ∃ rows, rowsOfBytes? body = some rows ∧ (KeepsText document rows ↔ ¬document.ListsString) := by
  refine ⟨document.rows, rowsOfBytes?_eq_some_iff.mpr ⟨text, document, htext, hdocument, rfl⟩, ?_⟩
  obtain ⟨hobject, hitems⟩ := nodup_keys_of_parse? hdocument
  constructor
  · rintro hkeeps ⟨items, s, rfl, hs⟩
    have hrows : List.Forall₂ IsRow items (items.map properties) := hkeeps.ofItems items rfl
    rw [List.forall₂_map_right_iff, List.forall₂_same] at hrows
    exact not_isRow_string s (hrows _ hs)
  · intro hstring
    refine ⟨?_, ?_, ?_⟩
    · rintro items rfl
      show List.Forall₂ IsRow items (items.map properties)
      rw [List.forall₂_map_right_iff, List.forall₂_same]
      intro item hitem
      refine isRow_properties ?_ ?_
      · rintro s rfl
        exact hstring ⟨items, s, rfl, hitem⟩
      · rintro members rfl
        exact hitems items rfl members hitem
    · rintro members rfl
      exact ⟨_, rfl, isRow_object (hobject members rfl)⟩
    · intro harray hother
      cases document with
      | array items => exact absurd rfl (harray items)
      | object members => exact absurd rfl (hother members)
      | null | boolean | number | string => rfl

/-- A property with a quote in it, beside an item that is no object. -/
theorem keepsText_quoted_property :
    ∃ document, parse? "[\x7b\"a\":\"x\\\"y\"\x7d,[7]]" = some document ∧
      ∃ rows, rowsOfBytes? "[\x7b\"a\":\"x\\\"y\"\x7d,[7]]".toUTF8 = some rows ∧
        (KeepsText document rows ↔ ¬document.ListsString) := by
  have hbody : String.fromUTF8? "[\x7b\"a\":\"x\\\"y\"\x7d,[7]]".toUTF8 =
      some "[\x7b\"a\":\"x\\\"y\"\x7d,[7]]" := by decide +kernel
  have hdocument : parse? "[\x7b\"a\":\"x\\\"y\"\x7d,[7]]" =
      some (array [object [("a", string "x\"y")], array [number (.integer 7)]]) := rfl
  exact ⟨_, hdocument, keepsText_iff hbody hdocument⟩

/-- The one string of an array is quoted in its row. -/
theorem listed_string_is_quoted :
    ¬∀ body text document rows, String.fromUTF8? body = some text → parse? text = some document →
      rowsOfBytes? body = some rows → KeepsText document rows := by
  intro h
  have hbody : String.fromUTF8? "[\"a\"]".toUTF8 = some "[\"a\"]" := by decide +kernel
  have hdocument : parse? "[\"a\"]" = some (array [string "a"]) := rfl
  have hrows : rowsOfBytes? "[\"a\"]".toUTF8 = some [[("value", "\"a\"")]] := by decide +kernel
  have hkeeps := (h _ _ _ _ hbody hdocument hrows).ofItems _ rfl
  rw [List.forall₂_cons] at hkeeps
  exact not_isRow_string "a" hkeeps.1

end Quarry.Json
