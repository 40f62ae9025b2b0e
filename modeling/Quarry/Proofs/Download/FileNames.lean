import Mathlib.Data.List.TakeWhile
import Quarry.Download.Wire

/-!
# Names of downloaded files

The file of an image gets the extension of the last segment of the path of its address, whatever the
scheme, the authority, the query and the fragment hold. Of an address without a path the authority is
taken for that segment.
-/

namespace Quarry

/-! ## 1. Addresses -/

/-- An address in its parts. A query or a fragment, if there is one, begins the suffix with its mark. -/
structure Address where
  scheme : List Char
  authority : List Char
  path : List Char
  suffix : List Char
  scheme_unmarked : '?' ∉ scheme ∧ '#' ∉ scheme
  authority_unmarked : '?' ∉ authority ∧ '#' ∉ authority
  authority_flat : '/' ∉ authority
  path_unmarked : '?' ∉ path ∧ '#' ∉ path
  path_rooted : path = [] ∨ path.head? = some '/'
  suffix_marked : suffix = [] ∨ suffix.head? = some '?' ∨ suffix.head? = some '#'

/-- The characters in front of the suffix. -/
def Address.front (a : Address) : List Char := a.scheme ++ "://".toList ++ a.authority ++ a.path

def Address.text (a : Address) : String := String.ofList (a.front ++ a.suffix)

/-! ## 2. Extensions -/

/-- The extension of a name is what stands from its last dot on. A name without a dot has none, nor has
one that begins with its last dot. -/
inductive NameExtension : List Char → List Char → Prop
  | plain {name : List Char} (hname : '.' ∉ name) : NameExtension name []
  | hidden {rest : List Char} (hrest : '.' ∉ rest) : NameExtension ('.' :: rest) []
  | dotted {stem kind : List Char} (hstem : stem ≠ []) (hkind : '.' ∉ kind) :
    NameExtension (stem ++ '.' :: kind) ('.' :: kind)

/-- The extension of a path is that of the name behind its last slash. The empty path has none. -/
inductive PathExtension : List Char → List Char → Prop
  | empty : PathExtension [] []
  | named {folders name extension : List Char} (hname : '/' ∉ name)
    (hextension : NameExtension name extension) :
    PathExtension (folders ++ '/' :: name) extension

-- A list with an element in it is cut at the last occurrence.
theorem exists_last_of_mem {x : Char} {cs : List Char} (h : x ∈ cs) :
    ∃ front behind, cs = front ++ x :: behind ∧ x ∉ behind := by
  obtain ⟨behind, front, hcut, hbehind⟩ := List.eq_append_cons_of_mem (List.mem_reverse.mpr h)
  refine ⟨front.reverse, behind.reverse, ?_, fun hx => hbehind (List.mem_reverse.mp hx)⟩
  rw [← List.reverse_reverse cs, hcut, List.reverse_append, List.reverse_cons, List.append_assoc]
  rfl

theorem exists_nameExtension (name : List Char) : ∃ e, NameExtension name e := by
  by_cases hdot : '.' ∈ name
  · obtain ⟨stem, kind, rfl, hkind⟩ := exists_last_of_mem hdot
    cases stem with
    | nil => exact ⟨[], .hidden hkind⟩
    | cons c stem => exact ⟨'.' :: kind, .dotted (List.cons_ne_nil c stem) hkind⟩
  · exact ⟨[], .plain hdot⟩

theorem Address.exists_pathExtension (a : Address) : ∃ e, PathExtension a.path e := by
  rcases a.path_rooted with hpath | hpath
  · exact ⟨[], hpath ▸ .empty⟩
  · obtain ⟨folders, name, hcut, hname⟩ := exists_last_of_mem (List.mem_of_mem_head? hpath)
    obtain ⟨e, he⟩ := exists_nameExtension name
    exact ⟨e, hcut ▸ .named hname he⟩

/-! ## 3. The last segment -/

theorem splitLast_of_notMem {x : Char} {cs : List Char} (h : x ∉ cs) : splitLast (· == x) cs = none := by
  have hall : cs.reverse.takeWhile (!· == x) = cs.reverse := by
    refine List.takeWhile_eq_self_iff.mpr fun c hc => ?_
    rw [Bool.not_eq_true', beq_eq_false_iff_ne]
    exact fun heq => h (heq ▸ List.mem_reverse.mp hc)
  unfold splitLast
  rw [hall, List.reverse_reverse]
  exact if_pos rfl

theorem splitLast_append {x : Char} {front behind : List Char} (h : x ∉ behind) :
    splitLast (· == x) (front ++ x :: behind) = some (behind, front ++ [x]) := by
  have hall : ∀ c ∈ behind.reverse, (!c == x) = true := by
    intro c hc
    rw [Bool.not_eq_true', beq_eq_false_iff_ne]
    exact fun heq => h (heq ▸ List.mem_reverse.mp hc)
  have hback : (front ++ x :: behind).reverse.takeWhile (!· == x) = behind.reverse := by
    rw [List.reverse_append, List.reverse_cons, List.append_assoc, List.takeWhile_append_of_pos hall]
    simp
  have hlength : (front ++ x :: behind).length - behind.length = (front ++ [x]).length := by
    simp only [List.length_append, List.length_cons, List.length_nil]
    omega
  have hshort : behind.length ≠ (front ++ x :: behind).length := by
    simp only [List.length_append, List.length_cons]
    omega
  unfold splitLast
  simp only [hback, List.reverse_reverse]
  rw [if_neg hshort, hlength, List.append_cons front x behind, List.take_left]

theorem extensionOf_of_fileSegment {url : String} {name e : List Char}
    (hname : fileSegment url.toList = name) (he : NameExtension name e) :
    extensionOf url = String.ofList e := by
  unfold extensionOf
  rw [hname]
  cases he with
  | plain hdot => rw [splitLast_of_notMem hdot]
  | @hidden rest hrest =>
    have hcut : splitLast (· == '.') ([] ++ '.' :: rest) = some (rest, ['.']) :=
      splitLast_append hrest
    rw [List.nil_append] at hcut
    rw [hcut]
    rfl
  | @dotted stem kind hstem hkind =>
    rw [splitLast_append hkind]
    split
    next behind heq =>
      -- The dot is not alone in front of the extension.
      have hlone : stem ++ ['.'] = [] ++ ['.'] := (Prod.mk.inj (Option.some.inj heq)).2
      exact absurd (List.append_cancel_right hlone) hstem
    next _ heq =>
      cases heq
      rfl
    next heq => cases heq

namespace Address

variable (a : Address)

-- Only the suffix has a mark, and it begins with it.
theorem takeWhile_unmarked :
    a.text.toList.takeWhile (fun c => c != '?' && c != '#') = a.front := by
  have hunmarked : ∀ cs : List Char, '?' ∉ cs ∧ '#' ∉ cs →
      ∀ c ∈ cs, (c != '?' && c != '#') = true := by
    rintro cs ⟨hquery, hfragment⟩ c hc
    rw [Bool.and_eq_true, bne_iff_ne, bne_iff_ne]
    exact ⟨fun heq => hquery (heq ▸ hc), fun heq => hfragment (heq ▸ hc)⟩
  have hfront : ∀ c ∈ a.front, (c != '?' && c != '#') = true := by
    intro c hc
    simp only [front, List.mem_append] at hc
    rcases hc with ((hc | hc) | hc) | hc
    · exact hunmarked _ a.scheme_unmarked c hc
    · exact hunmarked "://".toList (by decide) c hc
    · exact hunmarked _ a.authority_unmarked c hc
    · exact hunmarked _ a.path_unmarked c hc
  have hsuffix : a.suffix.takeWhile (fun c => c != '?' && c != '#') = [] := by
    cases hcs : a.suffix with
    | nil => rfl
    | cons c rest =>
      have hmark := a.suffix_marked
      simp only [hcs, reduceCtorEq, List.head?_cons, Option.some.injEq, false_or] at hmark
      rcases hmark with rfl | rfl <;> rfl
  unfold text
  rw [String.toList_ofList, List.takeWhile_append_of_pos hfront, hsuffix, List.append_nil]

-- The name of the file is what stands behind the last slash of the path, if there is a path.
theorem fileSegment_of_path {folders name : List Char} (hpath : a.path = folders ++ '/' :: name)
    (hname : '/' ∉ name) : fileSegment a.text.toList = name := by
  have hfront : a.front = (a.scheme ++ "://".toList ++ a.authority ++ folders) ++ '/' :: name := by
    rw [front, hpath, ← List.append_assoc]
  unfold fileSegment
  rw [takeWhile_unmarked, hfront]
  simp only [splitLast_append hname]

-- Without a path it is what stands behind the slashes of the scheme.
theorem fileSegment_of_no_path (hpath : a.path = []) : fileSegment a.text.toList = a.authority := by
  have hfront : a.front = (a.scheme ++ ":/".toList) ++ '/' :: a.authority := by
    rw [front, hpath, List.append_nil, List.append_assoc, List.append_assoc]
    rfl
  unfold fileSegment
  rw [takeWhile_unmarked, hfront]
  simp only [splitLast_append a.authority_flat]

/-! ## 4. File names -/

/-- The file that an image is stored in has the extension of the path of its address. -/
structure NamedByPath (a : Address) : Prop where
  extension : ∀ e, extensionOf a.text = String.ofList e ↔ PathExtension a.path e
  /-- An image gets the name of its delivery and the extension, unless it is empty. -/
  filename : ∀ (wire : Wire) (d : Delivery) (bytes : ByteArray), wire.url = a.text →
    d.answer = .body bytes → ∃ e, PathExtension a.path e ∧
      d.content .image wire = .ok (.image ⟨a.text, bytes.size, d.moment,
        if bytes.isEmpty then "" else d.name ++ String.ofList e⟩)

/-- The extension is that of the path exactly if there is a path, or if the authority that is taken for
it has no extension of its own. -/
theorem namedByPath_iff : a.NamedByPath ↔ a.path ≠ [] ∨ NameExtension a.authority [] := by
  constructor
  · intro h
    by_cases hpath : a.path = []
    · obtain ⟨e, he⟩ := exists_nameExtension a.authority
      have hauthority := extensionOf_of_fileSegment (a.fileSegment_of_no_path hpath) he
      have hnone : extensionOf a.text = String.ofList [] := (h.extension []).mpr (hpath ▸ .empty)
      have hsame : e = [] := String.ofList_injective (hauthority.symm.trans hnone)
      exact Or.inr (hsame ▸ he)
    · exact Or.inl hpath
  · intro h
    have hextension : ∀ e, PathExtension a.path e → extensionOf a.text = String.ofList e := by
      intro e he
      generalize hpath : a.path = path at he
      cases he with
      | empty =>
        have hauthority := h.resolve_left (not_not.mpr hpath)
        exact extensionOf_of_fileSegment (a.fileSegment_of_no_path hpath) hauthority
      | named hname hextension =>
        exact extensionOf_of_fileSegment (a.fileSegment_of_path hpath hname) hextension
    obtain ⟨e, he⟩ := a.exists_pathExtension
    refine ⟨fun e' => ⟨fun heq => ?_, hextension e'⟩, fun wire d bytes hurl hbody => ⟨e, he, ?_⟩⟩
    · -- The path has an extension, and it is the one that is found.
      have hsame := String.ofList_injective ((hextension e he).symm.trans heq)
      exact hsame ▸ he
    · unfold Delivery.content
      rw [hbody, hurl, ← hextension e he]

/-- Dots and slashes in every part of an address. -/
theorem namedByPath_dots_and_slashes :
    NamedByPath {
      scheme := "https".toList, authority := "cdn.x.test:80".toList
      path := "/a.b/logo.tar.gz".toList, suffix := "?from=/c.d/e.png#f/g.h".toList
      scheme_unmarked := by decide, authority_unmarked := by decide, authority_flat := by decide
      path_unmarked := by decide, path_rooted := by decide, suffix_marked := by decide } :=
  (namedByPath_iff _).mpr (Or.inl (by decide))

/-- The end of a host name is taken for an extension where no path comes after it. -/
theorem host_gives_extension : ¬∀ a : Address, a.NamedByPath := by
  intro h
  let bare : Address := {
    scheme := "http".toList, authority := "x.test".toList, path := [], suffix := []
    scheme_unmarked := by decide, authority_unmarked := by decide, authority_flat := by decide
    path_unmarked := by decide, path_rooted := by decide, suffix_marked := by decide }
  have hnone : extensionOf bare.text = String.ofList [] := ((h bare).extension []).mpr .empty
  have hhost : extensionOf bare.text = ".test" := by decide
  rw [hhost] at hnone
  revert hnone
  decide

end Address

end Quarry
