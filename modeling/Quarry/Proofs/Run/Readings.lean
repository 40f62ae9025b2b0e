import Quarry.Proofs.Page.Order
import Quarry.Proofs.Run.Formulas

/-!
# Readings

What an operand reads off a candidate: a cell of a stored row, a field of a page or an image, a property of
an object, and what an extraction takes from the first element that its selector means. It is null where
the candidate has nothing for the operand.
-/

namespace Quarry

open Page (Spot)

/-! ## 1. Extractions -/

/-- What an extraction gets from an element: its text, its markup, or an attribute. An element may have no
such attribute. -/
inductive Script.Take.Gets (spot : Spot) : Script.Take → Option String → Prop where
  | text : Gets spot .text (some spot.node.trimmedText)
  | html : Gets spot .html (some spot.node.innerMarkup)
  | named {key : String} : Gets spot (.attribute key) (spot.node.attribute? key)

/-- What an extraction makes of a text that it got: the text itself, its matches one behind the other, or
the text with its matches replaced. There may be no match. -/
inductive Extraction.Cuts (e : Extraction) (text : String) : Option String → Prop where
  | whole (hpattern : e.pattern = none) : Cuts e text (some text)
  | unmatched {pattern : String} {matcher : Matcher} (hpattern : e.pattern = some pattern)
      (hmatcher : Matcher.compile? pattern = some matcher)
      (hnone : (matcher.occurrences text).1 = []) : Cuts e text none
  | matched {pattern : String} {matcher : Matcher} (hpattern : e.pattern = some pattern)
      (hmatcher : Matcher.compile? pattern = some matcher) (htemplate : e.template = none)
      (hsome : (matcher.occurrences text).1 ≠ []) :
      Cuts e text (some (.ofList ((matcher.occurrences text).1.flatMap Occurrence.text)))
  | replaced {pattern template part : String} {matcher : Matcher} (hpattern : e.pattern = some pattern)
      (hmatcher : Matcher.compile? pattern = some matcher) (htemplate : e.template = some template)
      (hpart : matcher.replaceAll? text template = some part) : Cuts e text (some part)

/-- The value of an extraction for a place of a page. It is null if its selector or its pattern finds
nothing. -/
inductive Extraction.Takes (e : Extraction) (place : Spot) : Value → Prop where
  | unmatched {selector : Selector} (hselector : Selector.parse? e.selector = some selector)
      (hnone : ∀ spot, ¬selector.MeansWithin place spot) : Takes e place .null
  | missing {selector : Selector} {spot : Spot} (hselector : Selector.parse? e.selector = some selector)
      (hfirst : Spot.IsFirst (selector.MeansWithin place) spot) (hgets : e.part.Gets spot none) :
      Takes e place .null
  | uncut {selector : Selector} {spot : Spot} {text : String}
      (hselector : Selector.parse? e.selector = some selector)
      (hfirst : Spot.IsFirst (selector.MeansWithin place) spot) (hgets : e.part.Gets spot (some text))
      (hcuts : e.Cuts text none) : Takes e place .null
  | taken {selector : Selector} {spot : Spot} {text part : String}
      (hselector : Selector.parse? e.selector = some selector)
      (hfirst : Spot.IsFirst (selector.MeansWithin place) spot) (hgets : e.part.Gets spot (some text))
      (hcuts : e.Cuts text (some part)) : Takes e place (.string part)

section Extractions

theorem gets_iff {part : Script.Take} {spot : Spot} {text? : Option String} :
    part.Gets spot text? ↔ Extractor.take part spot = text? := by
  constructor
  · intro h
    cases h <;> rfl
  · rintro rfl
    exact match part with
    | .text => .text
    | .html => .html
    | .attribute _ => .named

theorem matchAll?_eq {m : Matcher} {text : String} : m.matchAll? text =
    if (m.occurrences text).1 = [] then none
    else some (.ofList ((m.occurrences text).1.flatMap Occurrence.text)) := by
  unfold Matcher.matchAll?
  split
  next hnone => rw [hnone, if_pos rfl]
  next hsome => rw [if_neg hsome]

theorem replaceAll?_eq_none_iff {m : Matcher} {text template : String} :
    m.replaceAll? text template = none ↔ (m.occurrences text).1 = [] := by
  unfold Matcher.replaceAll?
  rcases m.occurrences text with ⟨_ | ⟨first, others⟩, tail⟩ <;> simp

variable {x : Extractor} (hx : x.Faithful) {e : Extraction}

include hx

theorem selector_eq_ok_iff {source : String} {selector : Selector} :
    x.selector source = .ok selector ↔ Selector.parse? source = some selector := by
  rw [hx.selector, Extractor.readSelector]
  cases Selector.parse? source <;> simp

theorem matcher_eq_ok_iff {pattern : String} {matcher : Matcher} :
    x.matcher pattern = .ok matcher ↔ Matcher.compile? pattern = some matcher := by
  rw [hx.matcher, Extractor.readPattern]
  cases Matcher.compile? pattern <;> simp

theorem cuts_of_cut {text : String} {part : Option String} (h : x.cut e text = .ok part) :
    e.Cuts text part := by
  unfold Extractor.cut at h
  cases hpattern : e.pattern with
  | none =>
    rw [hpattern] at h
    cases h
    exact .whole hpattern
  | some pattern =>
    simp only [hpattern] at h
    obtain ⟨matcher, hread, h⟩ := Except.bind_eq_ok.mp h
    have hmatcher := (matcher_eq_ok_iff hx).mp hread
    by_cases hnone : (matcher.occurrences text).1 = []
    · have hcut : part = none := by
        cases htemplate : e.template <;> simp only [htemplate] at h <;> cases h
        · rw [matchAll?_eq, if_pos hnone]
        · exact replaceAll?_eq_none_iff.mpr hnone
      subst hcut
      exact .unmatched hpattern hmatcher hnone
    · cases htemplate : e.template with
      | none =>
        simp only [htemplate] at h
        cases h
        rw [matchAll?_eq, if_neg hnone]
        exact .matched hpattern hmatcher htemplate hnone
      | some template =>
        simp only [htemplate] at h
        cases h
        cases hpart : matcher.replaceAll? text template with
        | none => exact absurd (replaceAll?_eq_none_iff.mp hpart) hnone
        | some part => exact .replaced hpattern hmatcher htemplate hpart

theorem cut_of_cuts {text : String} {part : Option String} (h : e.Cuts text part) :
    x.cut e text = .ok part := by
  unfold Extractor.cut
  cases h with
  | whole hpattern => rw [hpattern]; rfl
  | unmatched hpattern hmatcher hnone =>
    simp only [hpattern, (matcher_eq_ok_iff hx).mpr hmatcher]
    cases e.template with
    | none => exact congrArg Except.ok (matchAll?_eq.trans (if_pos hnone))
    | some template => exact congrArg Except.ok (replaceAll?_eq_none_iff.mpr hnone)
  | matched hpattern hmatcher htemplate hsome =>
    simp only [hpattern, (matcher_eq_ok_iff hx).mpr hmatcher, htemplate]
    exact congrArg Except.ok (matchAll?_eq.trans (if_neg hsome))
  | replaced hpattern hmatcher htemplate hpart =>
    simp only [hpattern, (matcher_eq_ok_iff hx).mpr hmatcher, htemplate]
    exact congrArg Except.ok hpart

theorem takes_of_extract {place : Spot} {v : Value} (h : x.extract e place = .ok v) :
    e.Takes place v := by
  unfold Extractor.extract at h
  obtain ⟨selector, hread, h⟩ := Except.bind_eq_ok.mp h
  have hselector := (selector_eq_ok_iff hx).mp hread
  have hlists := selector.lists_select place
  cases hselect : selector.select place with
  | nil =>
    rw [hselect] at h hlists
    cases h
    exact .unmatched hselector fun spot hspot => absurd ((hlists.mem spot).mpr hspot) List.not_mem_nil
  | cons spot others =>
    rw [hselect] at h hlists
    have hfirst := hlists.isFirst
    cases htake : Extractor.take e.part spot with
    | none =>
      simp only [List.head?_cons, Option.bind_some, Option.bind_eq_bind, htake] at h
      cases h
      exact .missing hselector hfirst (gets_iff.mpr htake)
    | some text =>
      simp only [List.head?_cons, Option.bind_some, Option.bind_eq_bind, htake] at h
      obtain ⟨part, hcut, h⟩ := Except.bind_eq_ok.mp h
      cases h
      have hcuts := cuts_of_cut hx hcut
      cases part with
      | none => exact .uncut hselector hfirst (gets_iff.mpr htake) hcuts
      | some part => exact .taken hselector hfirst (gets_iff.mpr htake) hcuts

theorem extract_of_takes {place : Spot} {v : Value} (h : e.Takes place v) :
    x.extract e place = .ok v := by
  -- What the element that is found has there.
  have hfound {selector : Selector} {spot : Spot} {text? : Option String}
      (hfirst : Spot.IsFirst (selector.MeansWithin place) spot) (hgets : e.part.Gets spot text?) :
      ((selector.select place).head? >>= Extractor.take e.part) = text? := by
    rw [Selector.head?_select_of_isFirst hfirst]
    exact gets_iff.mp hgets
  rw [Extractor.extract]
  cases h with
  | unmatched hselector hnone =>
    refine Except.bind_eq_ok.mpr ⟨_, (selector_eq_ok_iff hx).mpr hselector, ?_⟩
    rw [Selector.select_eq_nil hnone]
    rfl
  | missing hselector hfirst hgets =>
    refine Except.bind_eq_ok.mpr ⟨_, (selector_eq_ok_iff hx).mpr hselector, ?_⟩
    rw [hfound hfirst hgets]
    rfl
  | uncut hselector hfirst hgets hcuts | taken hselector hfirst hgets hcuts =>
    refine Except.bind_eq_ok.mpr ⟨_, (selector_eq_ok_iff hx).mpr hselector, ?_⟩
    rw [hfound hfirst hgets]
    exact Except.bind_eq_ok.mpr ⟨_, cut_of_cuts hx hcuts, rfl⟩

end Extractions

/-! ## 2. Candidates -/

/-- A number of bytes as an integer. Beyond the largest integer it is that one. -/
def IsSize (n : Int64) (bytes : Nat) : Prop :=
  n.toInt = bytes ∨ n = Int64.maxValue ∧ Int64.maxValue.toInt < bytes

/-- An operand that reads a candidate and has no operands within it. -/
inductive Operand.Reads : Operand → Prop where
  | column {index : Nat} : Reads (.column index)
  | field {field : PageField} : Reads (.field field)
  | property {name : String} : Reads (.property name)
  | extract {e : Extraction} : Reads (.extract e)

/-- A candidate has something that an operand reads. Only the address of a wire that failed is known. -/
inductive Candidate.Bears : Candidate → Operand → Prop where
  | cell {cells : List Value} {index : Nat} (h : index < cells.length) :
      Bears (.stored cells) (.column index)
  | pageField {page : DownloadedPage} {place : Spot} {field : PageField} (h : field ≠ .filename) :
      Bears (.page page place) (.field field)
  | extraction {page : DownloadedPage} {place : Spot} {e : Extraction} :
      Bears (.page page place) (.extract e)
  | imageField {image : DownloadedImage} {field : PageField} : Bears (.image image) (.field field)
  | property {properties : Properties} {name : String} (h : name ∈ properties.map Prod.fst) :
      Bears (.object properties) (.property name)
  | address {url : String} : Bears (.failed url) (.field .url)

/-- What an operand reads off a candidate. -/
inductive Candidate.Has : Candidate → Operand → Value → Prop where
  | cell {cells : List Value} {index : Nat} {v : Value} (h : cells[index]? = some v) :
      Has (.stored cells) (.column index) v
  | pageUrl {page : DownloadedPage} {place : Spot} :
      Has (.page page place) (.field .url) (.string page.url)
  | pageSize {page : DownloadedPage} {place : Spot} {n : Int64} (h : IsSize n page.size) :
      Has (.page page place) (.field .size) (.integer n)
  | pageDate {page : DownloadedPage} {place : Spot} :
      Has (.page page place) (.field .date) (.string page.moment)
  | extraction {page : DownloadedPage} {place : Spot} {e : Extraction} {v : Value}
      (h : e.Takes place v) : Has (.page page place) (.extract e) v
  | imageUrl {image : DownloadedImage} : Has (.image image) (.field .url) (.string image.url)
  | imageSize {image : DownloadedImage} {n : Int64} (h : IsSize n image.size) :
      Has (.image image) (.field .size) (.integer n)
  | imageDate {image : DownloadedImage} : Has (.image image) (.field .date) (.string image.moment)
  | imageName {image : DownloadedImage} :
      Has (.image image) (.field .filename) (.string image.filename)
  | property {properties : Properties} {name text : String}
      (h : properties.lookup name = some text) : Has (.object properties) (.property name) (.string text)
  | address {url : String} : Has (.failed url) (.field .url) (.string url)
  | nothing {c : Candidate} {o : Operand} (hreads : o.Reads) (h : ¬c.Bears o) : Has c o .null

theorem isSize_iff {bytes : Nat} {n : Int64} : IsSize n bytes ↔ Candidate.size bytes = .integer n := by
  have hpow : Nat.pow 2 63 = 9223372036854775808 := rfl
  have hmax : Int64.maxValue.toInt = 9223372036854775807 := rfl
  rw [Candidate.size, Value.integer.injEq]
  constructor
  · rintro (h | ⟨rfl, h⟩)
    · have hle : n.toInt ≤ Int64.maxValue.toInt := Int64.le_iff_toInt_le.mp n.le_maxValue
      rw [Nat.min_eq_left (by omega)]
      apply Int64.toInt_inj.mp
      rw [Int64.toInt_ofNat_of_lt (by omega), h]
    · rw [Nat.min_eq_right (by omega)]
      rfl
  · rintro rfl
    by_cases h : bytes < Nat.pow 2 63
    · rw [Nat.min_eq_left (by omega)]
      exact .inl (Int64.toInt_ofNat_of_lt (by omega))
    · rw [Nat.min_eq_right (by omega)]
      exact .inr ⟨rfl, by omega⟩

theorem lookup_eq_none_iff {properties : Properties} {name : String} :
    properties.lookup name = none ↔ name ∉ properties.map Prod.fst := by
  rw [List.lookup_eq_none_iff]
  constructor
  · intro h hmem
    obtain ⟨p, hp, rfl⟩ := List.mem_map.mp hmem
    exact bne_iff_ne.mp (h p hp) rfl
  · intro h p hp
    exact bne_iff_ne.mpr fun heq => h (heq ▸ List.mem_map_of_mem hp)

theorem has_column (c : Candidate) (index : Nat) : c.Has (.column index) (c.column index) := by
  cases c with
  | stored cells =>
    show Candidate.Has _ _ (cells[index]?.getD .null)
    cases hcell : cells[index]? with
    | some v => exact .cell hcell
    | none =>
      refine .nothing .column fun h => ?_
      cases h with
      | cell h => exact absurd (List.getElem?_eq_none_iff.mp hcell) (Nat.not_le.mpr h)
  | alone | page _ _ | image _ | object _ | failed _ => exact .nothing .column nofun

theorem has_field (c : Candidate) (f : PageField) : c.Has (.field f) (c.field f) := by
  cases c with
  | page page place =>
    cases f with
    | url => exact .pageUrl
    | size => exact .pageSize (isSize_iff.mpr rfl)
    | date => exact .pageDate
    | filename => exact .nothing .field fun h => by cases h with | pageField h => exact h rfl
  | image image =>
    cases f with
    | url => exact .imageUrl
    | size => exact .imageSize (isSize_iff.mpr rfl)
    | date => exact .imageDate
    | filename => exact .imageName
  | failed url =>
    cases f with
    | url => exact .address
    | size | date | filename => exact .nothing .field nofun
  | alone | stored _ | object _ => exact .nothing .field nofun

theorem has_property (c : Candidate) (name : String) : c.Has (.property name) (c.property name) := by
  cases c with
  | object properties =>
    show Candidate.Has _ _ (((properties.lookup name).map Value.string).getD .null)
    cases hproperty : properties.lookup name with
    | some text => exact .property hproperty
    | none =>
      refine .nothing .property fun h => ?_
      cases h with
      | property h => exact lookup_eq_none_iff.mp hproperty h
  | alone | stored _ | page _ _ | image _ | failed _ => exact .nothing .property nofun

-- What is not there is null.
theorem eval_of_not_bears {x : Extractor} {c : Candidate} {o : Operand} (hreads : o.Reads)
    (h : ¬c.Bears o) : o.eval x c = .ok .null := by
  unfold Operand.eval
  cases hreads with
  | @column index =>
    cases c with
    | stored cells =>
      have hcell : cells[index]? = none :=
        List.getElem?_eq_none_iff.mpr (Nat.le_of_not_lt fun hlt => h (.cell hlt))
      exact congrArg (fun cell => Except.ok (cell.getD Value.null)) hcell
    | alone | page _ _ | image _ | object _ | failed _ => rfl
  | @field f =>
    cases c with
    | page page place =>
      cases f with
      | url | size | date => exact absurd (.pageField (by decide)) h
      | filename => rfl
    | image image => exact absurd .imageField h
    | failed url =>
      cases f with
      | url => exact absurd .address h
      | size | date | filename => rfl
    | alone | stored _ | object _ => rfl
  | @property name =>
    cases c with
    | object properties =>
      have hnone := lookup_eq_none_iff.mpr fun hmem => h (.property hmem)
      exact congrArg (fun text? => Except.ok ((Option.map Value.string text?).getD Value.null)) hnone
    | alone | stored _ | page _ _ | image _ | failed _ => rfl
  | extract =>
    cases c with
    | page page place => exact absurd .extraction h
    | alone | stored _ | image _ | object _ | failed _ => rfl

section Readings

variable {x : Extractor} (hx : x.Faithful) {c : Candidate} {o : Operand} {v : Value}

include hx

theorem has_extract {e : Extraction} (h : c.extract x e = .ok v) : c.Has (.extract e) v := by
  cases c with
  | page page place => exact .extraction (takes_of_extract hx h)
  | alone | stored _ | image _ | object _ | failed _ =>
    cases h
    exact .nothing .extract nofun

theorem has_of_eval (hreads : o.Reads) (h : o.eval x c = .ok v) : c.Has o v := by
  unfold Operand.eval at h
  cases hreads with
  | column => cases h; exact has_column c _
  | field => cases h; exact has_field c _
  | property => cases h; exact has_property c _
  | extract => exact has_extract hx h

/-- An operand that reads a candidate has what it reads as its value. -/
theorem eval_of_has (h : c.Has o v) : o.eval x c = .ok v := by
  cases h with
  | nothing hreads h => exact eval_of_not_bears hreads h
  | cell h => exact congrArg (fun cell => Except.ok (cell.getD Value.null)) h
  | pageUrl | pageDate | imageUrl | imageDate | imageName | address => rfl
  | pageSize h | imageSize h => exact congrArg Except.ok (isSize_iff.mp h)
  | property h =>
    exact congrArg (fun text? => Except.ok ((Option.map Value.string text?).getD Value.null)) h
  | extraction h => exact extract_of_takes hx h

end Readings

end Quarry
