import Quarry.Proofs.Json.Rows
import Quarry.Proofs.Run.Meaning
import Quarry.Proofs.Value.Texts

/-!
# Answers

What is answered for a wire decides what it offers: the places of a page that its nodes mean, in document
order, or its root, an image, each object of a JSON document, or, where a wire may fail, its address alone.
Wires are fetched for the values of a url query that are not null. A select computes its rows from the
candidates of its source, or fails with the first error among them.
-/

namespace Quarry

open Script (DownloadKind)
open Page (Spot)

/-! ## 1. Contents -/

/-- What a download makes of an answer that has a body. -/
inductive Delivery.Holds (d : Delivery) (wire : Wire) : DownloadKind → Content → Prop where
  | page {bytes : ByteArray} (hbody : d.answer = .body bytes) :
      Holds d wire .page (.page ⟨wire.url, bytes.size, d.moment,
        .root (Page.parse (.ofList (Text.ofUtf8Lossy bytes.toList)))⟩)
  | image {bytes : ByteArray} (hbody : d.answer = .body bytes) (hbytes : bytes.size ≠ 0) :
      Holds d wire .image (.image ⟨wire.url, bytes.size, d.moment, d.name ++ extensionOf wire.url⟩)
  /-- An image without bytes has no file name. -/
  | emptyImage {bytes : ByteArray} (hbody : d.answer = .body bytes) (hbytes : bytes.size = 0) :
      Holds d wire .image (.image ⟨wire.url, 0, d.moment, ""⟩)
  | json {bytes : ByteArray} {text : String} {document : Json} {rows : List Properties}
      (hbody : d.answer = .body bytes) (htext : String.fromUTF8? bytes = some text)
      (hdocument : Json.parse? text = some document) (hrows : document.HasRows rows) :
      Holds d wire .json (.rows rows)

/-- Why an answer gives a download nothing. -/
inductive Delivery.Fails (d : Delivery) : DownloadKind → FetchFault → Prop where
  | status {kind : DownloadKind} {code : Nat} (h : d.answer = .status code) :
      Fails d kind (.status code)
  | refused {kind : DownloadKind} {reason : String} (h : d.answer = .refused reason) :
      Fails d kind (.refused reason)
  | unreachable {kind : DownloadKind} {reason : String} (h : d.answer = .unreachable reason) :
      Fails d kind (.unreachable reason)
  | crashed {kind : DownloadKind} (h : d.answer = .crash) : Fails d kind .crashed
  /-- The body is no text, or the text is no document. -/
  | notJson {bytes : ByteArray} (hbody : d.answer = .body bytes)
      (h : ∀ text, String.fromUTF8? bytes = some text → Json.parse? text = none) :
      Fails d .json .notJson

section Contents

variable {d : Delivery} {wire : Wire} {kind : DownloadKind}

theorem Delivery.holds_of_content {content : Content} (h : d.content kind wire = .ok content) :
    d.Holds wire kind content := by
  unfold Delivery.content at h
  split at h
  case h_5 bytes hbody =>
    cases kind with
    | page =>
      cases h
      exact .page hbody
    | image =>
      cases h
      by_cases hbytes : bytes.size = 0
      · rw [if_pos (show bytes.isEmpty from by simp [ByteArray.isEmpty, hbytes]), hbytes]
        exact .emptyImage hbody hbytes
      · rw [if_neg (show ¬bytes.isEmpty from by simp [ByteArray.isEmpty, hbytes])]
        exact .image hbody hbytes
    | json =>
      simp only at h
      split at h
      case h_1 rows hrows =>
        cases h
        obtain ⟨text, document, htext, hdocument, rfl⟩ := Json.rowsOfBytes?_eq_some_iff.mp hrows
        exact .json hbody htext hdocument (Json.hasRows_of_parse? hdocument)
      case h_2 => cases h
  all_goals cases h

theorem Delivery.content_eq_error_iff {fault : FetchFault} :
    d.content kind wire = .error fault ↔ d.Fails kind fault := by
  constructor
  · intro h
    unfold Delivery.content at h
    split at h
    case h_1 code hanswer => cases h; exact .status hanswer
    case h_2 reason hanswer => cases h; exact .refused hanswer
    case h_3 reason hanswer => cases h; exact .unreachable hanswer
    case h_4 hanswer => cases h; exact .crashed hanswer
    case h_5 bytes hbody =>
      cases kind with
      | page | image => cases h
      | json =>
        simp only at h
        split at h
        case h_1 => cases h
        case h_2 hrows =>
          cases h
          refine .notJson hbody fun text htext => ?_
          cases hdocument : Json.parse? text with
          | none => rfl
          | some document =>
            have hsome := Json.rowsOfBytes?_eq_some_iff.mpr ⟨text, document, htext, hdocument, rfl⟩
            rw [hrows] at hsome
            cases hsome
  · intro h
    cases h with
    | status h | refused h | unreachable h | crashed h =>
      rw [Delivery.content, h]
    | @notJson bytes hbody h =>
      have hnone : Json.rowsOfBytes? bytes = none := by
        rw [Option.eq_none_iff_forall_ne_some]
        intro rows hrows
        obtain ⟨text, document, htext, hdocument, _⟩ := Json.rowsOfBytes?_eq_some_iff.mp hrows
        rw [h text htext] at hdocument
        cases hdocument
      simp only [Delivery.content, hbody, hnone]

end Contents

/-! ## 2. Candidates and rows -/

/-- The candidates that a wire yields, the one with an index among those of its download. An answer that fails
ends the run or yields the address of its wire. -/
inductive Delivery.Yields (d : Delivery) (wire : Wire) (kind : DownloadKind) (index : Nat)
    (policy : FailurePolicy) : Option String → Except RunError (List Candidate) → Prop where
  | root {page : DownloadedPage} (hpage : d.Holds wire kind (.page page)) :
      Yields d wire kind index policy none (.ok [.page page page.root])
  | nodes {page : DownloadedPage} {source : String} {selector : Selector} {places : List Spot}
      (hpage : d.Holds wire kind (.page page)) (hselector : Selector.parse? source = some selector)
      (hplaces : Spot.Lists (selector.MeansIn page.root) places) :
      Yields d wire kind index policy (some source) (.ok (places.map (.page page)))
  | image {nodes : Option String} {image : DownloadedImage} (himage : d.Holds wire kind (.image image)) :
      Yields d wire kind index policy nodes (.ok [.image image])
  | objects {nodes : Option String} {rows : List Properties} (hrows : d.Holds wire kind (.rows rows)) :
      Yields d wire kind index policy nodes (.ok (rows.map .object))
  | ends {nodes : Option String} {fault : FetchFault} (hfault : d.Fails kind fault)
      (hpolicy : policy = .abort) :
      Yields d wire kind index policy nodes (.error (.download (.failed index wire.url fault)))
  | failed {nodes : Option String} {fault : FetchFault} (hfault : d.Fails kind fault)
      (hpolicy : policy = .nullRow) :
      Yields d wire kind index policy nodes (.ok [.failed wire.url])

/-- A download fetches its addresses in order: the groups are what their wires yield. The first wire has the
number `first` among all wires of the run. -/
structure World.Fetches (w : World) (kind : DownloadKind) (options : FetchOptions) (first : Nat)
    (urls : List String) (groups : List (Except RunError (List Candidate))) : Prop where
  length : groups.length = urls.length
  yields : ∀ (index : Nat) url group, urls[index]? = some url → groups[index]? = some group →
    (w.fetch (first + index) ⟨url, options.js, options.threads⟩).Yields
      ⟨url, options.js, options.threads⟩ kind index w.policy options.nodes group

/-- The addresses in the rows of a url query: the text of each value that is not null, in the order of the
rows. -/
inductive Addresses : List (List Value) → List String → Prop where
  | nil : Addresses [] []
  | address {v : Value} {rest : List Value} {rows : List (List Value)} {url : String}
      {urls : List String} (hv : v ≠ .null) (hurl : v.Prints url.toList) (hrows : Addresses rows urls) :
      Addresses ((v :: rest) :: rows) (url :: urls)
  | null {rest : List Value} {rows : List (List Value)} {urls : List String}
      (hrows : Addresses rows urls) : Addresses ((.null :: rest) :: rows) urls
  | noValue {rows : List (List Value)} {urls : List String} (hrows : Addresses rows urls) :
      Addresses ([] :: rows) urls

mutual

/-- How a select computes rows: one for each candidate that passes its filter, in the order in which its
source supplies them. All of its formulas can be read. -/
inductive SelectStep.Computes (w : World) (store : Store) (wires : Nat) :
    SelectStep → List (List Value) → Nat → Prop where
  | intro {q : SelectStep} {css : List (List Candidate)} {keeps : Candidate → Bool}
      {rows : List (List Value)} {wires' : Nat} (hvalid : ∀ f ∈ q.formulas, f.IsValid)
      (hsource : SourceStep.Supplies w store wires q.source (css.map .ok) wires')
      (hkeeps : ∀ c ∈ css.flatten, c.Passes q.filter (keeps c))
      (hrows : List.Forall₂ (Candidate.Fills q.projections) (css.flatten.filter keeps) rows) :
      SelectStep.Computes w store wires q rows wires'

/-- The groups of candidates that a source supplies, and how many wires the run has had then. -/
inductive SourceStep.Supplies (w : World) (store : Store) (wires : Nat) :
    SourceStep → List (Except RunError (List Candidate)) → Nat → Prop where
  | single : SourceStep.Supplies w store wires .single [.ok [.alone]] wires
  /-- The rows that a buffer has before the statement. -/
  | buffer {name : String} {b : Buffer} (hb : store.get? name = some b) :
      SourceStep.Supplies w store wires (.buffer name) [.ok (b.rows.toList.map .stored)] wires
  | download {kind : DownloadKind} {url : String} {options : FetchOptions}
      {groups : List (Except RunError (List Candidate))}
      (hgroups : w.Fetches kind options wires [url] groups) :
      SourceStep.Supplies w store wires (.download kind url options) groups (wires + 1)
  | downloadEach {kind : DownloadKind} {query : SelectStep} {options : FetchOptions} {wires' : Nat}
      {rows : List (List Value)} {urls : List String} {groups : List (Except RunError (List Candidate))}
      (hrows : SelectStep.Computes w store wires query rows wires') (hurls : Addresses rows urls)
      (hgroups : w.Fetches kind options wires' urls groups) :
      SourceStep.Supplies w store wires (.downloadEach kind query options) groups (wires' + urls.length)

end

/-- Why a select has no rows: the first of its formulas that cannot be read, a buffer that there is not, its
url query, or what comes first in the order of its rows. -/
inductive SelectStep.FailsFirst (w : World) (store : Store) (wires : Nat) :
    SelectStep → RunError → Prop where
  | unread {q : SelectStep} {f : Formula} (h : IsFirstInvalid q.formulas f) :
      FailsFirst w store wires q f.error
  | unknown {q : SelectStep} {name : String} (hvalid : ∀ f ∈ q.formulas, f.IsValid)
      (hsource : q.source = .buffer name) (hb : store.get? name = none) :
      FailsFirst w store wires q (.store (.unknownBuffer name))
  | query {q query : SelectStep} {kind : DownloadKind} {options : FetchOptions} {e : RunError}
      (hvalid : ∀ f ∈ q.formulas, f.IsValid) (hsource : q.source = .downloadEach kind query options)
      (h : FailsFirst w store wires query e) : FailsFirst w store wires q e
  | stops {q : SelectStep} {groups : List (Except RunError (List Candidate))} {wires' : Nat}
      {e : RunError} (hvalid : ∀ f ∈ q.formulas, f.IsValid)
      (hsource : q.source.Supplies w store wires groups wires')
      (h : StopsAt q.filter q.projections groups e) : FailsFirst w store wires q e

theorem addresses_urlsOfRows (rows : List (List Value)) : Addresses rows (urlsOfRows rows) := by
  induction rows with
  | nil => exact .nil
  | cons row rows ih =>
    cases row with
    | nil => exact .noValue ih
    | cons v rest =>
      by_cases hv : v = .null
      · subst hv
        exact .null ih
      · have hnull : v.isNull = false := by
          cases v with
          | null => exact absurd rfl hv
          | boolean | integer | float | string => rfl
        have hurls : urlsOfRows ((v :: rest) :: rows) = v.text :: urlsOfRows rows := by
          simp [urlsOfRows, hnull]
        rw [hurls]
        exact .address hv v.prints_text ih

/-! ## 3. Wires -/

-- The selector of the nodes was read, so that each place of a page can be looked for.
theorem yields_wireCandidates {x : Extractor} (hx : x.Faithful) (w : World) (kind : DownloadKind)
    (options : FetchOptions)
    (hnodes : ∀ source, options.nodes = some source → (Formula.selector source).IsValid)
    (first index : Nat) (url : String) :
    (w.fetch (first + index) ⟨url, options.js, options.threads⟩).Yields
      ⟨url, options.js, options.threads⟩ kind index w.policy options.nodes
      (w.wireCandidates x kind options first index url) := by
  unfold World.wireCandidates
  simp only
  split
  case h_1 page hcontent =>
    have hpage := Delivery.holds_of_content hcontent
    cases hsource : options.nodes with
    | none => exact .root hpage
    | some source =>
      obtain ⟨selector, hselector⟩ := Option.isSome_iff_exists.mp (hnodes source hsource)
      simp only [(selector_eq_ok_iff hx).mpr hselector]
      exact .nodes hpage hselector (selector.lists_selectAll page.root)
  case h_2 image hcontent => exact .image (Delivery.holds_of_content hcontent)
  case h_3 rows hcontent => exact .objects (Delivery.holds_of_content hcontent)
  case h_4 fault hcontent =>
    have hfault := Delivery.content_eq_error_iff.mp hcontent
    cases hpolicy : w.policy with
    | abort => exact .ends hfault rfl
    | nullRow => exact .failed hfault rfl

theorem fetches_downloadGroups {x : Extractor} (hx : x.Faithful) (w : World) (kind : DownloadKind)
    (options : FetchOptions)
    (hnodes : ∀ source, options.nodes = some source → (Formula.selector source).IsValid)
    (first : Nat) (urls : List String) :
    w.Fetches kind options first urls (w.downloadGroups x kind options first urls) where
  length := List.length_mapIdx
  yields index url group hurl hgroup := by
    rw [World.downloadGroups, List.getElem?_mapIdx, hurl] at hgroup
    cases hgroup
    exact yields_wireCandidates hx w kind options hnodes first index url

/-! ## 4. Selects -/

section Selects

variable {w : World} {store : Store} {wires : Nat}

-- A select has the formula of its nodes and those of its operands.
theorem isValid_of_nodes {q : SelectStep} (hvalid : ∀ f ∈ q.formulas, f.IsValid) :
    ∀ source, Extractor.nodesOf q.source = some source → (Formula.selector source).IsValid :=
  fun _ hsource => hvalid _ (SelectStep.mem_formulas_iff.mpr (.inl ⟨_, hsource, rfl⟩))

mutual

/-- A select computes its rows. -/
theorem computes_of_rows : (q : SelectStep) → {rows : List (List Value)} → {wires' : Nat} →
    q.rows w store wires = .ok (rows, wires') → q.Computes w store wires rows wires'
  | ⟨columns, projections, source, filter⟩, rows, wires', h => by
    -- By induction on selects and sources: only a url query has a select within it.
    obtain ⟨x, groups, hx, hgroups, hrows⟩ := SelectStep.exists_of_rows h
    obtain ⟨css, rfl, hkept, hgives⟩ := rowsOf_eq_ok hrows
    have hfaithful := Extractor.faithful_of_prepare hx
    have hvalid := Extractor.valid_of_prepare hx
    exact .intro hvalid (supplies_of_groups hfaithful source (isValid_of_nodes hvalid) hgroups)
      (fun c hc => passes_of_isKept hfaithful (hkept c hc))
      (hgives.imp fun _ _ => fills_of_gives hfaithful)

-- A source supplies the candidates that a select computes its rows from.
theorem supplies_of_groups {x : Extractor} (hx : x.Faithful) : (source : SourceStep) →
    (∀ nodes, Extractor.nodesOf source = some nodes → (Formula.selector nodes).IsValid) →
    {groups : List (Except RunError (List Candidate))} → {wires' : Nat} →
    source.groups w store wires x = .ok (groups, wires') → source.Supplies w store wires groups wires'
  | .single, _, _, _, h => by
    cases h
    exact .single
  | .buffer name, _, _, _, h => by
    obtain ⟨b, hb, rfl, rfl⟩ := groups_buffer_eq_ok h
    exact .buffer hb
  | .download kind url options, hnodes, _, _, h => by
    cases h
    exact .download (fetches_downloadGroups hx w kind options hnodes wires [url])
  | .downloadEach kind query options, hnodes, _, _, h => by
    unfold SourceStep.groups at h
    obtain ⟨⟨rows, wires₁⟩, hrows, h⟩ := Except.bind_eq_ok.mp h
    cases h
    exact .downloadEach (computes_of_rows query hrows) (addresses_urlsOfRows rows)
      (fetches_downloadGroups hx w kind options hnodes wires₁ (urlsOfRows rows))

end

end Selects

end Quarry
