import Quarry.Proofs.Except
import Quarry.Proofs.Plan.Shape
import Quarry.Proofs.Run.Sequential

/-!
# Rows

Every row of a select comes from a candidate that its source offers. Its filter drops candidates, and
each of the others gives one row.
-/

namespace Quarry

open Script (DownloadKind)

/-! ## 1. Sources and rows -/

section Inversion

variable {w : World} {store : Store} {wires wires' : Nat} {q : SelectStep} {e : RunError}

theorem groups_buffer_eq_ok {x : Extractor} {name : String}
    {groups : List (Except RunError (List Candidate))}
    (h : SourceStep.groups w store wires x (.buffer name) = .ok (groups, wires')) :
    ∃ b, store.get? name = some b ∧ groups = [.ok (b.rows.toList.map .stored)] ∧ wires' = wires := by
  unfold SourceStep.groups Store.get at h
  cases hb : store.get? name with
  | none =>
    rw [hb] at h
    cases h
  | some b =>
    rw [hb] at h
    cases h
    exact ⟨b, rfl, rfl, rfl⟩

theorem groups_buffer_eq_error {x : Extractor} {name : String}
    (h : SourceStep.groups w store wires x (.buffer name) = .error e) :
    store.get? name = none ∧ e = .store (.unknownBuffer name) := by
  unfold SourceStep.groups Store.get at h
  cases hb : store.get? name with
  | none =>
    rw [hb] at h
    cases h
    exact ⟨rfl, rfl⟩
  | some b =>
    rw [hb] at h
    cases h

-- A wire has no candidates if the selector of its nodes cannot be read, or if its failure ends the run.
theorem wireCandidates_eq_error {x : Extractor} {kind : DownloadKind} {options : FetchOptions}
    {first index : Nat} {url : String} (h : w.wireCandidates x kind options first index url = .error e) :
    (∃ nodes, options.nodes = some nodes ∧ x.selector nodes = .error e) ∨
      ∃ fault, e = .download (.failed index url fault) := by
  unfold World.wireCandidates at h
  simp only at h
  split at h
  · split at h
    next nodes hnodes =>
      rcases Except.bind_eq_error.mp h with h | ⟨_, _, h⟩
      · exact .inl ⟨nodes, hnodes, h⟩
      · cases h
    next => cases h
  · cases h
  · cases h
  · split at h <;> cases h
    exact .inr ⟨_, rfl⟩

-- The rows of a select come from an extractor and the groups of its source.
theorem SelectStep.exists_of_rows {rows : List (List Value)}
    (h : q.rows w store wires = .ok (rows, wires')) :
    ∃ x groups, Extractor.prepare q = .ok x ∧ q.source.groups w store wires x = .ok (groups, wires') ∧
      rowsOf x q.filter q.projections groups = .ok rows := by
  cases q
  unfold SelectStep.rows at h
  obtain ⟨x, hx, h⟩ := Except.bind_eq_ok.mp h
  obtain ⟨⟨groups, _⟩, hgroups, h⟩ := Except.bind_eq_ok.mp h
  obtain ⟨_, hrows, h⟩ := Except.bind_eq_ok.mp h
  cases h
  exact ⟨x, groups, hx, hgroups, hrows⟩

-- Preparing, the source and the rows can fail, in this order.
theorem SelectStep.exists_of_rows_error (h : q.rows w store wires = .error e) :
    Extractor.prepare q = .error e ∨ ∃ x, Extractor.prepare q = .ok x ∧
      (q.source.groups w store wires x = .error e ∨ ∃ groups wires',
        q.source.groups w store wires x = .ok (groups, wires') ∧
          rowsOf x q.filter q.projections groups = .error e) := by
  cases q
  unfold SelectStep.rows at h
  rcases Except.bind_eq_error.mp h with h | ⟨x, hx, h⟩
  · exact .inl h
  · rcases Except.bind_eq_error.mp h with h | ⟨⟨groups, wires'⟩, hgroups, h⟩
    · exact .inr ⟨x, hx, .inl h⟩
    · rcases Except.bind_eq_error.mp h with h | ⟨_, _, h⟩
      · exact .inr ⟨x, hx, .inr ⟨groups, wires', hgroups, h⟩⟩
      · cases h

end Inversion

/-! ## 2. Candidates that are offered -/

/-- The source of a select offers a candidate, which an extractor reads. -/
structure SelectStep.Offers (w : World) (store : Store) (wires : Nat) (q : SelectStep)
    (x : Extractor) (c : Candidate) : Prop where
  prepared : Extractor.prepare q = .ok x
  offered : ∃ groups wires', q.source.groups w store wires x = .ok (groups, wires') ∧
    ∃ cs, .ok cs ∈ groups ∧ c ∈ cs

-- What becomes of an answer is no row of a buffer.
theorem ne_stored_of_wireCandidates {w : World} {x : Extractor} {kind : DownloadKind}
    {options : FetchOptions} {first index : Nat} {url : String} {cs : List Candidate}
    (h : w.wireCandidates x kind options first index url = .ok cs) (cells : List Value) :
    .stored cells ∉ cs := by
  intro hmem
  -- A page, an image, objects or a wire that failed: each answer has candidates of its own kind.
  unfold World.wireCandidates at h
  simp only at h
  split at h
  · split at h
    · obtain ⟨selector, _, h⟩ := Except.bind_eq_ok.mp h
      cases h
      obtain ⟨_, _, hc⟩ := List.mem_map.mp hmem
      cases hc
    · cases h
      cases List.mem_singleton.mp hmem
  · cases h
    cases List.mem_singleton.mp hmem
  · cases h
    obtain ⟨_, _, hc⟩ := List.mem_map.mp hmem
    cases hc
  · split at h
    · cases h
    · cases h
      cases List.mem_singleton.mp hmem

-- Only a buffer offers stored rows, and it offers its own.
theorem SelectStep.Offers.mem_rows {w : World} {store : Store} {wires : Nat} {q : SelectStep}
    {x : Extractor} {cells : List Value} (h : q.Offers w store wires x (.stored cells)) :
    ∃ name b, q.source = .buffer name ∧ store.get? name = some b ∧ cells ∈ b.rows := by
  obtain ⟨groups, wires', hgroups, cs, hcs, hc⟩ := h.offered
  -- What is downloaded is not stored, so that only the case of a buffer remains.
  have hdownload : ∀ kind options first urls,
      (.ok cs : Except RunError (List Candidate)) ∉ w.downloadGroups x kind options first urls := by
    intro kind options first urls hmem
    obtain ⟨i, hi, hcandidates⟩ := List.mem_mapIdx.mp hmem
    exact ne_stored_of_wireCandidates hcandidates cells hc
  generalize q.source = source at hgroups ⊢
  cases source with
  | single =>
    cases hgroups
    cases List.mem_singleton.mp hcs
    cases List.mem_singleton.mp hc
  | buffer name =>
    obtain ⟨b, hb, rfl, _⟩ := groups_buffer_eq_ok hgroups
    cases List.mem_singleton.mp hcs
    obtain ⟨row, hrow, heq⟩ := List.mem_map.mp hc
    cases heq
    exact ⟨name, b, rfl, hb, Array.mem_toList_iff.mp hrow⟩
  | download kind url options =>
    cases hgroups
    exact absurd hcs (hdownload _ _ _ _)
  | downloadEach kind query options =>
    unfold SourceStep.groups at hgroups
    obtain ⟨p, _, hgroups⟩ := Except.bind_eq_ok.mp hgroups
    cases hgroups
    exact absurd hcs (hdownload _ _ _ _)

-- A buffer offers its rows and nothing else.
theorem SelectStep.Offers.eq_stored {w : World} {store : Store} {wires : Nat} {q : SelectStep}
    {x : Extractor} {c : Candidate} (h : q.Offers w store wires x c) {name : String} {b : Buffer}
    (hsource : q.source = .buffer name) (hb : store.get? name = some b) :
    ∃ cells ∈ b.rows, c = .stored cells := by
  obtain ⟨groups, wires', hgroups, cs, hcs, hc⟩ := h.offered
  rw [hsource] at hgroups
  obtain ⟨d, hd, rfl, _⟩ := groups_buffer_eq_ok hgroups
  cases hb.symm.trans hd
  cases List.mem_singleton.mp hcs
  obtain ⟨row, hrow, rfl⟩ := List.mem_map.mp hc
  exact ⟨row, Array.mem_toList_iff.mp hrow, rfl⟩

/-! ## 3. Rows -/

/-- A row has the values of the projections for a candidate. -/
def Candidate.Gives (x : Extractor) (projections : List Operand) (c : Candidate)
    (row : List Value) : Prop :=
  List.Forall₂ (fun o v => Operand.eval x c o = .ok v) projections row

-- A candidate gives no row if the filter does not keep it, and otherwise one.
theorem row?_eq_ok {x : Extractor} {filter : Option Operand} {projections : List Operand}
    {c : Candidate} {row? : Option (List Value)} (h : c.row? x filter projections = .ok row?) :
    c.isKept x filter = .ok row?.isSome ∧ ∀ row, row? = some row → c.Gives x projections row := by
  unfold Candidate.row? at h
  obtain ⟨kept, hkept, h⟩ := Except.bind_eq_ok.mp h
  cases kept with
  -- The projections are not computed if the filter does not keep the candidate.
  | false =>
    cases h
    exact ⟨hkept, fun _ hrow => (nomatch hrow)⟩
  | true =>
    obtain ⟨cells, hcells, h⟩ := Except.bind_eq_ok.mp h
    cases h
    refine ⟨hkept, ?_⟩
    rintro row ⟨⟩
    exact Except.mapM_eq_ok.mp hcells

-- Its error is that of the filter, or of the first projection without a value.
theorem row?_eq_error {x : Extractor} {filter : Option Operand} {projections : List Operand}
    {c : Candidate} {e : RunError} (h : c.row? x filter projections = .error e) :
    (∃ condition, filter = some condition ∧ condition.eval x c = .error e) ∨
      c.isKept x filter = .ok true ∧ ∃ before o after cells, projections = before ++ o :: after ∧
        c.Gives x before cells ∧ o.eval x c = .error e := by
  unfold Candidate.row? at h
  rcases Except.bind_eq_error.mp h with h | ⟨kept, hkept, h⟩
  · cases filter with
    | none => cases h
    | some condition => exact .inl ⟨condition, rfl, Except.map_eq_error.mp h⟩
  · cases kept with
    | false => cases h
    | true =>
      rcases Except.bind_eq_error.mp h with h | ⟨_, _, h⟩
      · obtain ⟨before, o, after, cells, hsplit, hbefore, ho⟩ := Except.mapM_eq_error h
        exact .inr ⟨hkept, before, o, after, cells, hsplit, Except.mapM_eq_ok.mp hbefore, ho⟩
      · cases h

/-- Whether a filter has a value that counts as true for a candidate. -/
def Candidate.keeps (x : Extractor) (filter : Option Operand) (c : Candidate) : Bool :=
  (c.isKept x filter).toOption.getD false

-- The rows of candidates: one for each that the filter keeps.
theorem mapM_row?_eq_ok {x : Extractor} {filter : Option Operand} {projections : List Operand}
    {cs : List Candidate} {rows : List (Option (List Value))}
    (h : cs.mapM (Candidate.row? x filter projections) = .ok rows) :
    (∀ c ∈ cs, c.isKept x filter = .ok (c.keeps x filter)) ∧
      List.Forall₂ (Candidate.Gives x projections) (cs.filter (Candidate.keeps x filter))
        rows.reduceOption := by
  -- By induction on the candidates: each of them gives its row or is dropped from both lists.
  induction cs generalizing rows with
  | nil =>
    cases h
    exact ⟨fun _ hc => absurd hc List.not_mem_nil, .nil⟩
  | cons c cs ih =>
    rw [List.mapM_cons] at h
    obtain ⟨row?, hrow, h⟩ := Except.bind_eq_ok.mp h
    obtain ⟨rest, hrest, h⟩ := Except.bind_eq_ok.mp h
    cases h
    obtain ⟨hkept, hgives⟩ := row?_eq_ok hrow
    obtain ⟨hall, hrows⟩ := ih hrest
    have hkeeps : c.keeps x filter = row?.isSome := by
      unfold Candidate.keeps
      rw [hkept]
      rfl
    refine ⟨fun d hd => ?_, ?_⟩
    · rcases List.mem_cons.mp hd with rfl | hd
      · rw [hkeeps]
        exact hkept
      · exact hall d hd
    · cases row? with
      | none =>
        rw [List.filter_cons_of_neg (by rw [hkeeps]; exact Bool.false_ne_true),
          List.reduceOption_cons_of_none]
        exact hrows
      | some row =>
        rw [List.filter_cons_of_pos (by rw [hkeeps]; rfl), List.reduceOption_cons_of_some]
        exact .cons (hgives row rfl) hrows

/-- Rows are those of the candidates that the filter keeps, one for each of them and in their order. -/
theorem rowsOf_eq_ok {x : Extractor} {filter : Option Operand} {projections : List Operand}
    {groups : List (Except RunError (List Candidate))} {rows : List (List Value)}
    (h : rowsOf x filter projections groups = .ok rows) :
    ∃ css : List (List Candidate), groups = css.map Except.ok ∧
      (∀ c ∈ css.flatten, c.isKept x filter = .ok (c.keeps x filter)) ∧
      List.Forall₂ (Candidate.Gives x projections)
        (css.flatten.filter (Candidate.keeps x filter)) rows := by
  obtain ⟨parts, hparts, hrows⟩ := Except.bind_eq_ok.mp h
  cases hrows
  clear h
  -- By induction on the groups, each of which has candidates since there are rows.
  induction groups generalizing parts with
  | nil =>
    cases hparts
    exact ⟨[], rfl, fun _ hc => absurd hc List.not_mem_nil, .nil⟩
  | cons group groups ih =>
    rw [List.mapM_cons] at hparts
    obtain ⟨part, hpart, hparts⟩ := Except.bind_eq_ok.mp hparts
    obtain ⟨rest, hrest, hparts⟩ := Except.bind_eq_ok.mp hparts
    cases hparts
    obtain ⟨cs, rfl, hcs⟩ := Except.bind_eq_ok.mp hpart
    obtain ⟨hkept, hrows⟩ := mapM_row?_eq_ok hcs
    obtain ⟨css, rfl, hkepts, hrowss⟩ := ih rest hrest
    refine ⟨cs :: css, rfl, fun c hc => ?_, ?_⟩
    · rw [List.flatten_cons] at hc
      rcases List.mem_append.mp hc with hc | hc
      · exact hkept c hc
      · exact hkepts c hc
    · rw [List.flatten_cons, List.filter_append, List.flatten_cons, List.reduceOption_append]
      exact List.rel_append hrows hrowss

-- Groups with rows are candidates that give a row or are dropped.
theorem exists_of_mapM_groups {x : Extractor} {filter : Option Operand} {projections : List Operand}
    {groups : List (Except RunError (List Candidate))} {rows : List (List (Option (List Value)))}
    (h : (groups.mapM fun group => do (← group).mapM (Candidate.row? x filter projections)) = .ok rows) :
    ∃ css : List (List Candidate), groups = css.map .ok ∧
      ∀ c ∈ css.flatten, ∃ row?, c.row? x filter projections = .ok row? := by
  induction groups generalizing rows with
  | nil => exact ⟨[], rfl, fun c hc => absurd hc List.not_mem_nil⟩
  | cons group groups ih =>
    rw [List.mapM_cons] at h
    obtain ⟨first, hfirst, h⟩ := Except.bind_eq_ok.mp h
    obtain ⟨rest, hrest, _⟩ := Except.bind_eq_ok.mp h
    obtain ⟨cs, rfl, hcs⟩ := Except.bind_eq_ok.mp hfirst
    obtain ⟨css, rfl, hcss⟩ := ih hrest
    refine ⟨cs :: css, rfl, fun c hc => ?_⟩
    rcases List.mem_append.mp (List.flatten_cons ▸ hc) with hc | hc
    · exact Except.exists_of_mem_mapM hcs hc
    · exact hcss c hc

/-- The error of rows is the first one in their order: it stands where candidates should be, or a candidate
has it. -/
theorem rowsOf_eq_error {x : Extractor} {filter : Option Operand} {projections : List Operand}
    {groups : List (Except RunError (List Candidate))} {e : RunError}
    (h : rowsOf x filter projections groups = .error e) :
    ∃ (css : List (List Candidate)) (before : List Candidate) (group : Except RunError (List Candidate))
      (after : List (Except RunError (List Candidate))), groups = css.map .ok ++ group :: after ∧
      (∀ c ∈ css.flatten ++ before, ∃ row?, c.row? x filter projections = .ok row?) ∧
      (before = [] ∧ group = .error e ∨ ∃ c behind, group = .ok (before ++ c :: behind) ∧
        c.row? x filter projections = .error e) := by
  rcases Except.bind_eq_error.mp h with h | ⟨_, _, h⟩
  · obtain ⟨front, group, after, rows, rfl, hfront, hgroup⟩ := Except.mapM_eq_error h
    obtain ⟨css, rfl, hcss⟩ := exists_of_mapM_groups hfront
    rcases Except.bind_eq_error.mp hgroup with rfl | ⟨cs, rfl, hcs⟩
    · exact ⟨css, [], _, after, rfl, by rwa [List.append_nil], .inl ⟨rfl, rfl⟩⟩
    · obtain ⟨before, c, behind, rows', rfl, hbefore, hc⟩ := Except.mapM_eq_error hcs
      refine ⟨css, before, _, after, rfl, fun d hd => ?_, .inr ⟨c, behind, rfl, hc⟩⟩
      rcases List.mem_append.mp hd with hd | hd
      · exact hcss d hd
      · exact Except.exists_of_mem_mapM hbefore hd
  · cases h

-- Elements of related lists have partners at the same place.
theorem exists_getElem?_right {α β : Type} {R : α → β → Prop} {l : List α} {bs : List β}
    (h : List.Forall₂ R l bs) {i : Nat} {b : β} (hb : bs[i]? = some b) :
    ∃ a, l[i]? = some a ∧ R a b := by
  induction h generalizing i with
  | nil => cases hb
  | @cons a b' l bs ha hrest ih =>
    cases i with
    | zero =>
      cases hb
      exact ⟨a, rfl, ha⟩
    | succ i => exact ih hb

theorem exists_getElem?_left {α β : Type} {R : α → β → Prop} {l : List α} {bs : List β}
    (h : List.Forall₂ R l bs) {i : Nat} {a : α} (ha : l[i]? = some a) :
    ∃ b, bs[i]? = some b ∧ R a b := by
  have hflip : List.Forall₂ (fun b a => R a b) bs l := h.flip
  exact exists_getElem?_right hflip ha

theorem exists_of_mem_right {α β : Type} {R : α → β → Prop} {l : List α} {bs : List β}
    (h : List.Forall₂ R l bs) {b : β} (hb : b ∈ bs) : ∃ a ∈ l, R a b := by
  obtain ⟨i, hi⟩ := List.mem_iff_getElem?.mp hb
  obtain ⟨a, ha, hab⟩ := exists_getElem?_right h hi
  exact ⟨a, List.mem_of_getElem? ha, hab⟩

-- Rows are those of candidates.
theorem exists_of_mem_rowsOf {x : Extractor} {filter : Option Operand} {projections : List Operand}
    {groups : List (Except RunError (List Candidate))} {rows : List (List Value)}
    (h : rowsOf x filter projections groups = .ok rows) {row : List Value} (hrow : row ∈ rows) :
    ∃ cs c, .ok cs ∈ groups ∧ c ∈ cs ∧ c.Gives x projections row := by
  obtain ⟨css, rfl, _, hrows⟩ := rowsOf_eq_ok h
  obtain ⟨c, hc, hgives⟩ := exists_of_mem_right hrows hrow
  obtain ⟨cs, hcs, hc⟩ := List.mem_flatten.mp (List.mem_filter.mp hc).1
  exact ⟨cs, c, List.mem_map_of_mem hcs, hc, hgives⟩

/-- Rows of a select are those of candidates that its source offers. -/
theorem SelectStep.exists_offered {w : World} {store : Store} {wires wires' : Nat} {q : SelectStep}
    {rows : List (List Value)} (h : q.rows w store wires = .ok (rows, wires')) {row : List Value}
    (hrow : row ∈ rows) :
    ∃ x c, q.Offers w store wires x c ∧ c.Gives x q.projections row := by
  obtain ⟨x, groups, hx, hgroups, hrows⟩ := SelectStep.exists_of_rows h
  obtain ⟨cs, c, hcs, hc, hall⟩ := exists_of_mem_rowsOf hrows hrow
  exact ⟨x, c, ⟨hx, groups, _, hgroups, cs, hcs, hc⟩, hall⟩

end Quarry
