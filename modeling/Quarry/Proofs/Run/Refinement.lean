import Quarry.Proofs.Download.Drain
import Quarry.Proofs.Except
import Quarry.Proofs.Plan.Shape
import Quarry.Proofs.Run.Sequential

/-!
# Runs and the sequential reading

A run of a plan delivers the tables and ends with the error that the sequential reading gives,
whatever the order in which its workers move. Each lemma says what one part of a run does to the
journal.
-/

namespace Quarry

open Script (DownloadKind)

/-! ## 1. Parts of runs -/

/-- What a part of a run makes of a journal. -/
def Run.on {α : Type} (m : Run α) (j : Journal) : Except RunError α × Journal := m.run.run j

section On

variable {α β : Type} {j j' : Journal}

-- A sequence of parts goes on from the journal of the first one, or ends with it.
theorem on_bind_ok {m : Run α} {f : α → Run β} {a : α} (h : m.on j = (.ok a, j')) :
    (m >>= f).on j = (f a).on j' := by
  simp only [Run.on, ExceptT.run_bind, StateT.run_bind] at h ⊢
  rw [h]
  rfl

theorem on_bind_error {m : Run α} {f : α → Run β} {e : RunError} (h : m.on j = (.error e, j')) :
    (m >>= f).on j = (.error e, j') := by
  simp only [Run.on, ExceptT.run_bind, StateT.run_bind] at h ⊢
  rw [h]
  rfl

theorem on_liftExcept (x : Except RunError α) : (liftExcept x : Run α).on j = (x, j) := by
  cases x <;> rfl

end On

/-! ## 2. Tables -/

theorem mapM_length {α β ε : Type} {f : α → Except ε β} {l : List α} {bs : List β}
    (h : l.mapM f = .ok bs) : bs.length = l.length :=
  (Except.mapM_eq_ok.mp h).length_eq.symm

-- Absorbing a candidate appends its row, if it has one.
theorem absorb_sheet {x : Extractor} {filter : Option Operand} {projections : List Operand}
    {t : Table} (hwidth : projections.length = t.columns.length) (c : Candidate) :
    (SelectStep.absorb x filter projections t c).map Table.sheet =
      (c.row? x filter projections).map fun row =>
        (t.columns, t.rows.toList ++ row.toList) := by
  unfold SelectStep.absorb Candidate.row?
  rw [show SelectStep.accepts x filter c = c.isKept x filter from rfl]
  cases c.isKept x filter with
  | error e => rfl
  | ok kept =>
    cases kept with
    | false =>
      show Except.ok t.sheet = Except.ok (t.columns, t.rows.toList ++ [])
      rw [List.append_nil, Table.sheet]
    | true =>
      show Except.map Table.sheet (projections.mapM (Operand.eval x c) >>= fun cells =>
          (t.push cells).mapError RunError.width) =
        Except.map _ (projections.mapM (Operand.eval x c) >>= fun cells => Except.ok (some cells))
      -- Cells are one for each projection, so that the table takes them.
      cases hcells : projections.mapM (Operand.eval x c) with
      | error e => rfl
      | ok cells =>
        have hlen : cells.length = t.columns.length := (mapM_length hcells).trans hwidth
        show Except.map Table.sheet ((t.push cells).mapError RunError.width) =
          Except.ok (t.columns, t.rows.toList ++ [cells])
        rw [Table.push, dif_pos hlen]
        show Except.ok (t.columns, (t.rows.push cells).toList) = _
        rw [Array.toList_push]

-- Folding a step that appends the rows of an element appends the rows of a list.
theorem foldlM_sheet {γ δ : Type} {step : Table → γ → Except RunError Table}
    {rows : γ → Except RunError δ} {part : δ → List (List Value)} {columns : List Column}
    (hstep : ∀ t c, t.columns = columns → (step t c).map Table.sheet =
      (rows c).map fun r => (columns, t.rows.toList ++ part r))
    {t : Table} (ht : t.columns = columns) (cs : List γ) :
    (cs.foldlM step t).map Table.sheet =
      (cs.mapM rows).map fun rs => (columns, t.rows.toList ++ rs.flatMap part) := by
  -- By induction on the list: the columns stay, and the rows are appended one after the other.
  induction cs generalizing t with
  | nil =>
    show Except.ok t.sheet = Except.ok (columns, t.rows.toList ++ [])
    rw [List.append_nil, Table.sheet, ht]
  | cons c cs ih =>
    have hc := hstep t c ht
    rw [List.foldlM_cons, List.mapM_cons]
    cases hr : rows c with
    | error e =>
      rw [hr] at hc
      rw [Except.map_eq_error.mp hc]
      rfl
    | ok r =>
      rw [hr] at hc
      obtain ⟨t', ht', hsheet⟩ := Except.map_eq_ok.mp hc
      obtain ⟨hcolumns, hrows⟩ := Prod.mk.inj hsheet
      rw [ht']
      refine (ih hcolumns).trans ?_
      rw [hrows]
      show _ = Except.map _ (cs.mapM rows >>= fun rs => Except.ok (r :: rs))
      cases cs.mapM rows with
      | error e => rfl
      | ok rs =>
        show Except.ok (columns, _ ++ _ ++ _) = Except.ok (columns, _ ++ (r :: rs).flatMap part)
        rw [List.flatMap_cons, List.append_assoc]

-- The rows of candidates that have one.
theorem flatMap_toList {α : Type} (l : List (Option α)) :
    l.flatMap Option.toList = l.reduceOption := by
  induction l with
  | nil => rfl
  | cons o l ih =>
    rw [List.flatMap_cons, ih]
    cases o with
    | none => rfl
    | some a => exact (List.reduceOption_cons_of_some a l).symm

theorem flatMap_reduceOption {α : Type} (ls : List (List (Option α))) :
    ls.flatMap List.reduceOption = ls.flatten.reduceOption := by
  unfold List.reduceOption
  rw [List.filterMap_flatten, List.flatMap_def]

/-- Absorbs a group of candidates, unless there is an error in its place. -/
def absorbGroup (absorb : Table → Candidate → Except RunError Table) (t : Table)
    (group : Except RunError (List Candidate)) : Except RunError Table :=
  group >>= fun candidates => candidates.foldlM absorb t

-- Absorbing groups of candidates appends their rows.
theorem absorbGroups_sheet {x : Extractor} {filter : Option Operand} {projections : List Operand}
    {t : Table} (hwidth : projections.length = t.columns.length)
    (groups : List (Except RunError (List Candidate))) :
    (groups.foldlM (absorbGroup (SelectStep.absorb x filter projections)) t).map Table.sheet =
      (rowsOf x filter projections groups).map fun rows =>
        (t.columns, t.rows.toList ++ rows) := by
  -- A table absorbs a candidate, a group of them and all groups: the same fold at two levels.
  have hone : ∀ (t' : Table) (c : Candidate), t'.columns = t.columns →
      (SelectStep.absorb x filter projections t' c).map Table.sheet =
        (c.row? x filter projections).map fun row => (t.columns, t'.rows.toList ++ row.toList) := by
    intro t' c ht'
    rw [← ht'] at hwidth ⊢
    exact absorb_sheet hwidth c
  have hgroup : ∀ (t' : Table) (group : Except RunError (List Candidate)),
      t'.columns = t.columns →
      (absorbGroup (SelectStep.absorb x filter projections) t' group).map Table.sheet =
        (group >>= fun cs => cs.mapM (Candidate.row? x filter projections)).map fun rows =>
          (t.columns, t'.rows.toList ++ rows.reduceOption) := by
    intro t' group ht'
    cases group with
    | error e => rfl
    | ok cs =>
      refine (foldlM_sheet hone ht' cs).trans ?_
      simp only [flatMap_toList]
      rfl
  rw [foldlM_sheet hgroup rfl groups, rowsOf]
  cases groups.mapM fun group => group >>= fun cs => cs.mapM (Candidate.row? x filter projections)
  with
  | error e => rfl
  | ok rows =>
    show Except.ok (t.columns, t.rows.toList ++ rows.flatMap List.reduceOption) =
      Except.ok (t.columns, t.rows.toList ++ rows.flatten.reduceOption)
    rw [flatMap_reduceOption]

/-! ## 3. Downloads -/

-- The candidates that the policy makes of what a batch hands out are those of the wire.
theorem candidates_handed (s : Setting) (x : Extractor) (kind : DownloadKind)
    (options : FetchOptions) (first threads : Nat) (stops : Bool) (urls : List String) {i : Nat}
    (hi : i < urls.length) :
    s.settings.policy.candidates x options.nodes
        ((Batch.start kind (urls.map fun url => Wire.mk url options.js options.threads).toArray
          first threads stops).handed s.host i) =
      s.world.wireCandidates x kind options first i urls[i] := by
  -- The batch fetches the wire of the address at this place.
  have hwire : (urls.map fun url => Wire.mk url options.js options.threads).toArray[i]? =
      some (Wire.mk urls[i] options.js options.threads) := by
    rw [List.getElem?_toArray, List.getElem?_map, List.getElem?_eq_getElem hi]
    rfl
  unfold Batch.handed Batch.outcome Batch.start World.wireCandidates Setting.world
  simp only [hwire]
  cases (s.host.fetch (first + i) (Wire.mk urls[i] options.js options.threads)).content kind
      (Wire.mk urls[i] options.js options.threads) with
  -- The policy decides about a wire that failed, here and there in the same way.
  | error fault => cases s.settings.policy <;> rfl
  | ok content =>
    cases content with
    | page page =>
      simp only [FailurePolicy.candidates, Content.candidates, Extractor.contexts]
      cases options.nodes with
      | none => rfl
      | some nodes =>
        show Except.map _ (x.selector nodes >>= fun selector =>
            pure (selector.selectAll page.root)) = x.selector nodes >>= fun selector =>
            pure ((selector.selectAll page.root).map (Candidate.page page))
        cases x.selector nodes <;> rfl
    | image image => rfl
    | rows objects => rfl

-- The numbers of the wires lead to the groups of their candidates.
theorem map_range_eq_groups (s : Setting) (x : Extractor) (kind : DownloadKind)
    (options : FetchOptions) (first threads : Nat) (stops : Bool) (urls : List String) :
    (List.range urls.length).map (fun i => s.settings.policy.candidates x options.nodes
        ((Batch.start kind (urls.map fun url => Wire.mk url options.js options.threads).toArray
          first threads stops).handed s.host i)) =
      s.world.downloadGroups x kind options first urls := by
  refine List.ext_getElem ?_ fun i hl hr => ?_
  · rw [List.length_map, List.length_range, World.downloadGroups, List.length_mapIdx]
  · have hi : i < urls.length := by
      rw [List.length_map, List.length_range] at hl
      exact hl
    rw [List.getElem_map, List.getElem_range, candidates_handed s x kind options first threads
      stops urls hi]
    exact (List.getElem_mapIdx).symm

/-- A download absorbs the groups of its wires in order, and changes nothing else in the journal that
is read again. -/
theorem download_on (s : Setting) (x : Extractor) (kind : DownloadKind) (options : FetchOptions)
    (urls : List String) (absorb : Table → Candidate → Except RunError Table) (t : Table)
    (j : Journal) :
    ∃ fetched moves, (s.download kind options urls x absorb t).on j =
      ((s.world.downloadGroups x kind options j.wires urls).foldlM (absorbGroup absorb) t,
        { j with fetched, wires := j.wires + urls.length, moves }) := by
  let wires := (urls.map fun url => Wire.mk url options.js options.threads).toArray
  let threads := s.settings.threadsFor options.threads wires.size
  let batch := Batch.start kind wires j.wires threads (s.settings.policy == .abort)
  let absorbAll (t : Table) (handed : Except DownloadError Content) :=
    absorbGroup absorb t (s.settings.policy.candidates x options.nodes handed)
  have hsize : wires.size = urls.length := by
    rw [List.size_toArray, List.length_map]
  -- A pool stops on errors under the policy that ends the run, so that nothing is absorbed after one.
  have habsorb : batch.pool.stopsOnError = true →
      ∀ (t : Table) (i : Nat) (url : String) (fault : FetchFault),
        ∃ e, absorbAll t (.error (.failed i url fault)) = .error e := by
    intro hstops t i url fault
    have hpolicy : s.settings.policy = .abort := eq_of_beq hstops
    refine ⟨.download (.failed i url fault), ?_⟩
    simp only [absorbAll, hpolicy]
    rfl
  -- This is where the order of the moves drops out.
  have hdrain : (batch.drain s.host absorbAll (List.range wires.size) t j.moves).1 =
      (List.range wires.size).foldlM (fun t i => absorbAll t (batch.handed s.host i)) t := by
    rw [List.range_eq_range']
    exact Batch.drain_eq habsorb (Batch.holds_start kind wires j.wires threads _)
      (Nat.le_of_eq (Nat.zero_add _))
  generalize hd : batch.drain s.host absorbAll (List.range wires.size) t j.moves = d at hdrain
  have hrun : (s.download kind options urls x absorb t).on j =
      (liftExcept d.1 : Run Table).on { j with
        fetched := j.fetched ++ d.2.1.claimed
        wires := j.wires + wires.size
        moves := d.2.2 } := by
    rw [← hd]
    rfl
  refine ⟨j.fetched ++ d.2.1.claimed, d.2.2, hrun.trans ?_⟩
  rw [on_liftExcept, hdrain, ← map_range_eq_groups s x kind options j.wires threads
    (s.settings.policy == .abort), List.foldlM_map, hsize]

/-! ## 4. Selects -/

/-- A part of a run that leaves buffers and tables alone, and gives what is expected: a table and the
number of wires after it, or an error. -/
def Run.Yields (m : Run Table) (j : Journal) (expected : Except RunError (Sheet × Nat)) : Prop :=
  ∃ r fetched wires moves, m.on j = (r, { j with fetched, wires, moves }) ∧
    r.map (fun t => (t.sheet, wires)) = expected

-- What does not touch the journal yields its table.
theorem yields_liftExcept {x : Except RunError Table} {j : Journal} :
    (liftExcept x : Run Table).Yields j (x.map fun t => (t.sheet, j.wires)) :=
  ⟨x, j.fetched, j.wires, j.moves, on_liftExcept x, rfl⟩

-- Absorbing the groups of a download yields their rows.
theorem download_yields (s : Setting) (x : Extractor) (kind : DownloadKind)
    (options : FetchOptions) (urls : List String) (filter : Option Operand)
    {projections : List Operand} {t : Table} (hwidth : projections.length = t.columns.length)
    (j : Journal) :
    (s.download kind options urls x (SelectStep.absorb x filter projections) t).Yields j
      ((rowsOf x filter projections (s.world.downloadGroups x kind options j.wires urls)).map fun rows =>
        ((t.columns, t.rows.toList ++ rows), j.wires + urls.length)) := by
  obtain ⟨fetched, moves, hrun⟩ := download_on s x kind options urls
    (SelectStep.absorb x filter projections) t j
  refine ⟨_, fetched, j.wires + urls.length, moves, hrun, ?_⟩
  exact Except.map_then (absorbGroups_sheet hwidth (s.world.downloadGroups x kind options j.wires urls))
    fun sheet => (sheet, j.wires + urls.length)

-- What absorbs one group of candidates yields their rows.
theorem group_yields (x : Extractor) (filter : Option Operand) {projections : List Operand}
    {t : Table} {j : Journal} (hwidth : projections.length = t.columns.length)
    (cs : List Candidate) :
    (liftExcept (cs.foldlM (SelectStep.absorb x filter projections) t) : Run Table).Yields j
      ((rowsOf x filter projections [.ok cs]).map fun rows =>
        ((t.columns, t.rows.toList ++ rows), j.wires)) := by
  have hrows : (cs.foldlM (SelectStep.absorb x filter projections) t).map Table.sheet =
      (rowsOf x filter projections [.ok cs]).map fun rows => (t.columns, t.rows.toList ++ rows) := by
    rw [← absorbGroups_sheet hwidth, List.foldlM_cons]
    simp only [List.foldlM_nil, bind_pure]
    rfl
  rw [← Except.map_then hrows fun sheet => (sheet, j.wires)]
  exact yields_liftExcept

mutual

/-- A select yields its rows. -/
theorem SelectStep.run_yields (s : Setting) (j : Journal) :
    (q : SelectStep) → (∀ p ∈ q.selects, p.projections.length = p.columns.length) →
      (q.run s).Yields j ((q.rows s.world j.store j.wires).map fun p => ((q.columns, p.1), p.2))
  | ⟨columns, projections, source, filter⟩, hwidth => by
    -- By induction on selects and sources. The journal that a url query leaves differs in its wires,
    -- moves and fetches only, so that the buffers are still those before the statement.
    have hself : projections.length = columns.length :=
      hwidth ⟨columns, projections, source, filter⟩ (SelectStep.self_mem_selects _)
    have hinner : ∀ p ∈ source.selects, p.projections.length = p.columns.length := by
      intro p hp
      refine hwidth p ?_
      rw [SelectStep.selects]
      exact List.mem_cons_of_mem _ hp
    unfold SelectStep.run SelectStep.rows
    -- Preparing the extractor touches no journal.
    cases hx : Extractor.prepare ⟨columns, projections, source, filter⟩ with
    | error e => exact ⟨.error e, j.fetched, j.wires, j.moves, rfl, rfl⟩
    | ok x =>
      obtain ⟨r, fetched, wires, moves, hrun, hr⟩ :=
        SourceStep.run_yields s x filter (t := .empty columns) hself j source hinner
      refine ⟨r, fetched, wires, moves, ?_, ?_⟩
      · exact (on_bind_ok (on_liftExcept (.ok x))).trans hrun
      · rw [hr]
        show _ = Except.map _ (source.groups s.world j.store j.wires x >>= fun p =>
          rowsOf x filter projections p.1 >>= fun rows => Except.ok (rows, p.2))
        cases source.groups s.world j.store j.wires x with
        | error e => rfl
        | ok p =>
          show Except.map _ (rowsOf x filter projections p.1) = Except.map _
            (rowsOf x filter projections p.1 >>= fun rows => Except.ok (rows, p.2))
          cases rowsOf x filter projections p.1 <;> rfl

-- Absorbing the candidates of a source yields their rows.
theorem SourceStep.run_yields (s : Setting) (x : Extractor) (filter : Option Operand)
    {projections : List Operand} {t : Table} (hwidth : projections.length = t.columns.length)
    (j : Journal) :
    (source : SourceStep) → (∀ p ∈ source.selects, p.projections.length = p.columns.length) →
      (source.run s x (SelectStep.absorb x filter projections) t).Yields j
        (source.groups s.world j.store j.wires x >>= fun p =>
          (rowsOf x filter projections p.1).map fun rows =>
            ((t.columns, t.rows.toList ++ rows), p.2))
  | .single, _ => by
    unfold SourceStep.run SourceStep.groups
    have h := group_yields x filter (j := j) hwidth [.alone]
    simp only [List.foldlM_cons, List.foldlM_nil, bind_pure] at h
    exact h
  | .buffer name, _ => by
    unfold SourceStep.run SourceStep.groups
    cases hb : j.store.get name with
    | error e =>
      refine ⟨.error (.store e), j.fetched, j.wires, j.moves, ?_, rfl⟩
      show (liftExcept ((j.store.get name).mapError RunError.store) >>= _ : Run Table).on j = _
      rw [hb]
      rfl
    | ok b =>
      obtain ⟨r, fetched, wires, moves, hrun, hr⟩ :=
        group_yields x filter (j := j) hwidth (b.rows.toList.map .stored)
      refine ⟨r, fetched, wires, moves, ?_, hr⟩
      show (liftExcept ((j.store.get name).mapError RunError.store) >>= _ : Run Table).on j = _
      rw [hb]
      exact hrun
  | .download kind url options, _ => by
    unfold SourceStep.run SourceStep.groups
    exact download_yields s x kind options [url] filter hwidth j
  -- The url query runs to its end before the first wire is known.
  | .downloadEach kind query options, hinner => by
    unfold SourceStep.run SourceStep.groups
    obtain ⟨r, fetched, wires, moves, hrun, hr⟩ := SelectStep.run_yields s j query hinner
    cases hq : query.rows s.world j.store j.wires with
    | error e =>
      rw [hq] at hr
      refine ⟨.error e, fetched, wires, moves, on_bind_error ?_, rfl⟩
      rw [hrun, Except.map_eq_error.mp hr]
    | ok p =>
      rw [hq] at hr
      obtain ⟨t', rfl, ht'⟩ := Except.map_eq_ok.mp hr
      obtain ⟨hsheet, rfl⟩ := Prod.mk.inj ht'
      have hurls : t'.urls = urlsOfRows p.1 := by
        rw [Table.urls, (Prod.mk.inj hsheet).2, urlsOfRows]
      obtain ⟨r, fetched', wires', moves', hrun', hr'⟩ := download_yields s x kind options t'.urls
        filter hwidth { j with fetched, wires := p.2, moves }
      refine ⟨r, fetched', wires', moves', (on_bind_ok hrun).trans hrun', hr'.trans ?_⟩
      rw [hurls]
      rfl

end

/-! ## 5. Steps and plans -/

/-- What of a journal is read again or delivered. -/
def Journal.ledger (j : Journal) : Ledger where
  store := j.store
  sheets := j.tables.toList.map Table.sheet
  wires := j.wires

/-- The selects of a step have as many operands as columns. -/
def Step.Even (step : Step) : Prop :=
  ∀ q ∈ step.selects, q.projections.length = q.columns.length

-- Either the journal gets a new store, or the run ends as it is.
theorem store_perform (x : Except StoreError Store) (j : Journal) :
    ∃ r j', (liftExcept (x.mapError RunError.store) >>= fun store =>
        modify fun journal => { journal with store } : Run Unit).on j = (r, j') ∧
      (r.map fun _ => j'.ledger) =
        (x.mapError RunError.store >>= fun store => Except.ok { j.ledger with store }) ∧
      (∀ e, r = .error e → j'.tables = j.tables) := by
  cases x with
  | error e => exact ⟨.error (.store e), j, rfl, rfl, fun _ _ => rfl⟩
  | ok store => exact ⟨.ok (), { j with store }, rfl, rfl, fun _ h => nomatch h⟩

-- Rows are stored by a run one at a time.
theorem foldlM_insert (store : Store) (buffer : String) (targets : List Nat)
    (rows : List (List Value)) :
    rows.foldlM (fun store row =>
        ((store.insert buffer targets row).map Prod.fst).mapError RunError.store) store =
      (store.insertAll buffer targets rows).mapError RunError.store := by
  unfold Store.insertAll
  induction rows generalizing store with
  | nil => rfl
  | cons row rows ih =>
    rw [List.foldlM_cons, List.foldlM_cons]
    cases store.insert buffer targets row with
    | error e => rfl
    | ok p => exact ih p.1

/-- A step of a run does what it does alone. If it ends the run, nothing more is delivered. -/
theorem Step.run_perform (s : Setting) (j : Journal) {step : Step} (heven : step.Even) :
    ∃ r j', (step.run s).on j = (r, j') ∧
      (r.map fun _ => j'.ledger) = step.perform s.world j.ledger ∧
      (∀ e, r = .error e → j'.tables = j.tables) := by
  -- A table is delivered, or a store is replaced, only at the end of a step.
  cases step with
  | createBuffer name schema =>
    unfold Step.run Step.perform
    exact store_perform (j.store.create name schema) j
  | insert buffer targets query =>
    obtain ⟨r, fetched, wires, moves, hrun, hr⟩ := SelectStep.run_yields s j query heven
    unfold Step.run Step.perform
    show ∃ r j', _ ∧ _ = (query.rows s.world j.store j.wires >>= _) ∧ _
    cases hq : query.rows s.world j.store j.wires with
    | error e =>
      rw [hq] at hr
      rw [Except.map_eq_error.mp hr] at hrun
      exact ⟨.error e, { j with fetched, wires, moves }, on_bind_error hrun, rfl, fun _ _ => rfl⟩
    | ok p =>
      rw [hq] at hr
      obtain ⟨t, rfl, ht⟩ := Except.map_eq_ok.mp hr
      obtain ⟨hsheet, rfl⟩ := Prod.mk.inj ht
      have hrows : t.rows.toList = p.1 := (Prod.mk.inj hsheet).2
      rw [on_bind_ok hrun]
      obtain ⟨r', j', hon, hperform, htables⟩ := store_perform
        (j.store.insertAll buffer targets p.1) { j with fetched, wires := p.2, moves }
      refine ⟨r', j', ?_, hperform, htables⟩
      rw [← hon, ← foldlM_insert, ← hrows]
      rfl
  | select query =>
    obtain ⟨r, fetched, wires, moves, hrun, hr⟩ := SelectStep.run_yields s j query heven
    unfold Step.run Step.perform
    show ∃ r j', _ ∧ _ = (query.rows s.world j.store j.wires >>= fun p => Except.ok
      { j.ledger with sheets := j.ledger.sheets ++ [(query.columns, p.1)], wires := p.2 }) ∧ _
    cases hq : query.rows s.world j.store j.wires with
    | error e =>
      rw [hq] at hr
      rw [Except.map_eq_error.mp hr] at hrun
      exact ⟨.error e, { j with fetched, wires, moves }, on_bind_error hrun, rfl, fun _ _ => rfl⟩
    | ok p =>
      rw [hq] at hr
      obtain ⟨t, rfl, ht⟩ := Except.map_eq_ok.mp hr
      obtain ⟨hsheet, rfl⟩ := Prod.mk.inj ht
      refine ⟨.ok (), _, (on_bind_ok hrun).trans rfl, ?_, fun _ h => nomatch h⟩
      show Except.ok (Journal.ledger _) = Except.ok _
      simp only [Journal.ledger, Array.toList_push, List.map_append, List.map_cons, List.map_nil,
        hsheet]

/-- The steps of a plan do what they do alone, and the first error ends them. -/
theorem Plan.run_perform (s : Setting) {plan : Plan} (heven : ∀ step ∈ plan, step.Even)
    (j : Journal) :
    ∃ r j', (plan.forM (Step.run s) : Run Unit).on j = (r, j') ∧
      match (r : Except RunError Unit) with
      | .ok _ => plan.perform s.world j.ledger = (j'.ledger, none)
      | .error e => ∃ l, plan.perform s.world j.ledger = (l, some e) ∧ l.sheets = j'.ledger.sheets := by
  -- By induction on the steps: the run and the reading go on from the same ledger.
  induction plan generalizing j with
  | nil => exact ⟨.ok (), j, rfl, rfl⟩
  | cons step rest ih =>
    obtain ⟨r, j₁, hrun, hperform, htables⟩ := Step.run_perform s j (heven step List.mem_cons_self)
    rw [Plan.perform]
    cases r with
    | error e =>
      refine ⟨.error e, j₁, on_bind_error hrun, j.ledger, ?_, ?_⟩
      · rw [← hperform]
        rfl
      · rw [Journal.ledger, Journal.ledger, htables e rfl]
    | ok u =>
      obtain ⟨r', j', hrest, hmatch⟩ := ih (fun p hp => heven p (List.mem_cons_of_mem step hp)) j₁
      refine ⟨r', j', (on_bind_ok hrun).trans hrest, ?_⟩
      rw [← hperform]
      exact hmatch

/-- A run delivers the tables of the sequential reading, and ends with its error. -/
theorem Plan.run_eq_perform (s : Setting) {plan : Plan} (heven : ∀ step ∈ plan, step.Even) :
    (Plan.run s plan).tables.toList.map Table.sheet = (plan.perform s.world .start).1.sheets ∧
      (Plan.run s plan).error = (plan.perform s.world .start).2 := by
  obtain ⟨r, j, hrun, hmatch⟩ := Plan.run_perform s heven .start
  let report (p : Except RunError Unit × Journal) : Report :=
    ⟨p.2.tables, p.2.fetched, match p.1 with
      | .ok _ => none
      | .error e => some e⟩
  have hreport : Plan.run s plan = report (r, j) := congrArg report hrun
  rw [hreport]
  cases r with
  | ok u =>
    have hperform : plan.perform s.world .start = (j.ledger, none) := hmatch
    rw [hperform]
    exact ⟨rfl, rfl⟩
  | error e =>
    obtain ⟨l, hperform, hsheets⟩ := hmatch
    have hperform : plan.perform s.world .start = (l, some e) := hperform
    rw [hperform]
    exact ⟨hsheets.symm, rfl⟩

end Quarry
