import Mathlib.Data.List.ReduceOption
import Quarry.Run.Execution

/-!
# Plans one step at a time

What a plan means, said without workers: its steps are performed in order, and the wires of a
download are fetched one after the other when their rows are computed. A row is computed from one
candidate, and the first error in the order of the rows ends the plan.
-/

namespace Quarry

open Script (DownloadKind)

/-! ## 1. Rows -/

/-- Whether a filter counts as true for a candidate. -/
def Candidate.isKept (x : Extractor) (filter : Option Operand) (candidate : Candidate) :
    Except RunError Bool :=
  match filter with
  | some condition => (condition.eval x candidate).map Value.isTruthy
  | none => .ok true

/-- The row that a candidate contributes: none if the filter does not keep it, and otherwise one cell
for each projection. -/
def Candidate.row? (x : Extractor) (filter : Option Operand) (projections : List Operand)
    (candidate : Candidate) : Except RunError (Option (List Value)) := do
  if ← candidate.isKept x filter then
    return some (← projections.mapM (Operand.eval x candidate))
  else return none

/-- The rows of groups of candidates, in order up to the first error. -/
def rowsOf (x : Extractor) (filter : Option Operand) (projections : List Operand)
    (groups : List (Except RunError (List Candidate))) : Except RunError (List (List Value)) := do
  let rows ← groups.mapM fun group => do (← group).mapM (Candidate.row? x filter projections)
  return rows.flatten.reduceOption

/-! ## 2. Candidates -/

/-- What the meaning of a plan depends on: the answers for the wires and what a wire that fails does.
Neither numbers of workers nor the order of their moves are part of it. -/
structure World where
  fetch : Nat → Wire → Delivery
  policy : FailurePolicy

/-- The world of a run. -/
def Setting.world (s : Setting) : World := ⟨s.host.fetch, s.settings.policy⟩

/-- The candidates of one wire, the one with an index among the wires of its download: a place of the
page for each of its nodes or the root alone, the image, or each object of the answer. A wire that
fails ends the run or is a candidate of which only the address is known. `first` is the number of the
first wire of the download among all wires of the run. -/
def World.wireCandidates (w : World) (x : Extractor) (kind : DownloadKind)
    (options : FetchOptions) (first index : Nat) (url : String) :
    Except RunError (List Candidate) :=
  let wire := Wire.mk url options.js options.threads
  match (w.fetch (first + index) wire).content kind wire with
  | .ok (.page page) =>
    match options.nodes with
    | some nodes => do return ((← x.selector nodes).selectAll page.root).map (Candidate.page page)
    | none => .ok [.page page page.root]
  | .ok (.image image) => .ok [.image image]
  | .ok (.rows objects) => .ok (objects.map Candidate.object)
  | .error fault =>
    match w.policy with
    | .abort => .error (.download (.failed index url fault))
    | .nullRow => .ok [.failed url]

/-- The groups of candidates of a download, one for each wire. -/
def World.downloadGroups (w : World) (x : Extractor) (kind : DownloadKind)
    (options : FetchOptions) (first : Nat) (urls : List String) :
    List (Except RunError (List Candidate)) :=
  urls.mapIdx (w.wireCandidates x kind options first)

/-- The addresses that the rows of a url query give: their first cells without nulls. -/
def urlsOfRows (rows : List (List Value)) : List String :=
  rows.filterMap fun row => (row.head?.filter fun v => !v.isNull).map Value.text

mutual

/-- The rows of a select against the buffers before its statement, and how many wires the run has
had after it if it had `wires` before. -/
def SelectStep.rows (w : World) (store : Store) (wires : Nat) :
    SelectStep → Except RunError (List (List Value) × Nat)
  | ⟨columns, projections, source, filter⟩ => do
    let x ← Extractor.prepare ⟨columns, projections, source, filter⟩
    let (groups, wires) ← source.groups w store wires x
    return (← rowsOf x filter projections groups, wires)

/-- The groups of candidates of a source. -/
def SourceStep.groups (w : World) (store : Store) (wires : Nat) (x : Extractor) :
    SourceStep → Except RunError (List (Except RunError (List Candidate)) × Nat)
  | .single => .ok ([.ok [.alone]], wires)
  | .buffer name => do
    let buffer ← (store.get name).mapError .store
    return ([.ok (buffer.rows.toList.map .stored)], wires)
  | .download kind url options =>
    .ok (w.downloadGroups x kind options wires [url], wires + 1)
  | .downloadEach kind query options => do
    let (rows, wires) ← query.rows w store wires
    let urls := urlsOfRows rows
    return (w.downloadGroups x kind options wires urls, wires + urls.length)

end

/-! ## 3. Plans -/

/-- A table as its columns and rows. -/
abbrev Sheet := List Column × List (List Value)

/-- The columns and rows of a table. -/
def Table.sheet (t : Table) : Sheet := (t.columns, t.rows.toList)

/-- How far a plan has come: its buffers, the tables that it delivered and the number of its
wires. -/
structure Ledger where
  store : Store
  sheets : List Sheet
  wires : Nat

/-- The ledger of a plan that did nothing yet. -/
def Ledger.start : Ledger := ⟨.empty, [], 0⟩

/-- Stores rows in a buffer, in order up to the first error. -/
def Store.insertAll (store : Store) (buffer : String) (targets : List Nat)
    (rows : List (List Value)) : Except StoreError Store :=
  rows.foldlM (fun store row => (store.insert buffer targets row).map Prod.fst) store

/-- Performs a step. -/
def Step.perform (w : World) (l : Ledger) : Step → Except RunError Ledger
  | .createBuffer name schema => do
    return { l with store := ← (l.store.create name schema).mapError .store }
  | .insert buffer targets query => do
    let (rows, wires) ← query.rows w l.store l.wires
    return { l with store := ← (l.store.insertAll buffer targets rows).mapError .store, wires }
  | .select query => do
    let (rows, wires) ← query.rows w l.store l.wires
    return { l with sheets := l.sheets ++ [(query.columns, rows)], wires }

theorem Step.perform_createBuffer (w : World) (l : Ledger) (name : String) (schema : Schema) :
    Step.perform w l (.createBuffer name schema) =
      ((l.store.create name schema).mapError RunError.store >>= fun store =>
        Except.ok { l with store }) := rfl

theorem Step.perform_insert (w : World) (l : Ledger) (buffer : String) (targets : List Nat)
    (query : SelectStep) :
    Step.perform w l (.insert buffer targets query) =
      (query.rows w l.store l.wires >>= fun p =>
        (l.store.insertAll buffer targets p.1).mapError RunError.store >>= fun store =>
          Except.ok { l with store, wires := p.2 }) := rfl

theorem Step.perform_select (w : World) (l : Ledger) (query : SelectStep) :
    Step.perform w l (.select query) =
      (query.rows w l.store l.wires >>= fun p =>
        Except.ok { l with sheets := l.sheets ++ [(query.columns, p.1)], wires := p.2 }) := rfl

/-- Performs the steps of a plan in order, up to the first error. -/
def Plan.perform (w : World) : Plan → Ledger → Ledger × Option RunError
  | [], l => (l, none)
  | step :: rest, l =>
    match step.perform w l with
    | .ok l => Plan.perform w rest l
    | .error e => (l, some e)

end Quarry
