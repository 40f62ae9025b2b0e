import Quarry.Run.Intake

/-!
Execution of plans. The steps of a plan are executed in order up to the first error. Each run
starts without buffers.
-/

namespace Quarry

open Script (DownloadKind)

/-- What a run has done so far: its buffers, the tables that it delivered and the wires that it
fetched, both in order, and how many wires and moves of workers there were. -/
structure Journal where
  store : Store
  tables : Array Table
  fetched : Array Wire
  wires : Nat
  moves : Nat

def Journal.start : Journal := ⟨.empty, #[], #[], 0, 0⟩

/-- A part of a run. The journal is kept if it fails. -/
abbrev Run := ExceptT RunError (StateM Journal)

structure Setting where
  host : Host
  settings : Settings

/-- Fetches wires and absorbs their candidates, in the order of the wires. -/
def Setting.download (s : Setting) (kind : DownloadKind) (options : FetchOptions)
    (urls : List String) (x : Extractor)
    (absorb : Table → Candidate → Except RunError Table) (t : Table) : Run Table := do
  let journal ← get
  let wires := (urls.map fun url => Wire.mk url options.js options.threads).toArray
  let threads := s.settings.threadsFor options.threads wires.size
  let batch := Batch.start kind wires journal.wires threads (s.settings.policy == .abort)
  let absorbAll (t : Table) (handed : Except DownloadError Content) := do
    (← s.settings.policy.candidates x options.nodes handed).foldlM absorb t
  let (result, batch, moves) :=
    batch.drain s.host absorbAll (List.range wires.size) t journal.moves
  set { journal with
    fetched := journal.fetched ++ batch.claimed
    wires := journal.wires + wires.size
    moves := moves }
  liftExcept result

/-- The addresses that a url query gives: its first column without nulls. -/
def Table.urls (t : Table) : List String :=
  t.rows.toList.filterMap fun row => (row.head?.filter fun v => !v.isNull).map Value.text

mutual

/-- The table of a select. What it reads of buffers is what they held before. -/
def SelectStep.run (s : Setting) : SelectStep → Run Table
  | ⟨columns, projections, source, filter⟩ => do
    let x ← liftExcept (Extractor.prepare ⟨columns, projections, source, filter⟩)
    source.run s x (SelectStep.absorb x filter projections) (.empty columns)

def SourceStep.run (s : Setting) (x : Extractor)
    (absorb : Table → Candidate → Except RunError Table) (t : Table) : SourceStep → Run Table
  | .single => liftExcept (absorb t .alone)
  | .buffer name => do
    let buffer ← liftExcept (((← get).store.get name).mapError RunError.store)
    liftExcept ((buffer.rows.toList.map Candidate.stored).foldlM absorb t)
  | .download kind url options => s.download kind options [url] x absorb t
  | .downloadEach kind query options => do
    let urls := (← query.run s).urls
    s.download kind options urls x absorb t

end

def Step.run (s : Setting) : Step → Run Unit
  | .createBuffer name schema => do
    let store ← liftExcept (((← get).store.create name schema).mapError RunError.store)
    modify fun journal => { journal with store }
  | .insert buffer targets query => do
    let table ← query.run s
    let insertRow (store : Store) (row : List Value) : Except RunError Store :=
      ((store.insert buffer targets row).map Prod.fst).mapError RunError.store
    let store ← liftExcept (table.rows.toList.foldlM insertRow (← get).store)
    modify fun journal => { journal with store }
  | .select query => do
    let table ← query.run s
    modify fun journal => { journal with tables := journal.tables.push table }

structure Report where
  tables : Array Table
  fetched : Array Wire
  error : Option RunError

def Plan.run (s : Setting) (plan : Plan) : Report :=
  let (result, journal) := (plan.forM (Step.run s)).run.run Journal.start
  { tables := journal.tables
    fetched := journal.fetched
    error := match result with
      | .ok _ => none
      | .error e => some e }

end Quarry
