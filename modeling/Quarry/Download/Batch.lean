import Quarry.Download.Pool
import Quarry.Download.Wire

/-!
Batches: the wires of one download, fetched by a pool of workers. Contents are handed out by the
number of their wire, each of them once.
-/

namespace Quarry

open Script (DownloadKind)

/-- Where answers come from, and in which order workers move. `fetch` is given the number of the
wire among all wires of a run, `choose` the number of a move. `ahead` says how many moves the workers
make before the wire with a number is waited for, whether or not its slot is filled by then. -/
structure Host where
  fetch : Nat → Wire → Delivery
  choose : Nat → Nat
  ahead : Nat → Nat := fun _ => 0

abbrev Outcome := Except FetchFault Content

def Outcome.isFault : Outcome → Bool
  | .ok _ => false
  | .error _ => true

inductive DownloadError where
  | noWire (index : Nat)
  | failed (index : Nat) (url : String) (fault : FetchFault)
deriving DecidableEq, Repr

def DownloadError.message : DownloadError → String
  | noWire index => s!"type error: download table has no wire {index}"
  | failed index url fault => s!"download of wire {index} ({url}) failed: {fault.message}"

/-- The wires of one download and the pool that fetches them. The first of them has the number
`first` among all wires of the run. -/
structure Batch where
  kind : DownloadKind
  wires : Array Wire
  first : Nat
  pool : Pool Outcome

namespace Batch

def start (kind : DownloadKind) (wires : Array Wire) (first threads : Nat) (stopsOnError : Bool) :
    Batch where
  kind := kind
  wires := wires
  first := first
  pool := .start wires.size threads stopsOnError

def outcome (host : Host) (b : Batch) (index : Nat) : Outcome :=
  match b.wires[index]? with
  | some wire => (host.fetch (b.first + index) wire).content b.kind wire
  | none => .error .consumed

/-- Waits for the wire with a number and takes its content. A content that was taken before is
consumed. `moves` is the number of moves so far. -/
def wait (host : Host) (index moves : Nat) (b : Batch) :
    Except DownloadError Content × Batch × Nat :=
  match b.wires[index]? with
  | none => (.error (.noWire index), b, moves)
  | some wire =>
    let (pool, moves) :=
      b.pool.advance Outcome.isFault (b.outcome host) host.choose (host.ahead (b.first + index))
        moves
    let (pool, moves) :=
      pool.await Outcome.isFault (b.outcome host) host.choose index pool.movesLeft moves
    let (outcome?, pool) := pool.take index
    let result := match outcome? with
      | some (.ok content) => .ok content
      | some (.error fault) => .error (.failed index wire.url fault)
      | none => .error (.failed index wire.url .consumed)
    (result, { b with pool }, moves)

def claimed (b : Batch) : List Wire := b.wires.toList.take b.pool.claimed

end Batch

end Quarry
