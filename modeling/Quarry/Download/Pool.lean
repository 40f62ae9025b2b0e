/-!
Pools of workers. The workers of a pool claim the wires of a download in order and leave what they
got in one slot for each wire, from which it can be taken once. The order in which the workers
move is not fixed.
-/

namespace Quarry

inductive Slot (α : Type) where
  | pending
  | ready (outcome : α)
  | taken
deriving DecidableEq, Repr

/-- What a worker is about to do: look whether the pool has stopped, claim the next wire, leave the
outcome of a wire in its slot, or nothing any more. -/
inductive Worker where
  | looking
  | claiming
  | fetching (index : Nat)
  | done
deriving DecidableEq, Repr

/-- The moves that a worker has left before it looks again or is done. -/
def Worker.rank : Worker → Nat
  | .done => 0
  | .claiming => 1
  | .looking => 2
  | .fetching _ => 3

/-- A pool. `next` is the first wire that no worker has claimed. -/
structure Pool (α : Type) where
  slots : Array (Slot α)
  workers : Array Worker
  next : Nat
  stopped : Bool
  stopsOnError : Bool
deriving Repr

namespace Pool

variable {α : Type}

/-- A pool for so many wires: at least one worker, and no more than wires. -/
def start (wires threads : Nat) (stopsOnError : Bool) : Pool α where
  slots := Array.replicate wires .pending
  workers := if wires = 0 then #[] else Array.replicate (max 1 (min threads wires)) .looking
  next := 0
  stopped := false
  stopsOnError := stopsOnError

/-- Leaves an outcome in a slot. Only a pending slot changes. -/
def finish (p : Pool α) (index : Nat) (outcome : α) : Pool α :=
  match p.slots[index]? with
  | some .pending => { p with slots := p.slots.setIfInBounds index (.ready outcome) }
  | _ => p

/-- One move of a worker. An error stops a pool that stops on errors, before its slot is filled. -/
def move (isError : α → Bool) (outcome : Nat → α) (worker : Nat) (p : Pool α) : Pool α :=
  let become (w : Worker) (p : Pool α) : Pool α :=
    { p with workers := p.workers.setIfInBounds worker w }
  match p.workers[worker]? with
  | some .looking => become (if p.stopped then .done else .claiming) p
  | some .claiming =>
    let w := if p.next < p.slots.size then .fetching p.next else .done
    become w { p with next := p.next + 1 }
  | some (.fetching index) =>
    let stopped := p.stopped || (p.stopsOnError && isError (outcome index))
    become .looking (finish { p with stopped } index (outcome index))
  | _ => p

def live (p : Pool α) : List Nat :=
  (List.range p.workers.size).filter fun i => p.workers[i]? != some .done

/-- A bound on the moves that are left: each move makes it smaller. -/
def movesLeft (p : Pool α) : Nat :=
  3 * (p.slots.size - p.next) + p.workers.toList.foldr (fun w n => w.rank + n) 0

/-- The worker that moves next. `choose` picks it, by the number of the move, among those that are
not done. -/
def turn (choose : Nat → Nat) (moves : Nat) (p : Pool α) : Option Nat :=
  p.live[choose moves % p.live.length]?

/-- Lets the workers make so many moves, or fewer if none of them is left. Gives the pool and the
number of moves so far. -/
def advance (isError : α → Bool) (outcome : Nat → α) (choose : Nat → Nat) :
    Nat → Nat → Pool α → Pool α × Nat
  | 0, moves, p => (p, moves)
  | count + 1, moves, p =>
    match p.turn choose moves with
    | none => (p, moves)
    | some worker =>
      advance isError outcome choose count (moves + 1) (p.move isError outcome worker)

/-- Lets the workers move until the slot is filled or no worker is left. The bound is never reached
if it is that of the moves that are left. -/
def await (isError : α → Bool) (outcome : Nat → α) (choose : Nat → Nat) (index : Nat) :
    Nat → Nat → Pool α → Pool α × Nat
  | 0, moves, p => (p, moves)
  | bound + 1, moves, p =>
    match p.slots[index]? with
    | some .pending =>
      match p.turn choose moves with
      | none => (p, moves)
      | some worker =>
        await isError outcome choose index bound (moves + 1) (p.move isError outcome worker)
    | _ => (p, moves)

/-- Takes the outcome out of a slot. There is none if it was taken before, or if the slot will stay
empty. -/
def take (p : Pool α) (index : Nat) : Option α × Pool α :=
  match p.slots[index]? with
  | some (.ready outcome) =>
    (some outcome, { p with slots := p.slots.setIfInBounds index .taken })
  | _ => (none, p)

def claimed (p : Pool α) : Nat := min p.next p.slots.size

end Pool

end Quarry
