import Quarry.Run.Candidate
import Quarry.Settings

/-!
Intake: how the candidates of a select become rows of its table, and how the contents of a batch
become candidates.
-/

namespace Quarry

namespace SelectStep

def accepts (x : Extractor) (filter : Option Operand) (row : Candidate) : Except RunError Bool :=
  match filter with
  | some operand => (operand.eval x row).map Value.isTruthy
  | none => .ok true

def absorb (x : Extractor) (filter : Option Operand) (projections : List Operand) (t : Table)
    (row : Candidate) : Except RunError Table := do
  if ← accepts x filter row then
    let cells ← projections.mapM (Operand.eval x row)
    (t.push cells).mapError .width
  else return t

end SelectStep

def Content.candidates (x : Extractor) (nodes : Option String) :
    Content → Except RunError (List Candidate)
  | .page p => (x.contexts nodes p.root).map fun places => places.map (Candidate.page p)
  | .image i => .ok [.image i]
  | .rows objects => .ok (objects.map Candidate.object)

/-- The candidates of what a batch hands out for a wire. A wire that failed gives one under the
policy for it, and else ends the run. -/
def FailurePolicy.candidates (policy : FailurePolicy) (x : Extractor) (nodes : Option String) :
    Except DownloadError Content → Except RunError (List Candidate)
  | .ok content => content.candidates x nodes
  | .error (.failed index url fault) =>
    match policy with
    | .abort => .error (.download (.failed index url fault))
    | .nullRow => .ok [.failed url]
  | .error (.noWire index) => .error (.download (.noWire index))

namespace Batch

/-- Absorbs what a batch hands out for the wires with the given numbers, in order, up to the first
error. Gives the batch and the number of moves in any case. -/
def drain {σ : Type} (host : Host)
    (absorb : σ → Except DownloadError Content → Except RunError σ) :
    List Nat → σ → Batch → Nat → Except RunError σ × Batch × Nat
  | [], t, b, moves => (.ok t, b, moves)
  | index :: rest, t, b, moves =>
    let (handed, b, moves) := b.wait host index moves
    match absorb t handed with
    | .ok t => drain host absorb rest t b moves
    | .error e => (.error e, b, moves)

end Batch

end Quarry
