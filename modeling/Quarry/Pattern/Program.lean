import Quarry.Pattern.Basic

/-!
Patterns written out as steps of a search. Each step says where to go on; of two ways the first
is preferred.
-/

namespace Quarry.Pattern

/-- A step of a search. `mark` notes the place under a number. -/
inductive Instruction where
  | take (s : CharSet) (next : Nat)
  | check (a : Anchor) (next : Nat)
  | mark (number next : Nat)
  | fork (first second : Nat)
  | accept
deriving Repr

structure Program where
  steps : Array Instruction
  start : Nat
deriving Repr

namespace Program

/-- A fork between going into a repetition and going past it. -/
def round (greedy : Bool) (inside past : Nat) : Instruction :=
  if greedy then .fork inside past else .fork past inside

def add (steps : Array Instruction) (i : Instruction) : Program :=
  ⟨steps.push i, steps.size⟩

/-- Adds so many copies of something, each of which goes on to the one after it. -/
def copies (body : Array Instruction → Nat → Program) :
    Nat → Array Instruction → Nat → Program
  | 0, steps, next => ⟨steps, next⟩
  | n + 1, steps, next =>
    let rest := copies body n steps next
    body rest.steps rest.start

/-- Adds up to so many copies of something, with a way out in front of each. -/
def upTo (body : Array Instruction → Nat → Program) (greedy : Bool) :
    Nat → Array Instruction → Nat → Program
  | 0, steps, next => ⟨steps, next⟩
  | n + 1, steps, next =>
    let rest := upTo body greedy n steps next
    let inner := body rest.steps rest.start
    add inner.steps (round greedy inner.start next)

/-- Adds one or more copies of something. The fork behind it leads back to its start. -/
def many (body : Array Instruction → Nat → Program) (greedy : Bool)
    (steps : Array Instruction) (next : Nat) : Program :=
  let back := steps.size
  let inner := body (steps.push .accept) back
  ⟨inner.steps.setIfInBounds back (round greedy inner.start next), inner.start⟩

/-- Adds the steps of a pattern that go on to step `next`. A repetition without a bound whose
body can be empty is one or more rounds, or none at all: the body is then tried first even where
it takes no character. -/
def write : Pattern → Array Instruction → Nat → Program
  | .empty, steps, next => ⟨steps, next⟩
  | .set s, steps, next => add steps (.take s next)
  | .anchor a, steps, next => add steps (.check a next)
  | .group index body, steps, next =>
    let stop := add steps (.mark (2 * index + 1) next)
    let inner := write body stop.steps stop.start
    add inner.steps (.mark (2 * index) inner.start)
  | .seq first second, steps, next =>
    let rest := write second steps next
    write first rest.steps rest.start
  | .choice first second, steps, next =>
    let other := write second steps next
    let inner := write first other.steps next
    add inner.steps (.fork inner.start other.start)
  | .repeated body least most greedy, steps, next =>
    match most with
    | some most =>
      let rest := upTo (write body) greedy (most - least) steps next
      copies (write body) least rest.steps rest.start
    | none =>
      match least with
      | 0 =>
        if body.canBeEmpty then
          let rounds := many (write body) greedy steps next
          add rounds.steps (round greedy rounds.start next)
        else
          let back := steps.size
          let inner := write body (steps.push .accept) back
          ⟨inner.steps.setIfInBounds back (round greedy inner.start next), back⟩
      | least + 1 =>
        let rounds := many (write body) greedy steps next
        copies (write body) least rounds.steps rounds.start

def ofPattern (p : Pattern) : Program :=
  write (.group 0 p) #[.accept] 0

end Program

end Quarry.Pattern
