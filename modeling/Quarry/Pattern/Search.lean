import Quarry.Pattern.Program

/-!
Searching a text. All ways through the steps are followed side by side, in order of preference,
so that the time is the product of the length of the text and the number of steps.
-/

namespace Quarry.Pattern

/-- A place in a text: the character before it, its index and the characters after it. -/
structure Place where
  before : Option Char
  index : Nat
  rest : List Char

namespace Place

def start (text : List Char) : Place := ⟨none, 0, text⟩

/-- The place one character further on. The end of the text stays. -/
def next (p : Place) : Place :=
  match p.rest with
  | [] => p
  | c :: rest => ⟨some c, p.index + 1, rest⟩

def skip (p : Place) : Nat → Place
  | 0 => p
  | n + 1 => (p.next).skip n

def between (p : Place) (first last : Nat) : List Char :=
  (p.rest.drop (first - p.index)).take (last - first)

end Place

/-- A way through the steps: the step it is at and the places it has noted. -/
structure Thread where
  step : Nat
  marks : Array (Option Nat)

namespace Program

/-- Follows the steps that take no character, most preferred first, and gives the threads that
stand at a step that takes one or accepts. Each step is entered at most once. The bound is never
reached: a thread either meets a step that was entered, or enters one and leaves at most two. -/
def settle (p : Program) (place : Place) :
    Nat → List Thread → Array Bool → Array Thread → Array Thread
  | 0, _, _, settled => settled
  | _ + 1, [], _, settled => settled
  | bound + 1, t :: pending, entered, settled =>
    if entered.getD t.step true then settle p place bound pending entered settled
    else
      let entered := entered.setIfInBounds t.step true
      match p.steps[t.step]? with
      | none => settle p place bound pending entered settled
      | some (.take _ _) | some .accept =>
        settle p place bound pending entered (settled.push t)
      | some (.check a next) =>
        if a.holds place.before place.rest.head? then
          settle p place bound (⟨next, t.marks⟩ :: pending) entered settled
        else settle p place bound pending entered settled
      | some (.mark number next) =>
        let marks := t.marks.setIfInBounds number (some place.index)
        settle p place bound (⟨next, marks⟩ :: pending) entered settled
      | some (.fork first second) =>
        settle p place bound (⟨first, t.marks⟩ :: ⟨second, t.marks⟩ :: pending) entered settled

def feed (p : Program) (c : Char) (threads : List Thread) : List Thread :=
  threads.filterMap fun (t : Thread) =>
    match p.steps[t.step]? with
    | some (.take s next) => if s.contains c then some ⟨next, t.marks⟩ else none
    | _ => none

def accepts (p : Program) (t : Thread) : Bool :=
  match p.steps[t.step]? with
  | some .accept => true
  | _ => false

/-- The state of a search between two characters: the threads that can take the next one, and the
marks of the best match so far. -/
structure Front where
  live : List Thread
  best : Option (Array (Option Nat))

/-- The front at a place that some threads have come to. While there is no match a new thread
starts here, less preferred than all others. A thread that accepts ends those behind it. -/
def front (p : Program) (marks : Nat) (place : Place) (threads : List Thread)
    (best : Option (Array (Option Nat))) : Front :=
  let fresh := if best.isNone then [⟨p.start, Array.replicate marks none⟩] else []
  let seeds := threads ++ fresh
  let bound := 2 * p.steps.size + seeds.length + 1
  let settled :=
    (settle p place bound seeds (Array.replicate p.steps.size false) #[]).toList
  { live := settled.takeWhile fun t => !p.accepts t
    best := ((settled.find? p.accepts).map Thread.marks).or best }

/-- Takes the characters from a place on, one after the other, until no thread is left that could
better the match. -/
def finish (p : Program) (marks : Nat) : Nat → List Char → Front → Option (Array (Option Nat))
  | _, [], f => f.best
  | index, c :: rest, f =>
    let threads := p.feed c f.live
    if threads.isEmpty && f.best.isSome then f.best
    else finish p marks (index + 1) rest
      (p.front marks ⟨some c, index + 1, rest⟩ threads f.best)

def search? (p : Program) (groups : Nat) (place : Place) : Option (Array (Option Nat)) :=
  let marks := 2 * groups + 2
  finish p marks place.index place.rest (p.front marks place [] none)

end Program

end Quarry.Pattern
