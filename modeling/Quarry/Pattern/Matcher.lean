import Quarry.Pattern.Parser
import Quarry.Pattern.Search

/-!
Matchers: patterns ready for searching, and all their matches in a text.
-/

namespace Quarry

structure Matcher where
  program : Pattern.Program
  groups : Nat
  names : List (String × Nat)

/-- A match in a text: the text since the match before it, and the text of each group. Group 0
is the match itself, and a group that took no part has none. -/
structure Occurrence where
  skipped : List Char
  groups : List (Option (List Char))

namespace Occurrence

def group (o : Occurrence) (index : Nat) : List Char :=
  ((o.groups[index]?).bind id).getD []

def text (o : Occurrence) : List Char := o.group 0

end Occurrence

namespace Matcher

open Pattern (Place)

/-- The steps that a pattern may have. An engine that bounds the bytes of compiled patterns, at ten
megabytes, draws the line elsewhere among very large patterns. -/
def sizeLimit : Nat := 300000

/-- The matcher of a pattern. A text that is no pattern has none, nor has a pattern that is too
large when its repetitions are written out.

Classes by property are known for letters, their case, white space, general categories and the
scripts of `Text.scriptRanges?`. A pattern with any other property, such as an age, an emoji
property, another script or a kind of text boundary, has no matcher. How deep groups, classes and
repetitions nest is not limited. -/
def compile? (source : String) : Option Matcher := do
  let (p, groups, names) ← Pattern.parse? source
  if p.size ≤ sizeLimit then some ⟨.ofPattern p, groups, names⟩ else none

def span? (marks : Array (Option Nat)) (group : Nat) : Option (Nat × Nat) := do
  let first ← (← marks[2 * group]?)
  let last ← (← marks[2 * group + 1]?)
  some (first, last)

def search? (m : Matcher) (place : Place) : Option ((Nat × Nat) × List (Option (List Char))) := do
  let marks ← m.program.search? m.groups place
  let whole ← span? marks 0
  let texts := (List.range (m.groups + 1)).map fun i =>
    (span? marks i).map fun s => place.between s.1 s.2
  some (whole, texts)

/-- The first match at or after a place. An empty match right behind the match before it does not
count: the search goes on one character later. -/
def next? (m : Matcher) (place : Place) (last : Option Nat) :
    Option ((Nat × Nat) × List (Option (List Char))) := do
  let found ← m.search? place
  if found.1.1 = found.1.2 ∧ some found.1.2 = last then
    if place.rest.isEmpty then none else m.search? place.next
  else some found

/-- The matches from a place on, none of which overlap, and the text behind the last. `last` is
the end of the match before. The bound is never reached: after the first match each one ends
behind the one before it. -/
def occurrencesFrom (m : Matcher) : Nat → Place → Option Nat → List Occurrence × List Char
  | 0, place, _ => ([], place.rest)
  | bound + 1, place, last =>
    match m.next? place last with
    | none => ([], place.rest)
    | some ((first, stop), groups) =>
      let here : Occurrence := ⟨place.between place.index first, groups⟩
      let (others, tail) := occurrencesFrom m bound (place.skip (stop - place.index)) (some stop)
      (here :: others, tail)

def occurrences (m : Matcher) (text : String) : List Occurrence × List Char :=
  m.occurrencesFrom (text.toList.length + 2) (.start text.toList) none

def matchAll? (m : Matcher) (text : String) : Option String :=
  match (m.occurrences text).1 with
  | [] => none
  | found => some (.ofList (found.flatMap Occurrence.text))

end Matcher

end Quarry
