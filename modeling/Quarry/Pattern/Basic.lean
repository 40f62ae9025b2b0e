import Quarry.Pattern.CharSet

/-!
Patterns: what they are made of, and where their anchors hold.
-/

namespace Quarry

namespace Pattern

/-- An edge of words. The half forms look at one side only. -/
inductive WordEdge where
  | either | neither | start | stop | startHalf | stopHalf
deriving DecidableEq, Repr

inductive Anchor where
  | textStart
  | textEnd
  | lineStart (carriage : Bool)
  | lineEnd (carriage : Bool)
  | word (edge : WordEdge) (ascii : Bool)
deriving DecidableEq, Repr

namespace WordEdge

def holds (before after : Bool) : WordEdge → Bool
  | either => before != after
  | neither => before == after
  | start => !before && after
  | stop => before && !after
  | startHalf => !before
  | stopHalf => !after

end WordEdge

namespace Anchor

/-- Whether the anchor holds between two characters, of which the first is absent at the start
of the text and the second at its end. With `carriage`, a carriage return ends a line too, and a
line feed after it ends no other. -/
def holds (before after : Option Char) : Anchor → Bool
  | textStart => before.isNone
  | textEnd => after.isNone
  | lineStart false => before.isNone || before == some '\n'
  | lineStart true =>
    before.isNone || before == some '\n' || (before == some '\r' && after != some '\n')
  | lineEnd false => after.isNone || after == some '\n'
  | lineEnd true =>
    after.isNone || after == some '\r' || (after == some '\n' && before != some '\r')
  | word edge ascii =>
    let set := if ascii then CharSet.asciiWord else CharSet.word
    edge.holds (before.any set.contains) (after.any set.contains)

end Anchor

end Pattern

/-- A pattern. Of several ways to match at one place the first counts: a choice tries its first
side first, and a greedy repetition tries one more round first. -/
inductive Pattern where
  | empty
  | set (s : Pattern.CharSet)
  | anchor (a : Pattern.Anchor)
  | group (index : Nat) (body : Pattern)
  | seq (first second : Pattern)
  | choice (first second : Pattern)
  | repeated (body : Pattern) (least : Nat) (most : Option Nat) (greedy : Bool)
deriving Repr

namespace Pattern

def canBeEmpty : Pattern → Bool
  | empty => true
  | set _ => false
  | anchor _ => true
  | group _ body => body.canBeEmpty
  | seq first second => first.canBeEmpty && second.canBeEmpty
  | choice first second => first.canBeEmpty || second.canBeEmpty
  | repeated body least _ _ => least == 0 || body.canBeEmpty

/-- The number of steps that the pattern takes when its repetitions are written out. -/
def size : Pattern → Nat
  | empty => 1
  | set _ => 1
  | anchor _ => 1
  | group _ body => body.size + 2
  | seq first second => first.size + second.size
  | choice first second => first.size + second.size + 1
  | repeated body least most _ => (body.size + 1) * (max least (most.getD 1) + 1)

end Pattern

end Quarry
