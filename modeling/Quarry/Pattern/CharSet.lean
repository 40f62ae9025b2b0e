import Quarry.Text.Blank
import Quarry.Text.CaseFold
import Quarry.Text.Category
import Quarry.Text.Numeric
import Quarry.Text.Word
import Quarry.Text.WritingSystem

/-!
Sets of characters, as patterns describe them. A set is kept as its description, so that
complements and letter case cost nothing until a character is looked up.
-/

namespace Quarry.Pattern

open Quarry.Text

inductive CharSet where
  | empty
  | range (first last : Char)
  | codes (ranges : CodeRanges)
  | categories (list : List Category)
  | alphabetic
  | blank
  | word
  | union (a b : CharSet)
  | inter (a b : CharSet)
  | diff (a b : CharSet)
  | complement (a : CharSet)
  | anyCase (a : CharSet)
  | anyAsciiCase (a : CharSet)
deriving Repr

namespace CharSet

def otherAsciiCase (c : Char) : Char :=
  if c.isUpper then c.toLower else c.toUpper

def contains : CharSet → Char → Bool
  | empty, _ => false
  | range first last, c => first ≤ c && c ≤ last
  | codes ranges, c => ranges.contains c.toNat
  | categories list, c => list.contains (Category.ofChar c)
  | alphabetic, c => isAlphabetic c
  | blank, c => isBlank c
  | word, c => isWordChar c
  | union a b, c => a.contains c || b.contains c
  | inter a b, c => a.contains c && b.contains c
  | diff a b, c => a.contains c && !b.contains c
  | complement a, c => !a.contains c
  | anyCase a, c => (caseOrbit c.toNat).any fun n => a.contains (Char.ofNat n)
  | anyAsciiCase a, c => a.contains c || a.contains (otherAsciiCase c)

def single (c : Char) : CharSet := range c c

def all : CharSet := complement empty

def ofRanges (ranges : List (Char × Char)) : CharSet :=
  ranges.foldr (fun r s => union (range r.1 r.2) s) empty

def symmDiff (a b : CharSet) : CharSet := union (diff a b) (diff b a)

/-- Whether the description alone shows that the set is within ASCII. -/
def withinAscii : CharSet → Bool
  | empty => true
  | range _ last => last.toNat < 0x80
  | union a b => a.withinAscii && b.withinAscii
  | inter a b => a.withinAscii || b.withinAscii
  | diff a _ => a.withinAscii
  | anyAsciiCase a => a.withinAscii
  | _ => false

/-! ## 1. Sets by name -/

def digit : CharSet := categories [.nd]

def asciiDigit : CharSet := range '0' '9'

def asciiBlank : CharSet := ofRanges [('\t', '\r'), (' ', ' ')]

def asciiWord : CharSet := ofRanges [('0', '9'), ('A', 'Z'), ('_', '_'), ('a', 'z')]

/-- The ASCII sets that a bracket names as `[:name:]`. -/
def posix? : String → Option CharSet
  | "alnum" => some (ofRanges [('0', '9'), ('A', 'Z'), ('a', 'z')])
  | "alpha" => some (ofRanges [('A', 'Z'), ('a', 'z')])
  | "ascii" => some (range '\x00' '\x7f')
  | "blank" => some (ofRanges [('\t', '\t'), (' ', ' ')])
  | "cntrl" => some (ofRanges [('\x00', '\x1f'), ('\x7f', '\x7f')])
  | "digit" => some asciiDigit
  | "graph" => some (range '!' '~')
  | "lower" => some (range 'a' 'z')
  | "print" => some (range ' ' '~')
  | "punct" => some (ofRanges [('!', '/'), (':', '@'), ('[', '\x60'), ('\x7b', '~')])
  | "space" => some asciiBlank
  | "upper" => some (range 'A' 'Z')
  | "word" => some asciiWord
  | "xdigit" => some (ofRanges [('0', '9'), ('A', 'F'), ('a', 'f')])
  | _ => none

/-- The general categories that a normal name stands for: one of them, or a group of them. -/
def categories? : String → Option (List Category)
  | "l" | "letter" => some [.lu, .ll, .lt, .lm, .lo]
  | "lc" | "casedletter" => some [.lu, .ll, .lt]
  | "m" | "mark" | "combiningmark" => some [.mn, .mc, .me]
  | "n" | "number" => some [.nd, .nl, .no]
  | "p" | "punctuation" | "punct" => some [.pc, .pd, .ps, .pe, .pi, .pf, .po]
  | "s" | "symbol" => some [.sm, .sc, .sk, .so]
  | "z" | "separator" => some [.zs, .zl, .zp]
  | "c" | "other" => some [.cc, .cf, .cs, .co, .cn]
  | "digit" => some [.nd]
  | "cntrl" => some [.cc]
  | name =>
    (Category.all.find? fun k => k.names.1 = name || k.names.2 = name).map fun k => [k]

def categorySet? : String → Option CharSet
  | "any" => some all
  | "ascii" => some (range '\x00' '\x7f')
  | "assigned" => some (complement (categories [.cn]))
  | name => (categories? name).map categories

/-- A name without its case, blanks, underscores, hyphens and a leading `is`. -/
def normalName (name : String) : String :=
  let strip (cs : List Char) : List Char :=
    (cs.filter fun c => c.toNat < 0x80 && c ≠ ' ' && c ≠ '_' && c ≠ '-').map Char.toLower
  match name.toList.map Char.toLower with
  | 'i' :: 's' :: rest =>
    let plain := strip rest
    String.ofList (if plain = ['c'] then ['i', 's', 'c'] else plain)
  | _ => String.ofList (strip name.toList)

/-- The set of the characters with a property of the given normal name: a property of letters or
of white space, a general category or a script. -/
def property? : String → Option CharSet
  | "alphabetic" | "alpha" => some alphabetic
  | "uppercase" | "upper" => some (union (categories [.lu]) (codes otherUpperRanges))
  | "lowercase" | "lower" => some (union (categories [.ll]) (codes otherLowerRanges))
  | "whitespace" | "space" | "wspace" => some blank
  | name => (categorySet? name).or ((scriptRanges? name).map codes)

def propertyValue? (property value : String) : Option CharSet :=
  match normalName property with
  | "gc" | "generalcategory" => categorySet? (normalName value)
  | "sc" | "script" | "scx" | "scriptextensions" =>
    (scriptRanges? (normalName value)).map codes
  | _ => none

end CharSet

end Quarry.Pattern
