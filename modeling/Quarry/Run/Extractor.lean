import Quarry.Pattern.Template
import Quarry.Plan.Basic
import Quarry.Run.Error
import Quarry.Selector.Matching
import Quarry.Selector.Parser

/-!
Extractors: the selectors and patterns of a select, read before the first row. What an extractor
holds is not read again for a row.
-/

namespace Quarry

structure Extractor where
  selectors : List (String × Selector)
  patterns : List (String × Matcher)

namespace Extractor

def empty : Extractor := ⟨[], []⟩

def readSelector (source : String) : Except RunError Selector :=
  match Selector.parse? source with
  | some selector => .ok selector
  | none => .error (.selector source)

def readPattern (source : String) : Except RunError Matcher :=
  match Matcher.compile? source with
  | some matcher => .ok matcher
  | none => .error (.pattern source)

/-- The selector with a source: the one that is held, or else read now. -/
def selector (x : Extractor) (source : String) : Except RunError Selector :=
  match x.selectors.lookup source with
  | some selector => .ok selector
  | none => readSelector source

def matcher (x : Extractor) (source : String) : Except RunError Matcher :=
  match x.patterns.lookup source with
  | some matcher => .ok matcher
  | none => readPattern source

def holdSelector (x : Extractor) (source : String) : Except RunError Extractor := do
  return { x with selectors := (source, ← x.selector source) :: x.selectors }

def holdPattern (x : Extractor) (source : String) : Except RunError Extractor := do
  return { x with patterns := (source, ← x.matcher source) :: x.patterns }

def hold (x : Extractor) (e : Extraction) : Except RunError Extractor := do
  let x ← x.holdSelector e.selector
  match e.pattern with
  | some pattern => x.holdPattern pattern
  | none => return x

def nodesOf : SourceStep → Option String
  | .single | .buffer _ => none
  | .download _ _ options | .downloadEach _ _ options => options.nodes

/-- The extractor of a select, not of a url query: the selector of its nodes, then its extractions
in order. -/
def prepare (step : SelectStep) : Except RunError Extractor := do
  let x ← match nodesOf step.source with
    | some nodes => empty.holdSelector nodes
    | none => pure empty
  step.extractions.foldlM hold x

/-- The places of a page that give a row each: its nodes, or only its root. -/
def contexts (x : Extractor) (nodes : Option String) (root : Page.Spot) :
    Except RunError (List Page.Spot) :=
  match nodes with
  | some source => do return (← x.selector source).selectAll root
  | none => return [root]

def take (part : Script.Take) (spot : Page.Spot) : Option String :=
  match part with
  | .text => some spot.text
  | .html => some spot.markup
  | .attribute name => spot.attribute? name

/-- Cuts a text: what the pattern matches, or the text with every match replaced. -/
def cut (x : Extractor) (e : Extraction) (text : String) : Except RunError (Option String) :=
  match e.pattern with
  | none => return some text
  | some pattern => do
    let matcher ← x.matcher pattern
    match e.template with
    | some template => return matcher.replaceAll? text template
    | none => return matcher.matchAll? text

/-- The value of an extraction within a place of a page: null if nothing is found. -/
def extract (x : Extractor) (e : Extraction) (context : Page.Spot) : Except RunError Value := do
  let selector ← x.selector e.selector
  match (selector.select context).head? >>= take e.part with
  | none => return .null
  | some text => return ((← x.cut e text).map Value.string).getD .null

end Extractor

end Quarry
