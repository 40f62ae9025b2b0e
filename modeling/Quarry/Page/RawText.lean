import Quarry.Page.Reference

/-!
Raw texts: the content of elements that hold no elements, up to their end tag.
-/

namespace Quarry.Page

/-- How the content of an element is read that holds no elements. -/
inductive RawKind where
  | plain
  | references
  | script
  | endless
deriving DecidableEq, Repr

namespace Markup

/-- Whether a name follows, and then the end of a name in a tag. -/
def opensTag (name cs : List Char) : Bool :=
  startsWith name cs &&
    match cs.drop name.length with
    | c :: _ => isSpace c || c = '/' || c = '>'
    | [] => false

def splitRaw (name : List Char) : List Char → List Char → List Char × List Char
  | read, [] => (read.reverse, [])
  | read, c :: rest =>
    if c = '<' && rest.head? = some '/' && opensTag name rest.tail then (read.reverse, c :: rest)
    else splitRaw name (c :: read) rest

/-- Where the reading of a script is: a script in a comment may hold a script of its own. -/
inductive ScriptPart where
  | code | comment | inner
deriving DecidableEq, Repr

def ScriptPart.after (c : Char) (rest : List Char) : ScriptPart → ScriptPart
  | code => if c = '<' && startsWith ['!', '-', '-'] rest then comment else code
  | comment =>
    if c = '-' && startsWith ['-', '>'] rest then code
    else if c = '<' && opensTag "script".toList rest then inner
    else comment
  | inner =>
    if c = '-' && startsWith ['-', '>'] rest then code
    else if c = '<' && rest.head? = some '/' && opensTag "script".toList rest.tail then comment
    else inner

def splitScript (part : ScriptPart) : List Char → List Char → List Char × List Char
  | read, [] => (read.reverse, [])
  | read, c :: rest =>
    if part ≠ .inner && c = '<' && rest.head? = some '/' && opensTag "script".toList rest.tail
    then (read.reverse, c :: rest)
    else splitScript (part.after c rest) (c :: read) rest

def raw (kind : RawKind) (name : String) (cs : List Char) : String × List Char :=
  match kind with
  | .endless => (clean cs, [])
  | .plain =>
    let (text, rest) := splitRaw name.toList [] cs
    (clean text, rest)
  | .references =>
    let (text, rest) := splitRaw name.toList [] cs
    (clean (decode false text), rest)
  | .script =>
    let (text, rest) := splitScript .code [] cs
    (clean text, rest)

end Markup

end Quarry.Page
