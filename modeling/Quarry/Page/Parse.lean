import Quarry.Page.Rules

/-!
Reading pages. Every text is a page: what is missing is added, and what is misplaced finds a
place.
-/

namespace Quarry.Page

namespace Draft

/-- Reads the rest of a page. The bound is never reached: of two rounds at least one takes a
character. -/
def read : Nat → Draft → List Char → Draft
  | 0, d, _ => d
  | _ + 1, d, [] => d
  | bound + 1, d, cs =>
    match d.raw with
    | some (kind, name) =>
      let (text, rest) := Markup.raw kind name cs
      read bound (d.feedRaw text) rest
    | none =>
      let (token, rest) := Markup.next cs
      read bound ((token.map d.feed).getD d) rest

/-- Adds the root, the head and the body where they are missing. -/
def complete (d : Draft) : Draft :=
  let d := if d.mode = .rawText then d.leave.switchTo d.resume else d
  match d.mode with
  | .start | .beforeHtml =>
    (((d.enterImplied "html").enterImplied "head").leave.enterImplied "body")
  | .beforeHead => ((d.enterImplied "head").leave.enterImplied "body")
  | .inHead => (d.leave.enterImplied "body")
  | .afterHead => d.enterImplied "body"
  | _ => d

def root (d : Draft) : Node :=
  let d := d.complete
  match (Frame.leaveWhile (fun _ => true) d.opened.length d.opened).getLast? with
  | some f => { f with children := d.behind ++ f.children }.node
  | none => .element "html" [] []

end Draft

def parse (source : String) : Node :=
  let text := match source.toList with
    | '\ufeff' :: rest => rest
    | text => text
  let cs := Markup.unifyLines text
  (Draft.read (2 * cs.length + 2) {} cs).root

end Quarry.Page
