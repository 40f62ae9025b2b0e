import Quarry.Page.Formatting

/-!
How a draft takes a token, mode by mode. A rule gives the draft and, where the token is not used
up, what is left of it for the mode that the draft is in then.
-/

namespace Quarry.Page.Draft

open Markup

/-- The draft after a token, and what is left of the token. -/
abbrev Outcome := Draft × Option Token

def done (d : Draft) : Outcome := (d, none)

def again (d : Draft) (t : Token) : Outcome := (d, some t)

def plainTag (name : String) : Tag := ⟨name, [], false⟩

/-! ## 1. The head -/

def startInHead (d : Draft) (placement : Placement) (tag : Tag) : Draft :=
  match tag.name with
  | "title" => d.enterRaw placement .references tag
  | "style" | "noframes" | "noscript" => d.enterRaw placement .plain tag
  | "script" => d.enterRaw placement .script tag
  | _ => (d.openAt placement tag).leave

def belongsToHead (name : String) : Bool :=
  ["base", "basefont", "bgsound", "link", "meta", "title", "noframes", "style",
    "script"].contains name

def start (d : Draft) : Token → Outcome
  | .comment _ => done d
  | .doctype name => done { d with mode := .beforeHtml, loose := name != "html" }
  | .text cs =>
    match cs.dropWhile isSpace with
    | [] => done d
    | rest => again (d.switchTo .beforeHtml) (.text rest)
  | t => again (d.switchTo .beforeHtml) t

def beforeHtml (d : Draft) : Token → Outcome
  | .doctype _ | .comment _ => done d
  | .text cs =>
    match cs.dropWhile isSpace with
    | [] => done d
    | rest => again ((d.enterImplied "html").switchTo .beforeHead) (.text rest)
  | .start tag =>
    if tag.name = "html" then done ((d.enter tag).switchTo .beforeHead)
    else again ((d.enterImplied "html").switchTo .beforeHead) (.start tag)
  | .stop name =>
    if ["head", "body", "html", "br"].contains name then
      again ((d.enterImplied "html").switchTo .beforeHead) (.stop name)
    else done d

def beforeHead (d : Draft) : Token → Outcome
  | .doctype _ => done d
  | .comment s => done (d.addComment s)
  | .text cs =>
    match cs.dropWhile isSpace with
    | [] => done d
    | rest => again ((d.enterImplied "head").switchTo .inHead) (.text rest)
  | .start tag =>
    match tag.name with
    | "html" => done (d.addAttributes "html" tag.attributes)
    | "head" => done ((d.enter tag).switchTo .inHead)
    | _ => again ((d.enterImplied "head").switchTo .inHead) (.start tag)
  | .stop name =>
    if ["head", "body", "html", "br"].contains name then
      again ((d.enterImplied "head").switchTo .inHead) (.stop name)
    else done d

def inHead (d : Draft) : Token → Outcome
  | .doctype _ => done d
  | .comment s => done (d.addComment s)
  | .text cs =>
    let d := d.addText (cs.takeWhile isSpace)
    match cs.dropWhile isSpace with
    | [] => done d
    | rest => again (d.leave.switchTo .afterHead) (.text rest)
  | .start tag =>
    if tag.name = "html" then done (d.addAttributes "html" tag.attributes)
    else if tag.name = "head" then done d
    else if belongsToHead tag.name || tag.name = "noscript" then done (d.startInHead .inside tag)
    else again (d.leave.switchTo .afterHead) (.start tag)
  | .stop name =>
    match name with
    | "head" => done (d.leave.switchTo .afterHead)
    | "body" | "html" | "br" => again (d.leave.switchTo .afterHead) (.stop name)
    | _ => done d

def afterHead (d : Draft) : Token → Outcome
  | .doctype _ => done d
  | .comment s => done (d.addComment s)
  | .text cs =>
    let d := d.addText (cs.takeWhile isSpace)
    match cs.dropWhile isSpace with
    | [] => done d
    | rest => again ((d.enterImplied "body").switchTo .inBody) (.text rest)
  | .start tag =>
    if tag.name = "html" then done (d.addAttributes "html" tag.attributes)
    else if tag.name = "body" then done ((d.enter tag).switchTo .inBody)
    else if tag.name = "head" || tag.name = "frameset" then done d
    else if belongsToHead tag.name then done (d.startInHead .toHead tag)
    else again ((d.enterImplied "body").switchTo .inBody) (.start tag)
  | .stop name =>
    if ["body", "html", "br"].contains name then
      again ((d.enterImplied "body").switchTo .inBody) (.stop name)
    else done d

/-! ## 2. The body -/

/-- The elements that end a paragraph in front of them and are ended by their own end tag. -/
def isBlock (name : String) : Bool :=
  ["address", "article", "aside", "blockquote", "center", "details", "dialog", "dir", "div",
    "dl", "fieldset", "figcaption", "figure", "footer", "header", "hgroup", "main", "menu",
    "nav", "ol", "p", "search", "section", "summary", "ul"].contains name

def headings : List String := ["h1", "h2", "h3", "h4", "h5", "h6"]

def isFormatting (name : String) : Bool :=
  ["b", "big", "code", "em", "font", "i", "s", "small", "strike", "strong", "tt", "u"].contains
    name

/-- The parts of tables, which have no meaning outside of one, and those of the page. -/
def isOutOfPlace (name : String) : Bool :=
  ["caption", "col", "colgroup", "frame", "frameset", "head", "tbody", "td", "tfoot", "th",
    "thead", "tr"].contains name

/-- Ends the items of a list that an item of one of some names ends: those around it up to the
first part of the layout other than a plain block. -/
def leaveItem (names : List String) (d : Draft) : Draft :=
  let isBorder (f : Frame) : Bool :=
    !f.ended && (names.contains f.name ||
      (isSpecial f.name && !(["address", "div", "p"].contains f.name)))
  match d.opened.find? isBorder with
  | some f =>
    if names.contains f.name then (d.leaveImplied f.name).leaveThrough [f.name] else d
  | none => d

/-- Opens an element, and closes it where it closes itself within a drawing or a formula. -/
def enterAny (d : Draft) (tag : Tag) : Draft :=
  let isDrawing := ["svg", "math"].contains tag.name || d.isOpen "svg" || d.isOpen "math"
  if tag.selfClosing && isDrawing then d.addEmpty tag else d.enter tag

def startInBody (d : Draft) (tag : Tag) : Draft :=
  let name := tag.name
  if isBlock name then d.leaveParagraph.enter tag
  else if headings.contains name then
    let d := d.leaveParagraph
    let d := if headings.contains d.current then d.leave else d
    d.enter tag
  else if isFormatting name then d.resumeFormatting.enterFormatting tag
  else if belongsToHead name then d.startInHead d.placement tag
  else if isOutOfPlace name then d
  else match name with
  | "html" => d.addAttributes "html" tag.attributes
  | "body" => d.addAttributes "body" tag.attributes
  | "pre" | "listing" => { d.leaveParagraph.enter tag with skipLine := true }
  | "form" =>
    if d.hasForm then d else { d.leaveParagraph.enter tag with hasForm := true }
  | "li" => ((d.leaveItem ["li"]).leaveParagraph).enter tag
  | "dd" | "dt" => ((d.leaveItem ["dd", "dt"]).leaveParagraph).enter tag
  | "plaintext" => d.leaveParagraph.enterRaw d.leaveParagraph.placement .endless tag
  | "button" =>
    let d := if d.has .element "button" then d.leaveImplied.leaveThrough ["button"] else d
    d.resumeFormatting.enter tag
  | "a" =>
    let isLink : Formatting → Bool
      | .element _ other => other.name = "a"
      | .border => false
    let d :=
      match d.near.find? isLink with
      | some (.element id _) =>
        let d := (d.endFormatting "a").markOver id
        { d with formatting := d.formatting.filter (!isFor id ·) }
      | _ => d
    d.resumeFormatting.enterFormatting tag
  | "nobr" =>
    let d := d.resumeFormatting
    let d := if d.has .element "nobr" then (d.endFormatting "nobr").resumeFormatting else d
    d.enterFormatting tag
  | "applet" | "marquee" | "object" => (d.resumeFormatting.enter tag).addBorder
  | "table" => ((if d.loose then d else d.leaveParagraph).enter tag).switchTo .inTable
  | "area" | "br" | "embed" | "img" | "keygen" | "wbr" | "input" =>
    d.resumeFormatting.addEmpty tag
  | "param" | "source" | "track" => d.addEmpty tag
  | "hr" => d.leaveParagraph.addEmpty tag
  | "image" => d.resumeFormatting.addEmpty { tag with name := "img" }
  | "textarea" => { d.enterRaw d.placement .references tag with skipLine := true }
  | "xmp" => (fun d => d.enterRaw d.placement .plain tag) d.leaveParagraph.resumeFormatting
  | "iframe" | "noembed" | "noscript" => d.enterRaw d.placement .plain tag
  | "select" =>
    let inTable := [Mode.inTable, .inCaption, .inTableBody, .inRow, .inCell].contains d.mode
    (d.resumeFormatting.enter tag).switchTo (if inTable then .inSelectInTable else .inSelect)
  | "optgroup" | "option" =>
    (if d.current = "option" then d.leave else d).resumeFormatting.enter tag
  | "rb" | "rtc" => (if d.has .element "ruby" then d.leaveImplied else d).enter tag
  | "rp" | "rt" => (if d.has .element "ruby" then d.leaveImplied "rtc" else d).enter tag
  | _ => d.resumeFormatting.enterAny tag

def endForm (d : Draft) : Draft :=
  if !d.hasForm then d
  else
    let d := { d with hasForm := false }
    if !d.has .element "form" then d
    else
      let d := d.leaveImplied
      if d.current = "form" then d.leave
      else
        match d.opened.find? fun f => !f.ended && f.name = "form" with
        | some form => d.markOver form.id
        | none => d

def stopInBody (d : Draft) (name : String) : Outcome :=
  if name = "p" then
    let d := if d.has .button "p" then d else d.enterImplied "p"
    done d.leaveParagraph
  else if isBlock name || ["button", "listing", "pre"].contains name then
    done (if d.has .element name then d.leaveImplied.leaveThrough [name] else d)
  else if headings.contains name then
    done (if Frame.inScope .element headings d.opened then d.leaveImplied.leaveThrough headings
      else d)
  else if isFormatting name || name = "a" || name = "nobr" then done (d.endFormatting name)
  else match name with
  | "body" => done (if d.has .element "body" then d.switchTo .afterBody else d)
  | "html" => if d.has .element "body" then again (d.switchTo .afterBody) (.stop name) else done d
  | "form" => done d.endForm
  | "li" => done (if d.has .listItem "li" then (d.leaveImplied "li").leaveThrough ["li"] else d)
  | "dd" | "dt" =>
    done (if d.has .element name then (d.leaveImplied name).leaveThrough [name] else d)
  | "applet" | "marquee" | "object" =>
    done (if d.has .element name then (d.leaveImplied.leaveThrough [name]).dropToBorder else d)
  | "br" => done (d.resumeFormatting.addEmpty (plainTag "br"))
  | _ => done (d.endOther name)

def inBody (d : Draft) : Token → Outcome
  | .doctype _ => done d
  | .comment s => done (d.addComment s)
  | .text cs => done (if cs.isEmpty then d else d.resumeFormatting.addText cs)
  | .start tag => done (d.startInBody tag)
  | .stop name => d.stopInBody name

def inRawText (d : Draft) : Token → Outcome
  | .stop _ => done (d.leave.switchTo d.resume)
  | _ => done d

def afterBody (d : Draft) : Token → Outcome
  | .doctype _ => done d
  | .comment s => done { d with behind := .comment s :: d.behind }
  | .text cs =>
    if cs.all isSpace then d.inBody (.text cs)
    else again (d.switchTo .inBody) (.text cs)
  | .start tag =>
    if tag.name = "html" then done (d.addAttributes "html" tag.attributes)
    else again (d.switchTo .inBody) (.start tag)
  | .stop name =>
    if name = "html" then done (d.switchTo .afterPage) else again (d.switchTo .inBody) (.stop name)

def afterPage (d : Draft) : Token → Outcome
  | .doctype _ | .comment _ => done d
  | .text cs =>
    if cs.all isSpace then d.inBody (.text cs)
    else again (d.switchTo .inBody) (.text cs)
  | .start tag =>
    if tag.name = "html" then done (d.addAttributes "html" tag.attributes)
    else again (d.switchTo .inBody) (.start tag)
  | t => again (d.switchTo .inBody) t

/-! ## 3. Tables -/

def leaveTo (names : List String) (d : Draft) : Draft :=
  d.leaveWhile fun name => !names.contains name && name != "html"

/-- Takes a token that is misplaced in a table as the body would, in front of the table. -/
def misplacedInTable (d : Draft) (t : Token) : Outcome :=
  let (d, rest) := ({ d with misplaced := true }).inBody t
  ({ d with misplaced := false }, rest)

def inTable (d : Draft) : Token → Outcome
  | .doctype _ => done d
  | .comment s => done (d.addComment s)
  | .text cs =>
    if ["table", "tbody", "tfoot", "thead", "tr"].contains d.current && cs.all isSpace then
      done (d.addText cs)
    else d.misplacedInTable (.text cs)
  | .start tag =>
    let clear := d.leaveTo ["table"]
    match tag.name with
    | "caption" => done ((clear.addBorder.enter tag).switchTo .inCaption)
    | "colgroup" => done ((clear.enter tag).switchTo .inColumnGroup)
    | "col" => again ((clear.enterImplied "colgroup").switchTo .inColumnGroup) (.start tag)
    | "tbody" | "tfoot" | "thead" => done ((clear.enter tag).switchTo .inTableBody)
    | "td" | "th" | "tr" => again ((clear.enterImplied "tbody").switchTo .inTableBody) (.start tag)
    | "table" =>
      if d.has .table "table" then again (d.leaveThrough ["table"]).resetMode (.start tag)
      else done d
    | "style" | "script" => done (d.startInHead .inside tag)
    | "input" =>
      if (tag.attributes.lookup "type").any fun v => v.toLower = "hidden" then
        done (d.addEmpty tag)
      else d.misplacedInTable (.start tag)
    | "form" =>
      if d.hasForm then done d else done { d.addEmpty tag with hasForm := true }
    | _ => d.misplacedInTable (.start tag)
  | .stop name =>
    match name with
    | "table" =>
      if d.has .table "table" then done (d.leaveThrough ["table"]).resetMode else done d
    | "body" | "caption" | "col" | "colgroup" | "html" | "tbody" | "td" | "tfoot" | "th"
    | "thead" | "tr" => done d
    | _ => d.misplacedInTable (.stop name)

def isTablePart (name : String) : Bool :=
  ["caption", "col", "colgroup", "tbody", "td", "tfoot", "th", "thead", "tr"].contains name

def inCaption (d : Draft) (t : Token) : Outcome :=
  let close (rest : Option Token) : Outcome :=
    if d.has .table "caption" then
      ((d.leaveImplied.leaveThrough ["caption"]).dropToBorder.switchTo .inTable, rest)
    else done d
  match t with
  | .start tag => if isTablePart tag.name then close (some t) else d.inBody t
  | .stop "caption" => close none
  | .stop "table" => close (some t)
  | .stop name =>
    if isTablePart name || name = "body" || name = "html" then done d else d.inBody t
  | _ => d.inBody t

def inColumnGroup (d : Draft) (t : Token) : Outcome :=
  let close (rest : Option Token) : Outcome :=
    if d.current = "colgroup" then (d.leave.switchTo .inTable, rest) else done d
  match t with
  | .doctype _ => done d
  | .comment s => done (d.addComment s)
  | .text cs =>
    let rest := cs.dropWhile isSpace
    let d := d.addText (cs.takeWhile isSpace)
    if rest.isEmpty then done d
    else if d.current = "colgroup" then again (d.leave.switchTo .inTable) (.text rest)
    else done d
  | .start tag =>
    match tag.name with
    | "html" => d.inBody t
    | "col" => done (d.addEmpty tag)
    | _ => close (some t)
  | .stop "colgroup" => close none
  | .stop "col" => done d
  | .stop _ => close (some t)

def inTableBody (d : Draft) (t : Token) : Outcome :=
  let clear := d.leaveTo ["tbody", "tfoot", "thead"]
  let close : Outcome :=
    if Frame.inScope .table ["tbody", "thead", "tfoot"] d.opened then
      again (clear.leave.switchTo .inTable) t
    else done d
  match t with
  | .start tag =>
    match tag.name with
    | "tr" => done ((clear.enter tag).switchTo .inRow)
    | "td" | "th" => again ((clear.enterImplied "tr").switchTo .inRow) t
    | "caption" | "col" | "colgroup" | "tbody" | "tfoot" | "thead" => close
    | _ => d.inTable t
  | .stop name =>
    match name with
    | "tbody" | "tfoot" | "thead" =>
      done (if d.has .table name then clear.leave.switchTo .inTable else d)
    | "table" => close
    | "body" | "caption" | "col" | "colgroup" | "html" | "td" | "th" | "tr" => done d
    | _ => d.inTable t
  | _ => d.inTable t

def inRow (d : Draft) (t : Token) : Outcome :=
  let clear := d.leaveTo ["tr"]
  let close (rest : Option Token) : Outcome :=
    if d.has .table "tr" then (clear.leave.switchTo .inTableBody, rest) else done d
  match t with
  | .start tag =>
    match tag.name with
    | "td" | "th" => done ((clear.enter tag).switchTo .inCell).addBorder
    | "caption" | "col" | "colgroup" | "tbody" | "tfoot" | "thead" | "tr" => close (some t)
    | _ => d.inTable t
  | .stop name =>
    match name with
    | "tr" => close none
    | "table" => close (some t)
    | "tbody" | "tfoot" | "thead" => if d.has .table name then close (some t) else done d
    | "body" | "caption" | "col" | "colgroup" | "html" | "td" | "th" => done d
    | _ => d.inTable t
  | _ => d.inTable t

def inCell (d : Draft) (t : Token) : Outcome :=
  let close : Outcome :=
    again ((d.leaveImplied.leaveThrough ["td", "th"]).dropToBorder.switchTo .inRow) t
  match t with
  | .start tag =>
    if isTablePart tag.name then
      if Frame.inScope .table ["td", "th"] d.opened then close else done d
    else d.inBody t
  | .stop name =>
    match name with
    | "td" | "th" =>
      if d.has .table name then
        done ((d.leaveImplied.leaveThrough [name]).dropToBorder.switchTo .inRow)
      else done d
    | "body" | "caption" | "col" | "colgroup" | "html" => done d
    | "table" | "tbody" | "tfoot" | "thead" | "tr" =>
      if d.has .table name then close else done d
    | _ => d.inBody t
  | _ => d.inBody t

/-! ## 4. Choices in a form -/

def inSelect (d : Draft) (t : Token) : Outcome :=
  let close (rest : Option Token) : Outcome :=
    if d.has .option "select" then ((d.leaveThrough ["select"]).resetMode, rest) else done d
  let leaveOption (d : Draft) : Draft := if d.current = "option" then d.leave else d
  match t with
  | .doctype _ => done d
  | .comment s => done (d.addComment s)
  | .text cs => done (d.addText cs)
  | .start tag =>
    match tag.name with
    | "option" => done ((leaveOption d).enter tag)
    | "optgroup" =>
      let d := leaveOption d
      done ((if d.current = "optgroup" then d.leave else d).enter tag)
    | "hr" =>
      let d := leaveOption d
      done ((if d.current = "optgroup" then d.leave else d).addEmpty tag)
    | "select" => close none
    | "input" | "keygen" | "textarea" => close (some t)
    | "script" => done (d.startInHead .inside tag)
    | _ => done d
  | .stop name =>
    match name with
    | "optgroup" =>
      let inGroup := (d.opened.tail.head?.map Frame.name) = some "optgroup"
      let d := if d.current = "option" && inGroup then d.leave else d
      done (if d.current = "optgroup" then d.leave else d)
    | "option" => done (leaveOption d)
    | "select" => close none
    | _ => done d

def inSelectInTable (d : Draft) (t : Token) : Outcome :=
  let isPart (name : String) : Bool :=
    ["caption", "table", "tbody", "tfoot", "thead", "tr", "td", "th"].contains name
  let close : Outcome := again (d.leaveThrough ["select"]).resetMode t
  match t with
  | .start tag => if isPart tag.name then close else d.inSelect t
  | .stop name =>
    if isPart name then
      if d.has .table name then close else done d
    else d.inSelect t
  | _ => d.inSelect t

/-! ## 5. All modes -/

def take (d : Draft) (t : Token) : Outcome :=
  match d.mode with
  | .start => d.start t
  | .beforeHtml => d.beforeHtml t
  | .beforeHead => d.beforeHead t
  | .inHead => d.inHead t
  | .afterHead => d.afterHead t
  | .inBody => d.inBody t
  | .rawText => d.inRawText t
  | .inTable => d.inTable t
  | .inCaption => d.inCaption t
  | .inColumnGroup => d.inColumnGroup t
  | .inTableBody => d.inTableBody t
  | .inRow => d.inRow t
  | .inCell => d.inCell t
  | .inSelect => d.inSelect t
  | .inSelectInTable => d.inSelectInTable t
  | .afterBody => d.afterBody t
  | .afterPage => d.afterPage t

/-- Takes a token, mode after mode, until it is used up. The bound is never reached: each mode
that passes a token on has closed an element or is behind the one before. -/
def takeAll : Nat → Draft → Token → Draft
  | 0, d, _ => d
  | bound + 1, d, t =>
    match d.take t with
    | (d, none) => d
    | (d, some rest) => takeAll bound d rest

/-- Takes a token. A line feed right behind the start of some elements is dropped. -/
def feed (d : Draft) (t : Token) : Draft :=
  let skip := d.skipLine
  let d := { d with skipLine := false }
  let bound := 2 * d.opened.length + 16
  match t with
  | .text ('\n' :: rest) =>
    if !skip then takeAll bound d t
    else if rest.isEmpty then d
    else takeAll bound d (.text rest)
  | _ => takeAll bound d t

def feedRaw (d : Draft) (text : String) : Draft :=
  let cs := if d.skipLine && text.toList.head? = some '\n' then text.toList.tail else text.toList
  { d with raw := none, skipLine := false }.addText cs

end Quarry.Page.Draft
