/-
PlanScript.Markdown.Html — where an HTML block starts and ends.

There are three ways for an HTML block to start at a `<`: an element whose
contents are taken as they are, a comment or another declaration, each of
which ends on the line with its own end mark; a tag of a block element; and
any other complete tag that has its line for itself. The last two end at a
blank line.
-/
import PlanScript.Markdown.Segment

namespace PlanScript.Markdown.Html

/-! ## 1. Blocks with an end mark -/

/-- Drops a pattern from the start of a text, taking ASCII letters of either
case as equal. The pattern is in lower case. -/
def dropFolded? : Text → Text → Option Text
  | [], t => some t
  | _ :: _, [] => none
  | p :: ps, c :: t => if c.toLower = p then dropFolded? ps t else none

/-- The elements whose contents are taken as they are. -/
def rawElements : List Text :=
  ["pre".toList, "style".toList, "script".toList, "textarea".toList]

/-- Whether white space, a closing bracket or the end of the line comes
next. -/
def endsTagName : Text → Bool
  | [] => true
  | c :: _ => isLineBlank c || c = '>'

/-- The end mark of a raw element whose opening tag starts with a text. -/
def rawEndMark? (t : Text) : Option Text :=
  rawElements.findSome? fun name =>
    (dropFolded? name t).bind fun rest =>
      if endsTagName rest then some ('<' :: '/' :: name ++ ['>']) else none

/-- The declarations with an end mark, each by what follows its `<`. -/
def declarations : List (Text × Text) :=
  [("!--".toList, "-->".toList), ("?".toList, "?>".toList), ("![CDATA[".toList, "]]>".toList)]

/-- The end mark of the declaration that starts with a text. -/
def declarationEndMark? (t : Text) : Option Text :=
  (declarations.find? fun d => Text.startsWith d.1 t).map (·.2) <|>
    match t with
    | '!' :: c :: _ => if c.isAlpha then some ['>'] else none
    | _ => none

/-- The end mark of the block that starts with the text after a `<`. -/
def endMark? (t : Text) : Option Text := rawEndMark? t <|> declarationEndMark? t

/-! ## 2. Block elements -/

/-- The elements whose tags start a block. -/
def blockElements : List String :=
  ["address", "article", "aside", "base", "basefont", "blockquote", "body", "caption", "center",
   "col", "colgroup", "dd", "details", "dialog", "dir", "div", "dl", "dt", "fieldset",
   "figcaption", "figure", "footer", "form", "frame", "frameset", "h1", "h2", "h3", "h4", "h5",
   "h6", "head", "header", "hr", "html", "iframe", "legend", "li", "link", "main", "menu",
   "menuitem", "nav", "noframes", "ol", "optgroup", "option", "p", "param", "search", "section",
   "summary", "table", "tbody", "td", "tfoot", "th", "thead", "title", "tr", "track", "ul"]

/-- Whether the text after a `<` starts the tag of a block element. -/
def startsBlockElement (t : Text) : Bool :=
  let tag := (Text.dropPrefix? ['/'] t).getD t
  let name := tag.takeWhile Char.isAlphanum
  let rest := tag.drop name.length
  blockElements.contains (String.ofList (name.map Char.toLower)) &&
    (rest.isEmpty || Text.startsWith [' '] rest || Text.startsWith ['\t'] rest
      || Text.startsWith ['>'] rest || Text.startsWith ['/', '>'] rest)

/-! ## 3. Complete tags -/

/-- The text after the name of an attribute. -/
def attributeName? : Text → Option Text
  | [] => none
  | c :: rest =>
    if c.isAlpha || c = '_' || c = ':' then
      some (rest.dropWhile fun d =>
        d.isAlphanum || d = '_' || d = '.' || d = ':' || d = '-')
    else none

/-- Whether a character may stand in an attribute value without quotes. -/
def isBareValueChar (c : Char) : Bool :=
  !(c = '"' || c = '\x27' || c = ' ' || c = '=' || c = '>' || c = '<' || c = '\x60')

/-- The text after an attribute value. -/
def attributeValue? : Text → Option Text
  | [] => none
  | c :: rest =>
    if c = '"' || c = '\x27' then
      match rest.dropWhile (· ≠ c) with
      | [] => none
      | _ :: after => some after
    else if isBareValueChar c then some (rest.dropWhile isBareValueChar)
    else none

/-- The text after an attribute with its value, if it has one. -/
def attribute? (t : Text) : Option Text :=
  (attributeName? t).bind fun named =>
    match named.dropWhile isLineBlank with
    | '=' :: rest => attributeValue? (rest.dropWhile isLineBlank)
    | _ => some named

/-- The text after the attributes of an opening tag, at most `fuel` of them;
it starts with a slash or a closing bracket. White space has to stand before
each attribute. -/
def attributes? : (fuel : Nat) → Text → Option Text
  | 0, _ => none
  | fuel + 1, t =>
    match t.dropWhile isLineBlank with
    | [] => none
    | c :: rest =>
      if c = '/' || c = '>' then some (c :: rest)
      else if isLineBlank (t.headD c) then (attribute? (c :: rest)).bind (attributes? fuel)
      else none

/-- The text after the name of a tag. -/
def tagName? : Text → Option Text
  | [] => none
  | c :: rest =>
    if c.isAlpha then some (rest.dropWhile fun d => d.isAlphanum || d = '-') else none

/-- The text after the tag that the text after a `<` starts with. -/
def tag? : Text → Option Text
  | '/' :: rest =>
    (tagName? rest).bind fun named => Text.dropPrefix? ['>'] (named.dropWhile isLineBlank)
  | t =>
    (tagName? t).bind fun named =>
      (attributes? (named.length + 1) named).bind fun rest =>
        Text.dropPrefix? ['>'] ((Text.dropPrefix? ['/'] rest).getD rest)

/-- Whether the text after a `<` is a complete tag and nothing else. -/
def isLoneTag (t : Text) : Bool := (tag? t).any isBlankLine

end PlanScript.Markdown.Html
