import DocCheck.Markdown.Line
import DocCheck.Text.Word
import DocCheck.Text.Digit

/-!
The beginnings of HTML blocks. Five kinds of blocks end with a line that holds a certain text; the
blocks that begin with the tag of a block element, and those whose first line is one complete tag,
end before a blank line.
-/

namespace DocCheck.Markdown

inductive HtmlEnd where
  /-- The line that holds this text is the last one. -/
  | lineWith (text : Text)
  /-- The line before a blank one is the last one. -/
  | beforeBlank
  deriving Repr, DecidableEq

namespace HtmlEnd

/-- Elements whose content is not markup. -/
def rawElements : List Text :=
  ["pre".toList, "style".toList, "script".toList, "textarea".toList]

/-- Comments, instructions and character data, by how they begin after `<` and how they end. -/
def delimited : List (Text × Text) :=
  [("!--".toList, "-->".toList), ("?".toList, "?>".toList),
    ("![CDATA[".toList, "]]>".toList)]

def blockElements : List Text :=
  ["address".toList, "article".toList, "aside".toList, "base".toList, "basefont".toList,
    "blockquote".toList, "body".toList, "caption".toList, "center".toList, "col".toList,
    "colgroup".toList, "dd".toList, "details".toList, "dialog".toList, "dir".toList, "div".toList,
    "dl".toList, "dt".toList, "fieldset".toList, "figcaption".toList, "figure".toList,
    "footer".toList, "form".toList, "frame".toList, "frameset".toList, "h1".toList, "h2".toList,
    "h3".toList, "h4".toList, "h5".toList, "h6".toList, "head".toList, "header".toList, "hr".toList,
    "html".toList, "iframe".toList, "legend".toList, "li".toList, "link".toList, "main".toList,
    "menu".toList, "menuitem".toList, "nav".toList, "noframes".toList, "ol".toList,
    "optgroup".toList, "option".toList, "p".toList, "param".toList, "search".toList,
    "section".toList, "summary".toList, "table".toList, "tbody".toList, "td".toList,
    "tfoot".toList, "th".toList, "thead".toList, "title".toList, "tr".toList, "track".toList,
    "ul".toList]

def isAlphanumeric (c : Char) : Bool :=
  Text.isAsciiLetter c || Text.isAsciiDigit c

/-- What follows `name` at the beginning of the text, whatever the case of its letters. -/
def stripName? (name text : Text) : Option Text :=
  if Text.equalIgnoringCase (text.take name.length) name then some (text.drop name.length)
  else none

/-- The end of the block that the text after a `<` begins, if a certain text ends it. -/
def ofDelimiter? (text : Text) : Option HtmlEnd :=
  let rawElement := rawElements.find? fun name =>
    match stripName? name text with
    | none => false
    | some [] => true
    | some (c :: _) => Text.isAsciiWhite c || c = '>'
  match rawElement with
  | some name => some (.lineWith ("</".toList ++ name ++ ">".toList))
  | none =>
      match delimited.find? fun pair => List.isPrefixOf pair.1 text with
      | some pair => some (.lineWith pair.2)
      | none =>
          match text with
          | '!' :: c :: _ => if Text.isAsciiLetter c then some (.lineWith ">".toList) else none
          | _ => none

/-- The text after a `<` is the tag of a block element, as far as its name. -/
def isBlockTag (text : Text) : Bool :=
  let named := match text with
    | '/' :: rest => rest
    | _ => text
  let name := named.takeWhile isAlphanumeric
  blockElements.any (Text.equalIgnoringCase name) &&
    match named.drop name.length with
    | [] => true
    | '/' :: '>' :: _ => true
    | c :: _ => c = ' ' || c = '\t' || c = '\r' || c = '\n' || c = '>'

/-! ## Complete tags -/

def isAttributeName (c : Char) : Bool :=
  isAlphanumeric c || c = '_' || c = '.' || c = ':' || c = '-'

def endsBareValue (c : Char) : Bool :=
  c = '\'' || c = '"' || c = ' ' || c = '=' || c = '>' || c = '<' || c = '\x60' || c = '\n' ||
    c = '\r'

def afterValue? (text : Text) : Option Text :=
  match text with
  | [] => none
  | quote :: rest =>
      if quote = '"' || quote = '\'' then
        match rest.dropWhile fun c => c != quote && c != '\n' && c != '\r' with
        | c :: after => if c = quote then some after else none
        | [] => none
      else if endsBareValue quote then none
      else some (text.dropWhile fun c => !endsBareValue c)

/-- What follows an attribute and its value, if it has one; all on one line. -/
def afterAttribute? (text : Text) : Option Text :=
  match text with
  | [] => none
  | c :: rest =>
      if Text.isAsciiLetter c || c = '_' || c = ':' then
        let named := rest.dropWhile isAttributeName
        let spaced := named.dropWhile isInlineSpace
        match spaced with
        | [] => some named
        | next :: value =>
            if next = '=' then
              let value := value.dropWhile isInlineSpace
              if atLineEnd value then none else afterValue? value
            else if next = '\n' || next = '\r' then none
            else some named
      else none

/-- What follows the attributes of an opening tag, up to its `/` or `>`; `fuel` bounds their
number. -/
def afterAttributes? : Nat → Text → Option Text
  | 0, _ => none
  | fuel + 1, text =>
      let spaced := text.dropWhile isInlineSpace
      match spaced with
      | [] => none
      | c :: _ =>
          if c = '/' || c = '>' then some spaced
          -- Every attribute has white space before it.
          else if atLineEnd spaced || spaced.length = text.length then none
          else
            match afterAttribute? spaced with
            | some after => afterAttributes? fuel after
            | none => none

/-- The text after a `<` completes a tag that stands alone on its line. -/
def isLoneTag (text : Text) : Bool :=
  match text with
  | '/' :: rest =>
      match tagName? rest with
      | some after => closes (after.dropWhile isInlineSpace)
      | none => false
  | _ =>
      match tagName? text with
      | some after =>
          match afterAttributes? (text.length + 1) after with
          | some ('/' :: rest) => closes rest
          | some rest => closes rest
          | none => false
      | none => false
where
  tagName? (text : Text) : Option Text :=
    match text with
    | c :: rest =>
        if Text.isAsciiLetter c then some (rest.dropWhile fun c => isAlphanumeric c || c = '-')
        else none
    | [] => none
  closes (text : Text) : Bool :=
    match text with
    | '>' :: rest => isBlank rest
    | _ => false

/-! ## Beginnings -/

/-- The HTML block that the text begins, where it would interrupt a paragraph. -/
def interrupting? (text : Text) : Option HtmlEnd :=
  match text with
  | '<' :: rest =>
      match ofDelimiter? rest with
      | some stop => some stop
      | none => if isBlockTag rest then some .beforeBlank else none
  | _ => none

def beginning? (text : Text) : Option HtmlEnd :=
  match interrupting? text with
  | some stop => some stop
  | none =>
      match text with
      | '<' :: rest => if isLoneTag rest then some .beforeBlank else none
      | _ => none

end HtmlEnd

end DocCheck.Markdown
