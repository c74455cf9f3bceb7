import Intake.Markup.Event

/-!
# Markup filters

A filter rebuilds markup from its events and keeps the elements of an allow list, of these only the
attributes that are known to be harmless. The content of scripts and styles is dropped. A filter
that allows no element leaves the plain text.
-/

namespace Intake.Markup

open Intake.Text

/-- A filter with its name and the elements it keeps. -/
structure Filter where
  name : String
  allowed : List String

namespace Filter

/-- The headings. -/
def headings : List String := ["h1", "h2", "h3", "h4", "h5", "h6"]

/-- Keeps no element. -/
def stripTags : Filter := ⟨"strip_tags", []⟩

/-- Keeps the elements of simple text. -/
def basicHtml : Filter :=
  ⟨"basic_html",
   ["a", "b", "blockquote", "br", "code", "em", "i", "li", "ol", "p", "pre", "span", "strong", "u",
    "ul"]⟩

/-- Keeps the elements that a light markup language produces. -/
def markdownHtml : Filter :=
  ⟨"markdown_html",
   ["a", "blockquote", "br", "code", "del", "em", "hr", "img", "li", "ol", "p", "pre", "strong",
    "ul"] ++ headings⟩

/-- Keeps the elements of the other two and those that structure a page. -/
def html5 : Filter :=
  ⟨"html5",
   basicHtml.allowed ++ markdownHtml.allowed ++
    ["article", "aside", "del", "div", "figcaption", "figure", "footer", "header", "ins", "main",
     "mark", "nav", "s", "section", "small", "sub", "sup", "table", "tbody", "td", "th", "thead",
     "time", "tr"]⟩

/-- All filters. -/
def all : List Filter := [stripTags, basicHtml, html5, markdownHtml]

/-- The filter with the given name. -/
def ofName? (name : String) : Option Filter :=
  all.find? (·.name == name)

end Filter

/-- The attributes an element may keep. -/
def allowedAttributes : String → List String
  | "a" => ["href", "title"]
  | "img" => ["src", "alt", "title"]
  | "time" => ["datetime"]
  | _ => []

/-- How the address in an attribute may begin. -/
def safeSchemes : List String := ["http://", "https://", "mailto:", "/", "#"]

/-- The address begins in a safe way. -/
def isSafeAddress (value : String) : Bool :=
  safeSchemes.any fun scheme => scheme.toList.isPrefixOf (lower (trim value.toList))

/-- The elements whose content is dropped. -/
def droppedElements : List String := ["script", "style"]

/-- The attribute of an element is kept: it has a value, belongs to the element, and an address in
    it is safe. -/
def keepsAttribute (element : String) (a : Attribute) : Bool :=
  match a.2 with
  | none => false
  | some value =>
    (allowedAttributes element).contains a.1 &&
      ((a.1 != "href" && a.1 != "src") || isSafeAddress value)

/-- An attribute as it is written. -/
def writeAttribute (a : Attribute) : List Char :=
  " ".toList ++ a.1.toList ++ "=\"".toList ++
    Entity.encode true (a.2.getD "").toList ++ "\"".toList

/-- A start tag as it is written. -/
def writeStart (element : String) (attributes : List Attribute) (closing : String) : List Char :=
  "<".toList ++ element.toList ++
    (attributes.filter (keepsAttribute element)).flatMap writeAttribute ++ closing.toList ++
    ">".toList

/-- An end tag as it is written. -/
def writeEnd (element : String) : List Char :=
  "</".toList ++ element.toList ++ ">".toList

namespace Filter

/-- What an event adds to the output of a filter, and the number of dropped elements that are open
    behind it. -/
def step (f : Filter) (dropping : Nat) : Event → Nat × List Char
  | .start name attributes =>
    if droppedElements.contains name then (dropping + 1, [])
    else if f.allowed.contains name && dropping == 0 then (dropping, writeStart name attributes "")
    else (dropping, [])
  | .closedStart name attributes =>
    if f.allowed.contains name && dropping == 0 then (dropping, writeStart name attributes " /")
    else (dropping, [])
  | .finish name =>
    if droppedElements.contains name then (dropping - 1, [])
    else if f.allowed.contains name && dropping == 0 then (dropping, writeEnd name)
    else (dropping, [])
  | .text s =>
    if dropping != 0 then (dropping, [])
    else (dropping, if f.allowed.isEmpty then s else Entity.encode false s)

/-- The output of a filter for events, where `dropping` dropped elements are open. -/
def outputFrom (f : Filter) (dropping : Nat) : List Event → List Char
  | [] => []
  | e :: rest =>
    let (next, piece) := f.step dropping e
    piece ++ f.outputFrom next rest

/-- The output of a filter for events. -/
def output (f : Filter) (events : List Event) : List Char :=
  f.outputFrom 0 events

/-- The text with its markup filtered. -/
def apply (f : Filter) (s : List Char) : Except Flaw (List Char) :=
  (events s).map f.output

end Filter

end Intake.Markup
