import ReferencePage.Document.Basic

/-! The page of a document, in Markdown.  Sections without members are left out. -/
namespace ReferencePage

open Text

/-- What a page says that the source does not: the language of its code fences, the name of the
file, and the time. -/
structure Setting where
  fenceLanguage : Text
  fileName : Text
  generatedAt : Text
  deriving DecidableEq, Repr

def endOfLine : Text := ['\n']

def endOfParagraph : Text := ['\n', '\n']

def Parameter.declared (p : Parameter) : Text := p.name ++ ": ".toList ++ p.type

def Parameter.list (ps : List Parameter) : Text := join ", ".toList (ps.map Parameter.declared)

/-- The head of a method as the page shows it. -/
def Method.declared (m : Method) : Text :=
  m.name ++ '(' :: Parameter.list m.parameters ++ [')']
    ++ if m.returnsValue then " -> ".toList ++ m.returnType else []

def Member.heading (m : Member) : Text :=
  "### <a id='".toList ++ m.anchor ++ "'>".toList ++ m.name ++ "</a>".toList ++ endOfParagraph

def Property.entry (p : Property) : Text :=
  p.heading
    ++ "- **Type:** `".toList ++ p.type ++ "`\n".toList
    ++ "- **Description:** ".toList ++ p.description ++ endOfParagraph

def Parameter.item (p : Parameter) : Text :=
  "- `".toList ++ p.name ++ "` (".toList ++ p.type ++ ")\n".toList

def Method.entry (fenceLanguage : Text) (m : Method) : Text :=
  m.heading
    ++ "```".toList ++ fenceLanguage ++ endOfLine ++ m.declared ++ "\n```".toList
    ++ endOfParagraph
    ++ "**Description:** ".toList ++ m.description ++ endOfParagraph
    ++ (if m.parameters = [] then []
        else "**Parameters:**\n\n".toList ++ m.parameters.flatMap Parameter.item ++ endOfLine)
    ++ if m.returnsValue then "**Returns:** `".toList ++ m.returnType ++ "`\n\n".toList else []

def titled {α : Type} (title : String) (entry : α → Text) (members : List α) : Text :=
  if members.isEmpty then []
  else "## ".toList ++ title.toList ++ endOfParagraph ++ members.flatMap entry

def Document.page (setting : Setting) (d : Document) : Text :=
  "# ".toList ++ d.declaration.name ++ endOfParagraph
    ++ d.declaration.description ++ endOfParagraph
    ++ "## File Information\n\n".toList
    ++ "- **File:** ".toList ++ setting.fileName ++ endOfLine
    ++ "- **Documentation Generated:** ".toList ++ setting.generatedAt ++ endOfParagraph
    ++ titled "Properties" Property.entry d.properties
    ++ titled "Methods" (Method.entry setting.fenceLanguage) d.methods

end ReferencePage
