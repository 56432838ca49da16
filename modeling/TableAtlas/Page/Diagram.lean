import TableAtlas.Diagram.Document
import TableAtlas.Page.Piece

/-!
# Diagram pages

A stand-alone page shows the tables and relationships of a document and carries the document
itself as data.
-/

namespace TableAtlas.Page

open Text

/-- A rule of the style sheet: what it applies to and what it says. -/
structure StyleRule where
  selector : String
  declarations : String

def styleRules : List StyleRule := [
  ⟨"body", "font-family: Arial, sans-serif; margin: 20px; background: #f8fafc; color: #0f172a;"⟩,
  ⟨".metadata",
    "background: #f1f5f9; padding: 15px; margin-bottom: 20px; border-radius: 5px;"⟩,
  ⟨".tables", "display: flex; flex-wrap: wrap; gap: 20px;"⟩,
  ⟨".table-section",
    "background: #fff; border: 2px solid #e2e8f0; border-radius: 8px; min-width: 280px;"⟩,
  ⟨".table-section h3",
    "margin: 0; padding: 10px; background: #f8fafc; border-bottom: 1px solid #e2e8f0;"⟩,
  ⟨".table-section .comment",
    "padding: 0 10px 10px; font-size: 12px; color: #64748b; background: #f8fafc;"⟩,
  ⟨".table-section.selected", "border-color: #3b82f6; box-shadow: 0 0 0 4px #dbeafe;"⟩,
  ⟨".table-section.selected h3", "background: #eff6ff; color: #1d4ed8;"⟩,
  ⟨".dimmed", "opacity: 0.4; filter: grayscale(0.8);"⟩,
  ⟨"table", "width: 100%; border-collapse: collapse;"⟩,
  ⟨"th, td",
    "border-bottom: 1px solid #f1f5f9; padding: 6px 10px; text-align: left; font-size: 13px;"⟩,
  ⟨"th", "background-color: #f1f5f9;"⟩,
  ⟨"td.type", "font-family: monospace; color: #64748b;"⟩,
  ⟨"tr.primary-key td.name", "font-weight: bold; color: #b45309;"⟩,
  ⟨"tr.emphasized td", "color: #1d4ed8; font-weight: bold;"⟩,
  ⟨".relationships", "margin-top: 40px;"⟩]

def StyleRule.pieces (r : StyleRule) : List Piece :=
  line 8 [.markup (r.selector ++ " \x7b " ++ r.declarations ++ " \x7d")]

def headPieces (heading : String) : List Piece :=
  line 0 [.markup "<!DOCTYPE html>"] ++
  line 0 [.markup "<html lang=\"en\">"] ++
  line 0 [.markup "<head>"] ++
  line 4 [.markup "<meta charset=\"UTF-8\">"] ++
  line 4 [.markup "<meta name=\"viewport\" content=\"width=device-width, initial-scale=1.0\">"] ++
  line 4 [.markup "<title>", .text heading, .markup "</title>"] ++
  line 4 [.markup "<style>"] ++
  styleRules.flatMap StyleRule.pieces ++
  line 4 [.markup "</style>"] ++
  line 0 [.markup "</head>"]

/-- A labelled line of the summary. -/
def summaryLine (label value : String) : List Piece :=
  line 8 [.markup ("<p><strong>" ++ label ++ ":</strong> "), .text value, .markup "</p>"]

def summaryPieces (d : Document) : List Piece :=
  line 4 [.markup "<div class=\"metadata\">"] ++
  line 8 [.markup "<h2>Schema Information</h2>"] ++
  summaryLine "Schema" d.name ++
  summaryLine "Tables" (decimalText d.tables.length) ++
  summaryLine "Relationships" (decimalText d.relationships.length) ++
  (match d.selected with
    | none => []
    | some s => if s.isEmpty then [] else summaryLine "Selected" s) ++
  line 4 [.markup "</div>"]

def checkMark (condition : Bool) : Piece := mark condition "&#10003;"

def columnPieces (c : Column) : List Piece :=
  line 20 [.markup "<tr", mark c.isPrimaryKey " class=\"primary-key\"", .markup ">"] ++
  line 24 [.markup "<td class=\"name\">", .text c.name, .markup "</td>"] ++
  line 24 [.markup "<td class=\"type\">", .text c.type, .markup "</td>"] ++
  line 24 [.markup "<td>", checkMark c.isPrimaryKey, .markup "</td>"] ++
  line 24 [.markup "<td>", checkMark c.isNullable, .markup "</td>"] ++
  line 24 [.markup "<td>", .text c.comment, .markup "</td>"] ++
  line 20 [.markup "</tr>"]

def tablePieces (t : TableNode) : List Piece :=
  line 8 [.markup "<div class=\"table-section", mark t.selected " selected",
    mark t.dimmed " dimmed", .markup "\" id=\"table-", .text t.id, .markup "\">"] ++
  line 12 [.markup "<h3>", .text t.name, .markup "</h3>"] ++
  (if t.comment.isEmpty then []
    else line 12 [.markup "<div class=\"comment\">", .text t.comment, .markup "</div>"]) ++
  line 12 [.markup "<table>"] ++
  line 16 [.markup "<thead>"] ++
  line 20 [.markup ("<tr><th>Column</th><th>Type</th><th>PK</th><th>Null</th>" ++
    "<th>Comment</th></tr>")] ++
  line 16 [.markup "</thead>"] ++
  line 16 [.markup "<tbody>"] ++
  t.columns.flatMap columnPieces ++
  line 16 [.markup "</tbody>"] ++
  line 12 [.markup "</table>"] ++
  line 8 [.markup "</div>"]

def edgePieces (e : Edge) : List Piece :=
  line 16 [.markup "<tr class=\"", mark e.emphasized "emphasized", mark e.dimmed " dimmed",
    .markup "\">"] ++
  line 20 [.markup "<td>", .text e.source, .markup "</td>"] ++
  line 20 [.markup "<td>", .text e.target, .markup "</td>"] ++
  line 20 [.markup "<td>", .text e.column, .markup "</td>"] ++
  line 16 [.markup "</tr>"]

def edgeTablePieces (es : List Edge) : List Piece :=
  line 4 [.markup "<div class=\"relationships\">"] ++
  line 8 [.markup "<h2>Relationships</h2>"] ++
  line 8 [.markup "<table>"] ++
  line 12 [.markup "<thead>"] ++
  line 16 [.markup "<tr><th>From</th><th>To</th><th>Column</th></tr>"] ++
  line 12 [.markup "</thead>"] ++
  line 12 [.markup "<tbody>"] ++
  es.flatMap edgePieces ++
  line 12 [.markup "</tbody>"] ++
  line 8 [.markup "</table>"] ++
  line 4 [.markup "</div>"]

/-- All that stands before the document as data. -/
def visiblePieces (heading : String) (d : Document) : List Piece :=
  headPieces heading ++
  line 0 [.markup "<body>"] ++
  line 4 [.markup "<h1>", .text heading, .markup "</h1>"] ++
  line 0 [] ++
  summaryPieces d ++
  line 0 [] ++
  line 4 [.markup "<h2>Tables</h2>"] ++
  line 4 [.markup "<div class=\"tables\">"] ++
  d.tables.flatMap tablePieces ++
  line 4 [.markup "</div>"] ++
  line 0 [] ++
  edgeTablePieces d.relationships ++
  line 0 []

def dataOpening : String := "<script type=\"application/json\" id=\"diagram-data\">"

def dataClosing : String := "</script>"

def dataPieces (data : Json) : List Piece :=
  line 4 [.markup dataOpening, .data data, .markup dataClosing]

def pieces (heading : String) (d : Document) (data : Json) : List Piece :=
  visiblePieces heading d ++ dataPieces data ++ line 0 [.markup "</body>"] ++ [.markup "</html>"]

def defaultHeading (name : String) : String := "ER Diagram - " ++ name

/-- The title if it is given and not empty. -/
def givenTitle? (title : Option String) : Option String := title.filter (!·.isEmpty)

def headingOf (title : Option String) (d : Document) : String :=
  (givenTitle? title).getD (defaultHeading d.name)

def render (title : Option String) (d : Document) : List Char :=
  renderAll (pieces (headingOf title d) d d.toJson)

end TableAtlas.Page
