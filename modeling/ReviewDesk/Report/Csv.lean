import ReviewDesk.Report.Format

/-!
Tables as comma-separated records, and the findings of a review as such a table. A record ends in a
carriage return and a line feed; a field with a comma, a quote or a line break is quoted, and quotes
inside it are doubled.
-/
namespace ReviewDesk.Report.Csv

def needsQuotes (field : String) : Bool :=
  field.toList.any fun c => c == ',' || c == '"' || c == '\r' || c == '\n'

def quoteChars : List Char → List Char
  | [] => []
  | '"' :: cs => '"' :: '"' :: quoteChars cs
  | c :: cs => c :: quoteChars cs

def writeField (field : String) : String :=
  if needsQuotes field then .ofList ('"' :: quoteChars field.toList ++ ['"']) else field

def writeRecord (fields : List String) : String :=
  ",".intercalate (fields.map writeField) ++ "\r\n"

def writeTable (records : List (List String)) : String := String.join (records.map writeRecord)

def header : List String :=
  ["ID", "Title", "Severity", "Category", "File", "Line", "Resolved", "Description",
    "Suggested Fix"]

def row (f : Finding) : List String :=
  [f.id.text, f.title, f.severity.name, f.category.name, f.filePath.getD "",
    f.line.elim "" toString, if f.isResolved then "Yes" else "No", f.description,
    f.suggestedFix.getD ""]

def render (r : Review) : String := writeTable (header :: r.findings.map row)

end ReviewDesk.Report.Csv
