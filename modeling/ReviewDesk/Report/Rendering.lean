import ReviewDesk.Report.Csv
import ReviewDesk.Report.Html

/-!
A review in any of the report formats.
-/
namespace ReviewDesk.Report

def render (review : Review) : Format → String
  | .markdown => Markdown.render review
  | .html => Html.render review
  | .csv => Csv.render review

end ReviewDesk.Report
