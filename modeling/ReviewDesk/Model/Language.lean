import ReviewDesk.SourcePath

/-!
The language of a source file, by its extension.
-/
namespace ReviewDesk

def languages : List (String × String) :=
  [(".java", "java"), (".kt", "kotlin"), (".py", "python"), (".js", "javascript"),
    (".jsx", "javascript"), (".ts", "typescript"), (".tsx", "typescript"), (".go", "go"),
    (".xml", "xml"), (".yml", "yaml"), (".yaml", "yaml"), (".properties", "properties")]

def detectLanguage (path : String) : String :=
  (languages.lookup (SourcePath.suffix path)).getD "text"

/-- Extensions of the sources that are worth a review. -/
def reviewableSuffixes : List String :=
  [".java", ".kt", ".py", ".js", ".ts", ".tsx", ".jsx", ".go"]

end ReviewDesk
