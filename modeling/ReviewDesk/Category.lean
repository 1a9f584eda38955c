/-!
What a finding is about.
-/
namespace ReviewDesk

inductive Category where
  | securityVulnerability | performance | codeSmell | bug | architecture | designPattern
  | bestPractice | testing | documentation | errorHandling | dependency | configuration
  | database | apiDesign | naming | duplication
  deriving Repr, DecidableEq

namespace Category

def all : List Category :=
  [securityVulnerability, performance, codeSmell, bug, architecture, designPattern,
    bestPractice, testing, documentation, errorHandling, dependency, configuration,
    database, apiDesign, naming, duplication]

def name : Category → String
  | securityVulnerability => "SECURITY_VULNERABILITY"
  | performance => "PERFORMANCE"
  | codeSmell => "CODE_SMELL"
  | bug => "BUG"
  | architecture => "ARCHITECTURE"
  | designPattern => "DESIGN_PATTERN"
  | bestPractice => "BEST_PRACTICE"
  | testing => "TESTING"
  | documentation => "DOCUMENTATION"
  | errorHandling => "ERROR_HANDLING"
  | dependency => "DEPENDENCY"
  | configuration => "CONFIGURATION"
  | database => "DATABASE"
  | apiDesign => "API_DESIGN"
  | naming => "NAMING"
  | duplication => "DUPLICATION"

def ofName? (s : String) : Option Category := all.find? (·.name == s)

end Category

end ReviewDesk
