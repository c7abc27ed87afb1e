import LoadTest.Scenario.Basic

/-!
Defects of a scenario that can be seen before any user starts.

The name comes first, then the steps in the order they are written, each with what is
inside it; in a request the checks in order.
-/

namespace LoadTest

inductive ScenarioError where
  | emptyName
  | invalidPath (path : String) (error : JsonPath.PathError)
  | invertedPause (low high : Duration)
  deriving DecidableEq

def ScenarioError.message : ScenarioError → String
  | .emptyName => "scenario name must not be empty"
  | .invalidPath path error => "invalid JSON path '" ++ path ++ "': " ++ error.message
  | .invertedPause low high =>
      "pause range is inverted: min " ++ low.text ++ " > max " ++ high.text

/-- The defect of a path that a check reads. -/
def Check.defect? (check : Check) : Option ScenarioError :=
  match check.extractor with
  | .member path => path.error?.map (.invalidPath path.source)
  | _ => none

def Pause.defect? : Pause → Option ScenarioError
  | .fixed _ => none
  | .uniform low high => if high < low then some (.invertedPause low high) else none

mutual

/-- The first defect in a step. -/
def Step.defect? : Step → Option ScenarioError
  | .request request => request.checks.findSome? Check.defect?
  | .pause pause => pause.defect?
  | .loop _ _ steps => firstDefect? steps
  | .group _ steps => firstDefect? steps
  | .branch _ steps => firstDefect? steps
  | .feed _ => none
  | .exec _ => none

/-- The first defect in a list of steps. -/
def firstDefect? : List Step → Option ScenarioError
  | [] => none
  | step :: steps => step.defect?.or (firstDefect? steps)

end

namespace Scenario

def hasBlankName (scenario : Scenario) : Bool := Text.isAllBlank scenario.name.toList

def validate (scenario : Scenario) : Except ScenarioError Unit :=
  if scenario.hasBlankName then .error .emptyName
  else
    match firstDefect? scenario.steps with
    | some defect => .error defect
    | none => .ok ()

end Scenario

end LoadTest
