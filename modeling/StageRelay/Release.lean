/-!
# Outcomes of releases

What is told about the commit of a stage.
-/

namespace StageRelay

/-- How a release ended. -/
inductive ReleaseStatus where
  | succeeded
  | failed (reason : String)
deriving DecidableEq, Repr

/-- The text of an outcome. -/
def ReleaseStatus.text : ReleaseStatus → String
  | .succeeded => "success"
  | .failed reason => "failure: " ++ reason

end StageRelay
