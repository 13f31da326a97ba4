import Retrofit.Text.Digits

/-!
The report of a run.
-/

namespace Retrofit

/-- One request that was served: by which rule, on which member, and in which other method if the
code was elsewhere. -/
structure Application where
  rule : String
  member : String
  elsewhere : Option String
deriving DecidableEq

/-- What a run did. -/
structure Report where
  applied : List Application := []
  passes : List (String × Bool) := []
  bodiesFinished : Nat := 0
  branchesLengthened : Nat := 0

namespace Report

def servedCount (report : Report) : Nat := report.applied.length

/-- Whether a rule was applied or a pass changed something. -/
def changedAnything (report : Report) : Bool :=
  !report.applied.isEmpty || report.passes.any Prod.snd

def servedBy (report : Report) (rule : String) : List Application :=
  report.applied.filter fun application => application.rule = rule

def applicationText (application : Application) : String :=
  "  " ++ application.rule ++ " on " ++ application.member
    ++ (match application.elsewhere with
        | some target => " (via " ++ target ++ ")"
        | none => "")
    ++ "\n"

def passText (pass : String × Bool) : String :=
  "  module pass " ++ pass.1 ++ ": " ++ (if pass.2 then "changed" else "unchanged") ++ "\n"

def text (report : Report) : String :=
  "Patch Report\n============\n"
    ++ "Rules applied:     " ++ Text.natural report.servedCount ++ "\n"
    ++ "Bodies finalized:  " ++ Text.natural report.bodiesFinished ++ "\n"
    ++ "Branches widened:  " ++ Text.natural report.branchesLengthened ++ "\n"
    ++ String.join (report.applied.map applicationText)
    ++ String.join (report.passes.map passText)

end Report
end Retrofit
