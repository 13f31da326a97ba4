import Retrofit.Rule.Declaration
import Retrofit.Rule.FieldRead
import Retrofit.Rule.GuardedCall
import Retrofit.Rule.Registry
import Retrofit.Rule.Substitution
import Retrofit.Rule.Threshold
import Retrofit.Rule.TypeTest

/-!
The rules that are there from the start.
-/

namespace Retrofit

def Rule.builtIn : List (Rule ν) :=
  forDeclarations ++ forSubstitution ++ forTypeTests ++ forThresholds ++ forFieldReads
    ++ forGuardedCalls

def Registry.builtIn : Registry ν := ofRules Rule.builtIn

end Retrofit
