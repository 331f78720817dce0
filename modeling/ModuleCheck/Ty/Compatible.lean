import ModuleCheck.Ty.Basic

namespace ModuleCheck

namespace Ty

/-!
Compatibility of types: equality up to absorbing parts.  It is not transitive, since `any`
is compatible with types that are not compatible with each other.
-/

mutual

/-- Whether two types agree once `any` and `unknown` are taken to agree with everything.
Functions agree when they have equally many parameters that agree one by one and their
results agree. -/
def compatible : Ty → Ty → Bool
  | any, _ | unknown, _ | _, any | _, unknown => true
  | int, int | bool, bool | string, string | unit, unit => true
  | struct m, struct n => m == n
  | enum m, enum n => m == n
  | fn params result, fn params' result' =>
    compatibleList params params' && compatible result result'
  | _, _ => false

def compatibleList : List Ty → List Ty → Bool
  | [], [] => true
  | t :: rest, u :: others => compatible t u && compatibleList rest others
  | _, _ => false

end

end Ty

end ModuleCheck
