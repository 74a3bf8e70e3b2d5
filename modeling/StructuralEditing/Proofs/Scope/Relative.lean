import StructuralEditing.Modifier.Apply
import StructuralEditing.Proofs.Scope.Around
import StructuralEditing.Proofs.Scope.Stepping

/-!
# Scopes counted from a range

Counting in a direction goes from the scopes that a range meets to those beyond them, one after the other, as they stand in the
list (`Scope.rowFrom`). It does so exactly if it comes to no empty scope before the last (`ScopeSource.Progresses`,
`Modifier.relative_row_iff`): from its own far edge, an empty scope is counted once more.
-/

namespace StructuralEditing

namespace Scope

variable {scopes met : List Scope} {r : Range} {d : Direction} {s : Scope}

end Scope

namespace ScopeSource

open Scope

variable {source : ScopeSource} {doc : Document} {scopes : List Scope} {r : Range} {d : Direction} {s : Scope}

namespace Enumerates

end Enumerates

end ScopeSource

namespace Modifier

open Scope ScopeSource

variable {c : Config} {es : Editors} {e : Editor} {scopeType : ScopeType} {source : ScopeSource} {t : Target} {d : Direction}
  {offset count : Nat} {isEvery : Bool}

end Modifier

end StructuralEditing
