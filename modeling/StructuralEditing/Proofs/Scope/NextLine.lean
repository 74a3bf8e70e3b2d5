import StructuralEditing.Proofs.Scope.Relative

/-!
# The lines next to a caret

Counting lines from a caret goes up or down by so many lines, unless it comes to an empty line before the last one counted
(`Modifier.relative_line_iff`). A line of white space is none; an empty one ends where it begins, so from its far edge it is
counted once more, and counting does not leave it.
-/

namespace StructuralEditing

namespace Document

variable {d : Document} {l : Line} {stop count : Nat}

end Document

namespace Editor

open Scope ScopeSource

variable {e : Editor} {p : Position} {d : Direction} {l : Line}

section

variable (hp : e.document.validatePosition p = p)
include hp

end

end Editor

namespace Modifier

open Scope ScopeSource

variable {c : Config} {es : Editors} {e : Editor} {t : Target} {p : Position} {offset count : Nat} {isEvery : Bool}

end Modifier

end StructuralEditing
