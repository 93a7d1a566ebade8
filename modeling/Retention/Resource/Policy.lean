import Retention.Resource.Kind

/-!
Retention policies. A policy looks at tags alone, or it also spares every resource that is not older
than a number of days.
-/
namespace Retention

inductive Mode
  | tagOnly
  | tagWithAge
deriving DecidableEq, Repr

namespace Mode

def name : Mode → String
  | .tagOnly => "tag-only"
  | .tagWithAge => "tag-with-age"

def aliases : List (String × Mode) :=
  [("tag-only", .tagOnly), ("keeptag", .tagOnly), ("tag-with-age", .tagWithAge),
   ("keeptag_withdate", .tagWithAge)]

def parse? (text : String) : Option Mode := aliases.lookup (Text.lowerAscii (Text.trim text))

def unknownMessage (text : String) : String :=
  "unknown cleanup mode: " ++ Text.lowerAscii (Text.trim text) ++
    " (expected tag-only|tag-with-age)"

end Mode

/-- The threshold matters in the mode with age alone. -/
structure Policy where
  mode : Mode
  maxAgeDays : UInt64
deriving DecidableEq, Repr

namespace Policy

def tagOnly : Policy := ⟨.tagOnly, 0⟩

def tagWithAge (maxAgeDays : UInt64) : Policy := ⟨.tagWithAge, maxAgeDays⟩

def description (policy : Policy) : String :=
  match policy.mode with
  | .tagOnly => "Delete untagged resources only"
  | .tagWithAge =>
    "Delete resources older than " ++ toString policy.maxAgeDays.toNat ++ " days and untagged"

end Policy

/-- The kinds a sweep has a policy for. -/
abbrev PolicyTable := Kind → Option Policy

namespace PolicyTable

def empty : PolicyTable := fun _ => none

def set (table : PolicyTable) (kind : Kind) (policy : Policy) : PolicyTable :=
  fun other => if other = kind then some policy else table other

/-- The entries in the order of the kinds. -/
def entries (table : PolicyTable) : List (Kind × Policy) :=
  Kind.all.filterMap fun kind => (table kind).map (kind, ·)

end PolicyTable
end Retention
