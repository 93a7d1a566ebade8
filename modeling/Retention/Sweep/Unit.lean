import Retention.Resource.Kind

/-!
The units of work of a sweep. A unit belongs to one account and region and takes its kinds in order.
Instances and volumes of a region share a unit, so that volumes are judged after the terminations of
their instances; every other kind is a unit of its own.
-/
namespace Retention

structure WorkUnit where
  account : Account
  region : String
  kinds : List Kind
deriving DecidableEq

namespace WorkUnit

/-- The region under which global kinds are judged. -/
def globalRegion : String := "global"

/-- The kinds that share a unit. -/
def fused : List Kind := [.vmInstance, .volume]

def ofRegion (account : Account) (kinds : List Kind) (region : String) : List WorkUnit :=
  let together := fused.filter (kinds.contains ·)
  let alone := Kind.all.filter fun kind =>
    kind.scope = .regional && !fused.contains kind && kinds.contains kind
  (if together.isEmpty then [] else [⟨account, region, together⟩]) ++
    alone.map fun kind => ⟨account, region, [kind]⟩

def ofAccount (regions : List String) (kinds : List Kind) (account : Account) : List WorkUnit :=
  let global := Kind.all.filter fun kind => kind.scope = .global && kinds.contains kind
  regions.flatMap (ofRegion account kinds) ++
    global.map fun kind => ⟨account, globalRegion, [kind]⟩

def plan (accounts : List Account) (regions : List String) (kinds : List Kind) : List WorkUnit :=
  accounts.flatMap (ofAccount regions kinds)

end WorkUnit
end Retention
