import Retention.Resource.Kind

/-!
Targets choose the kinds of a sweep. A target is the name of a group or of one kind; the groups go
first, and no target at all means every kind.
-/
namespace Retention
namespace Target

def group? : String → Option (List Kind)
  | "all" => some Kind.all
  | "ec2-ebs" => some [.vmInstance, .volume]
  | "ami-snaps" => some [.image, .snapshot]
  | "rds" => some [.dbInstance, .dbSnapshot]
  | _ => none

def expansion? (target : String) : Option (List Kind) :=
  let spelling := Kind.spelling target
  group? spelling <|> (Kind.ofSpelling? spelling).map ([·])

/-- What is said of a target that names nothing. -/
def unknownMessage (target : String) : String :=
  "unknown target: " ++ target ++
    " (expected ec2-ebs|ami-snaps|sg|rds|s3|azure-rg|all or a resource kind)"

/-- The kinds of all targets, in the order of the kinds. A failure is the first target that names
nothing. -/
def resolve (targets : List String) : Except String (List Kind) :=
  match targets.find? fun target => (expansion? target).isNone with
  | some target => .error target
  | none =>
    let chosen := targets.flatMap fun target => (expansion? target).getD []
    .ok (if targets.isEmpty then Kind.all else Kind.all.filter (chosen.contains ·))

end Target
end Retention
