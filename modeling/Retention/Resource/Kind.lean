import Retention.Text.Blank

/-!
The kinds of resource, the operations a sweep can settle on, and the accounts it visits. The order in
which kinds are declared is their order everywhere.
-/
namespace Retention

inductive Kind
  | vmInstance
  | volume
  | image
  | snapshot
  | securityGroup
  | dbInstance
  | dbSnapshot
  | bucket
  | resourceGroup
deriving DecidableEq, Repr

inductive Operation
  | keep
  | shutdown
  | terminate
  | deregister
  | delete
  | ignore
  | noOp
  /-- Undecidable, because the resource could not be inspected. -/
  | notApplicable
deriving DecidableEq, Repr

inductive Account
  | main
  | second
deriving DecidableEq, Repr

/-- Whether a kind is listed in every region or once for the account. -/
inductive Scope
  | regional
  | global
deriving DecidableEq, Repr

namespace Operation

def name : Operation → String
  | .keep => "Keep"
  | .shutdown => "Shutdown"
  | .terminate => "Terminate"
  | .deregister => "Deregister"
  | .delete => "Delete"
  | .ignore => "Ignore"
  | .noOp => "DoNothing"
  | .notApplicable => "N/A"

/-- The spelling in exchanged data. -/
def codes : List (String × Operation) :=
  [("KEEP", .keep), ("SHUTDOWN", .shutdown), ("TERMINATE", .terminate), ("DEREGISTER", .deregister),
   ("DELETE", .delete), ("IGNORE", .ignore), ("NO_OP", .noOp), ("NOT_APPLICABLE", .notApplicable)]

def code : Operation → String
  | .keep => "KEEP"
  | .shutdown => "SHUTDOWN"
  | .terminate => "TERMINATE"
  | .deregister => "DEREGISTER"
  | .delete => "DELETE"
  | .ignore => "IGNORE"
  | .noOp => "NO_OP"
  | .notApplicable => "NOT_APPLICABLE"

/-- Operations that have to be carried out against the provider. -/
def isMutating : Operation → Bool
  | .shutdown | .terminate | .deregister | .delete => true
  | .keep | .ignore | .noOp | .notApplicable => false

/-- Security groups report a deletion as in progress. -/
def label (operation : Operation) : Kind → String
  | .securityGroup => if operation = .delete then "Deleting" else operation.name
  | _ => operation.name

end Operation

namespace Kind

def all : List Kind :=
  [.vmInstance, .volume, .image, .snapshot, .securityGroup, .dbInstance, .dbSnapshot, .bucket,
   .resourceGroup]

/-- The position in the declared order. -/
def rank : Kind → Nat
  | .vmInstance => 0
  | .volume => 1
  | .image => 2
  | .snapshot => 3
  | .securityGroup => 4
  | .dbInstance => 5
  | .dbSnapshot => 6
  | .bucket => 7
  | .resourceGroup => 8

def name : Kind → String
  | .vmInstance => "instance"
  | .volume => "volume"
  | .image => "image"
  | .snapshot => "snapshot"
  | .securityGroup => "security-group"
  | .dbInstance => "db-instance"
  | .dbSnapshot => "db-snapshot"
  | .bucket => "bucket"
  | .resourceGroup => "resource-group"

def codes : List (String × Kind) := all.map fun kind => (kind.name, kind)

def sheetName : Kind → String
  | .vmInstance => "EC2"
  | .volume => "Volumes"
  | .image => "Images"
  | .snapshot => "Snapshots"
  | .securityGroup => "SG"
  | .dbInstance => "RDS Instances"
  | .dbSnapshot => "RDS Snapshots"
  | .bucket => "S3 Objects"
  | .resourceGroup => "azure RG"

def scope : Kind → Scope
  | .bucket | .resourceGroup => .global
  | _ => .regional

/-- Images carry creation dates that are not aligned to days. -/
def strictDayBoundary (kind : Kind) : Bool := kind != .image

def hasAgePolicy : Kind → Bool
  | .vmInstance | .volume | .image | .snapshot | .dbInstance | .dbSnapshot => true
  | .securityGroup | .bucket | .resourceGroup => false

/-- What a resource gets that is too young to be removed. -/
def retainOperation : Kind → Operation
  | .dbInstance | .dbSnapshot => .ignore
  | .securityGroup | .bucket => .noOp
  | _ => .keep

def aliases : Kind → List String
  | .vmInstance => ["instance", "instances", "ec2"]
  | .volume => ["volume", "volumes", "ebs"]
  | .image => ["image", "images", "ami"]
  | .snapshot => ["snapshot", "snapshots"]
  | .securityGroup => ["security-group", "security-groups", "sg"]
  | .dbInstance => ["db-instance", "db-instances", "rds"]
  | .dbSnapshot => ["db-snapshot", "db-snapshots", "rds-snaps"]
  | .bucket => ["bucket", "buckets", "s3"]
  | .resourceGroup => ["resource-group", "resource-groups", "azure-rg"]

/-- Names are compared without blanks around them, in lower case, and with dashes for underscores. -/
def spelling (text : String) : String :=
  .ofList ((Text.lowerAscii (Text.trim text)).toList.map fun c => if c = '_' then '-' else c)

def ofSpelling? (spelling : String) : Option Kind :=
  all.find? fun kind => kind.aliases.contains spelling

def parse? (text : String) : Option Kind := ofSpelling? (spelling text)

/-- What is said of a text that names no kind. -/
def unknownMessage (text : String) : String := "unknown resource kind: " ++ spelling text

instance : LT Kind := ⟨fun a b => a.rank < b.rank⟩

instance (a b : Kind) : Decidable (a < b) := inferInstanceAs (Decidable (a.rank < b.rank))

end Kind

namespace Account

def all : List Account := [.main, .second]

def rank : Account → Nat
  | .main => 0
  | .second => 1

def name : Account → String
  | .main => "Main"
  | .second => "Second"

def codes : List (String × Account) := [("Main", .main), ("Second", .second)]

def parse? (text : String) : Option Account :=
  match Text.lowerAscii (Text.trim text) with
  | "main" => some .main
  | "second" => some .second
  | _ => none

def unknownMessage (text : String) : String :=
  "unknown account: " ++ Text.lowerAscii (Text.trim text) ++ " (expected main|second)"

end Account
end Retention
