import Retention.Text.Blank

/-!
The regions that a sweep may visit. Configured names are trimmed, blank ones are skipped, and those
that are no known region are set aside.
-/
namespace Retention
namespace Region

def known : List String :=
  ["eu-north-1", "ap-south-1", "eu-west-3", "eu-west-2", "eu-west-1", "ap-northeast-2",
   "ap-northeast-1", "sa-east-1", "ca-central-1", "ap-southeast-1", "ap-southeast-2",
   "eu-central-1", "us-east-1", "us-east-2", "us-west-1", "us-west-2", "ap-northeast-3",
   "ap-east-1", "eu-south-1", "me-south-1", "af-south-1"]

def isKnown (region : String) : Bool := known.contains region

/-- Configured names without the blanks around them; a name of blanks alone is none. -/
def named (configured : List String) : List String :=
  (configured.map Text.trim).filter fun region => !region.isEmpty

/-- The first occurrence of each known region. -/
def valid (configured : List String) : List String :=
  ((named configured).filter isKnown).foldl (fun found region =>
    if found.contains region then found else found ++ [region]) []

/-- What is no known region, repeats included. -/
def dropped (configured : List String) : List String :=
  (named configured).filter fun region => !isKnown region

end Region
end Retention
