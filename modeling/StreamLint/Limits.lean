/-!
# Limits of the analysis

Three bounds keep the work on one file finite: how many steps a type is followed before it counts
as unresolvable, how many findings a check may keep, and how many nodes one search for a descendant
may visit.
-/

namespace StreamLint

/-- Bounds on the analysis of one file. -/
structure Limits where
  /-- Steps through aliases, unions, supertypes and inference. -/
  resolutionDepth : Nat := 32
  /-- Findings that a check keeps in one file. -/
  findingsPerCheck : Nat := 10000
  /-- Nodes that one search for a descendant visits. -/
  descendantNodes : Nat := 100000
  deriving DecidableEq, Repr

/-- The default limits. -/
instance : Inhabited Limits := ⟨{}⟩

/-- The same limits with another resolution depth. -/
def Limits.withResolutionDepth (limits : Limits) (depth : Nat) : Limits :=
  { limits with resolutionDepth := depth }

end StreamLint
