import I2cTopology.Context.Basic
import I2cTopology.ExpectedChip.Source
import I2cTopology.Scan.Survey

/-!
# From one forest to the next

A context becomes ready by a scan. A later scan replaces the forest only once it is complete: while it
runs the context is busy, and if it fails everything stays as it was.
-/

namespace I2cTopology
namespace Context

/-- Sets the flags of a configuration to what a forest shows, and reports them. -/
def reconciled (forest : Forest) (config : List ExpectedChip) : Op Context (List ExpectedChip) := do
  let config := forest.reconcile config
  Op.ofAct (Act.reportAll (config.map Forest.reconcileNotice))
  return config

/-- Scans sysfs, loads the configuration and reconciles the two. A ready context starts over. -/
def init (source : ConfigSource) : Op Context Unit := do
  let before ← Op.getState
  if before.readiness = .busy then
    throw .busy
  cleanup
  let forest ← Scan.scan before.settings
  let config ← reconciled forest (← source.load)
  Op.report .info .context
    s!"initialized with {forest.size} adapters and {config.length} config entries"
  Op.modifyState fun context =>
    { context with forest := forest, config := config, readiness := .ready }

/-- Replaces the forest by a new scan. -/
def rescan : Op Context Unit := do
  ensureReady
  Op.modifyState fun context => { context with readiness := .busy }
  let before ← Op.getState
  let scanned ← Op.outcome (Scan.scan before.settings)
  Op.modifyState fun context => { context with readiness := .ready }
  match scanned with
  | .error failure =>
    Op.report .warn .context s!"rescan failed, keeping old tree: {failure.message}"
    throw failure
  | .ok forest =>
    let config ← reconciled forest before.config
    let rescans := before.rescans + 1
    Op.modifyState fun context =>
      { context with
        forest := forest
        config := config
        rescans := rescans
        invalidated := false }
    Op.report .info .context s!"rescan #{rescans} found {forest.size} adapters"

end Context
end I2cTopology
