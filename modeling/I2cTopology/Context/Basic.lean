import I2cTopology.Forest.Matching
import I2cTopology.Settings.Basic
import I2cTopology.System.Op

/-!
# The discovery context

A context owns the forest of a machine and the configuration that was reconciled with it. Every
operation looks first whether the context is ready for it.
-/

namespace I2cTopology

/-- How far a context is. -/
inductive Readiness where
  /-- Not initialized, or cleaned up. -/
  | notReady
  /-- A scan is about to replace the forest. -/
  | busy
  /-- A forest is installed. -/
  | ready
  deriving DecidableEq, Repr, Inhabited

/-- The name of a state. -/
def Readiness.name : Readiness → String
  | notReady => "NotReady"
  | busy => "Busy"
  | ready => "Ready"

/-- The forest of a machine, the configuration, and what is known about both. -/
structure Context where
  settings : Settings
  readiness : Readiness := .notReady
  forest : Forest := .empty
  config : List ExpectedChip := []
  /-- The number of scans that replaced the forest. It stays below 64 bits: at a million scans a second that
  many would take more than half a million years. -/
  rescans : Nat := 0
  /-- Will the next use of a handle scan first? -/
  invalidated : Bool := false
  deriving Repr, Inhabited

namespace Context

/-- A context that is not initialized. -/
def fresh (settings : Settings) : Context where
  settings := settings

/-- The failure that the state of a context makes of every operation, if it does. -/
def obstacle? (context : Context) : Option Failure :=
  match context.readiness with
  | .ready => none
  | .busy => some .busy
  | .notReady => some .notReady

/-- The context without forest, handles and configuration. -/
def cleanedUp (context : Context) : Context :=
  { context with
    forest := .empty
    config := []
    invalidated := false
    readiness := .notReady }

/-- Fails unless the context is ready. -/
def ensureReady : Op Context Unit := do
  let context ← Op.getState
  match context.obstacle? with
  | none => return ()
  | some failure => throw failure

/-- Drops the forest, every open handle and the configuration. -/
def cleanup : Op Context Unit :=
  Op.modifyState cleanedUp

/-- Makes the next use of a handle scan first. -/
def invalidate : Op Context Unit :=
  Op.modifyState fun context => { context with invalidated := true }

/-- The installed forest. -/
def tree : Op Context Forest := do
  ensureReady
  return (← Op.getState).forest

/-- The configuration. -/
def configuration : Op Context (List ExpectedChip) := do
  ensureReady
  return (← Op.getState).config

/-- The adapter that a path names, if there is one. -/
def lookup (path : String) : Op Context (Option AdapterId) := do
  ensureReady
  match (← Op.getState).forest.resolve path with
  | .ok found => return found
  | .error refusal => throw (.path refusal)

/-- The adapter that a path names. -/
def adapter (path : String) : Op Context AdapterId := do
  match ← lookup path with
  | some id => return id
  | none => throw (.noAdapter path)

/-- Changes the installed forest. -/
def modifyForest (change : Forest → Forest) : Op Context Unit :=
  Op.modifyState fun context => { context with forest := change context.forest }

end Context
end I2cTopology
