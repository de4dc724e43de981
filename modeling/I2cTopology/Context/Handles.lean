import I2cTopology.Context.Lifecycle
import I2cTopology.Handle.Probe

/-!
# Open handles

A context opens the device file of an adapter when it is first needed and keeps it open. A device file
that was replaced since the last scan makes the context scan once and try once more.
-/

namespace I2cTopology
namespace Context

/-- Opens the device file of an adapter unless it is open already. The identity of the file is noted
as soon as it is known. -/
def attach (id : AdapterId) : Op Context Unit := do
  let context ← Op.getState
  let adapter := context.forest.adapter id
  if adapter.handle.isSome then return ()
  let path := context.settings.deviceFile adapter.nr
  let (opened, identity) ← Op.ofAct (Handle.openAt path adapter.nr adapter.identity)
  modifyForest fun forest => forest.modify id fun adapter => { adapter with identity := identity }
  match opened with
  | .error failure => throw failure
  | .ok handle =>
    modifyForest fun forest =>
      forest.modify id fun adapter => { adapter with handle := some handle }

/-- Does the failure say that a device file was replaced? -/
def isStale : Failure → Bool
  | .staleHandle _ => true
  | _ => false

/-- Opens the handle of the adapter at a path, or finds it open. The adapter is handed back. -/
def openHandle (path : String) : Op Context AdapterId := do
  ensureReady
  if (← Op.getState).invalidated then
    rescan
  let first ← adapter path
  match ← Op.outcome (attach first) with
  | .ok _ => return first
  | .error failure =>
    if isStale failure then
      Op.report .info .context s!"{failure.message}, rescanning"
      invalidate
      rescan
      let second ← adapter path
      attach second
      return second
    else throw failure

/-- The open handle of an adapter. -/
def handleOf (id : AdapterId) (context : Context) : Handle :=
  ((context.forest.adapter id).handle).getD ⟨(context.forest.adapter id).nr, default, none⟩

/-- Replaces the open handle of an adapter. -/
def setHandle (id : AdapterId) (handle : Handle) (context : Context) : Context :=
  { context with
    forest := context.forest.modify id fun adapter => { adapter with handle := some handle } }

/-- Uses the handle of the adapter at a path. -/
def withHandle {α : Type} (path : String) (use : Op Handle α) : Op Context α := do
  let id ← openHandle path
  Op.within (handleOf id) (setHandle id) use

/-- Closes the handle of the adapter at a path. The result tells whether one was open. -/
def closeHandle (path : String) : Op Context Bool := do
  let id ← adapter path
  let wasOpen := ((← Op.getState).forest.adapter id).handle.isSome
  modifyForest fun forest => forest.modify id fun adapter => { adapter with handle := none }
  return wasOpen

end Context
end I2cTopology
