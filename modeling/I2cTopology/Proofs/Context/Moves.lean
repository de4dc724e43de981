import I2cTopology.Context.Control
import I2cTopology.Proofs.Context.Opening
import I2cTopology.Proofs.Survey

/-!
# The moves of a context

Everything that is done to a context is a chain of a few moves: a forest is installed or dropped, a rescan
comes to an end, a device file is opened, used or closed, an entry is marked.  Between the moves things are
said that change nothing.  What every move preserves holds after every chain of moves.

* `Move`: what a single move does, and what is said on the occasion.
* `Moves`: chains of moves.
-/

namespace I2cTopology
namespace Context

variable {before between after context : Context} {id : AdapterId}

/-! ## Handles -/

theorem setHandle_setHandle (handle other : Handle) (context : Context) :
    setHandle id other (setHandle id handle context) = setHandle id other context := by
  rw [setHandle, setHandle, Forest.modify_modify]
  rfl

/-- A handle is set to what it is. -/
theorem setHandle_eq_self {handle : Handle}
    (h : id < context.forest.adapters.size → (context.forest.adapter id).handle = some handle) :
    setHandle id handle context = context := by
  rw [setHandle, Forest.modify_eq_self]
  intro hlt
  rw [← h hlt]

theorem handle_setHandle (handle : Handle) (h : id < context.forest.adapters.size) :
    ((setHandle id handle context).forest.adapter id).handle = some handle := by
  rw [setHandle, Forest.adapter_modify, if_pos ⟨rfl, h⟩]

/-- A handle that was opened is open. -/
theorem Attached.isSome_handle {talk : List Exchange}
    (attached : Attached before id talk (some (.ok ())) after)
    (h : id < after.forest.adapters.size) : (after.forest.adapter id).handle.isSome = true := by
  cases attached with
  | reused hopen => exact hopen
  | opened =>
    rw [handle_setHandle _ (by simpa [setHandle] using h)]
    rfl

/-- A handle that was opened for somebody is open. -/
theorem isSome_handle_of_openHandle {path : String} {talk : List Exchange}
    (dialogue : (openHandle path).run.Dialogue before talk (some (.ok id)) after)
    (h : id < after.forest.adapters.size) : (after.forest.adapter id).handle.isSome = true := by
  have hready : before.readiness = .ready := by
    cases hobstacle : before.obstacle? with
    | none => exact obstacle?_eq_none_iff.mp hobstacle
    | some failure =>
      obtain ⟨-, hresult, -⟩ := ((refuses_ensureReady hobstacle).andThen _ _ _ _).mp dialogue.runs
      cases hresult
  obtain ⟨early, late, opening, -⟩ := opening_of_dialogue hready dialogue
  obtain ⟨front, last, between, rfl, -, -, connected⟩ := opening.exists_connected hready
  exact connected.attached_of_ok.2.isSome_handle h

/-! ## What is learned about device files

Places and chips have nothing to do with device files and handles. -/

theorem alike_noted (id : AdapterId) (identity : Option FileIdentity) (context : Context) :
    context.forest.Alike (noted id identity context).forest := by
  apply Forest.alike_modify <;> exact fun _ => rfl

theorem alike_setHandle (id : AdapterId) (handle : Handle) (context : Context) :
    context.forest.Alike (setHandle id handle context).forest := by
  apply Forest.alike_modify <;> exact fun _ => rfl

theorem alike_closed (id : AdapterId) (context : Context) :
    context.forest.Alike
      (context.forest.modify id fun adapter => { adapter with handle := none }) := by
  apply Forest.alike_modify <;> exact fun _ => rfl

theorem Attached.alike {talk : List Exchange} {outcome : Option (Except Failure Unit)}
    (attached : Attached before id talk outcome after) :
    before.forest.Alike after.forest ∧ after.config = before.config ∧
      after.rescans = before.rescans := by
  cases attached with
  | refused => exact ⟨alike_noted id _ before, rfl, rfl⟩
  | opened => exact ⟨(alike_noted id _ before).trans (alike_setHandle id _ _), rfl, rfl⟩
  | _ => exact ⟨.refl _, rfl, rfl⟩

/-! ## Moves -/

/-- What a call may do beyond what every call may. -/
structure Scope where
  /-- How an open handle may be changed by its use. -/
  uses : Handle → Handle → Prop := fun _ _ => False
  /-- May entries be marked as matched? -/
  marks : Prop := False

/-- What is done to a context at once, with what is said on the occasion. -/
inductive Move (scope : Scope) : List Exchange → Context → Context → Prop
  | cleanedUp (context : Context) : Move scope [] context context.cleanedUp
  | invalidated (context : Context) : Move scope [] context { context with invalidated := true }
  /-- A forest that was scanned is installed, with entries that were loaded. -/
  | installed {context : Context} {forest : Forest} {loaded : List ExpectedChip}
      {talk rest : List Exchange}
      (scan : (Scan.scan context.settings).run.Dialogue context talk (some (.ok forest)) context)
      (hdeclared : ConfigSource.Declared loaded) :
      Move scope (talk ++ rest) context { context with
        forest := forest
        config := forest.reconcile loaded
        readiness := .ready }
  | rescanned {before after : Context} {talk : List Exchange} {result : Option (Except Failure Unit)}
      (rescan : RescanDialogue before talk result after) : Move scope talk before after
  /-- An entry is marked that a chip satisfies. -/
  | marked {context : Context} {id : AdapterId} {found : ConfiguredChip} (hmarks : scope.marks)
      (hfound : context.forest.firstConfigured? context.config id = some found) :
      Move scope [] context
        { context with config := Forest.markMatched context.config found.entry }
  | attached {before after : Context} {id : AdapterId} {talk : List Exchange}
      {outcome : Option (Except Failure Unit)} (attached : Attached before id talk outcome after) :
      Move scope talk before after
  /-- A handle was used. -/
  | used {context : Context} {id : AdapterId} {handle final : Handle} {talk : List Exchange}
      (huses : scope.uses handle final)
      (hopen : (context.forest.adapter id).handle = some handle) :
      Move scope talk context (setHandle id final context)
  | closed (context : Context) (id : AdapterId) :
      Move scope [] context { context with
        forest := context.forest.modify id fun adapter => { adapter with handle := none } }

/-- Moves one after the other. Between them things are said that change nothing. -/
inductive Moves (scope : Scope) : List Exchange → Context → Context → Prop
  | rest (talk : List Exchange) (context : Context) : Moves scope talk context context
  | move {before after : Context} {talk : List Exchange} (move : Move scope talk before after) :
      Moves scope talk before after
  | trans {before between after : Context} {first second : List Exchange}
      (head : Moves scope first before between) (tail : Moves scope second between after) :
      Moves scope (first ++ second) before after

/-- **Invariants.**  What every move preserves is preserved by chains of moves.  The moves may be taken to
be such as are made in a talk of some kind. -/
theorem Moves.preserves {scope : Scope} {P : Context → Prop} {T : List Exchange → Prop}
    {talk : List Exchange} (moves : Moves scope talk before after)
    (split : ∀ {first second}, T (first ++ second) → T first ∧ T second)
    (step : ∀ {talk before after}, Move scope talk before after → T talk → P before → P after)
    (htalk : T talk) (hbefore : P before) : P after := by
  induction moves with
  | rest => exact hbefore
  | move move => exact step move htalk hbefore
  -- A chain of two parts is split where its talk is.
  | trans _ _ ihHead ihTail => exact ihTail (split htalk).2 (ihHead (split htalk).1 hbefore)

/-- Invariants that relate the context to all that was said so far. -/
theorem Moves.carries {scope : Scope} {P : List Exchange → Context → Prop}
    {past talk : List Exchange} (moves : Moves scope talk before after)
    (rest : ∀ {past context} more, P past context → P (past ++ more) context)
    (step : ∀ {past talk before after}, Move scope talk before after → P past before →
      P (past ++ talk) after)
    (hbefore : P past before) : P (past ++ talk) after := by
  induction moves generalizing past with
  | rest talk => exact rest talk hbefore
  | move move => exact step move hbefore
  | trans _ _ ihHead ihTail =>
    rw [← List.append_assoc]
    exact ihTail (ihHead hbefore)

end Context
end I2cTopology
