import I2cTopology.Failure
import I2cTopology.System.Act

/-!
# Operations

An operation is an act that may fail. A failure ends the operation, but what it did to its state and
to the machine before that stays.
-/

namespace I2cTopology

/-- An act that may fail. -/
abbrev Op (σ α : Type) : Type :=
  ExceptT Failure (Act σ) α

namespace Op

variable {σ τ α : Type}

/-- An act as an operation that cannot fail. -/
def ofAct (act : Act σ α) : Op σ α :=
  ExceptT.lift act

/-- The operation that only asks a question. -/
def query (question : Query) : Op σ question.Answer :=
  ofAct (Act.query question)

/-- The operation that only looks at the state. -/
def getState : Op σ σ :=
  ofAct Act.getState

/-- The operation that only changes the state. -/
def modifyState (change : σ → σ) : Op σ Unit :=
  ofAct (Act.modifyState change)

/-- Adds to the journal. -/
def report (level : Level) (area : Area) (message : String) : Op σ Unit :=
  ofAct (Act.report level area message)

/-- Turns the refusal of a file operation into a failure. -/
def ofFile (doing : String) (answer : Except FileFailure α) : Op σ α :=
  match answer with
  | .ok value => pure value
  | .error failure => throw (.file doing failure)

/-- The outcome of an operation as a value. -/
def outcome (op : Op σ α) : Op σ (Except Failure α) :=
  ofAct op.run

/-- Runs an operation on a part of a larger state. -/
def within (view : σ → τ) (update : τ → σ → σ) (op : Op τ α) : Op σ α :=
  ExceptT.mk (Act.within view update op.run)

end Op

/-- The entries of a directory. -/
def Act.entries {σ : Type} (dir : FilePath) : Act σ (Except FileFailure (List String)) :=
  .ask (.entries dir) fun
    | .names names => .done (.ok names)
    | .refused failure => .done (.error failure)
    | .aborted => .abort

end I2cTopology
