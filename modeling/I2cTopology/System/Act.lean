import I2cTopology.System.Query

/-!
# Acts

An act is a program that asks questions of the machine and keeps a state of its own. What the machine
answers is left open, so a statement about all runs of an act is a statement about every machine, one
whose answers change from one question to the next included.

A machine that answers each question from a state of its own runs an act to its end. The run of an
act that was broken off has no result, and the act's state stays as it was at that moment.
-/

namespace I2cTopology

/-- A program with states in `σ` and a result in `α`. -/
inductive Act (σ α : Type) where
  /-- Comes to an end. -/
  | done (result : α)
  /-- Asks a question and goes on with the answer. -/
  | ask (query : Query) (next : query.Answer → Act σ α)
  /-- Looks at the state. -/
  | look (next : σ → Act σ α)
  /-- Replaces the state. -/
  | store (state : σ) (next : Act σ α)
  /-- Breaks off. -/
  | abort

namespace Act

variable {σ τ α β μ : Type}

/-- Goes on with the result of an act. -/
def bind : Act σ α → (α → Act σ β) → Act σ β
  | done result, f => f result
  | ask query next, f => ask query fun answer => (next answer).bind f
  | look next, f => look fun state => (next state).bind f
  | store state next, f => store state (next.bind f)
  | abort, _ => abort

instance : Monad (Act σ) where
  pure := done
  bind := bind

/-- The act that only asks a question. -/
def query (question : Query) : Act σ question.Answer :=
  ask question done

/-- The act that only looks at the state. -/
def getState : Act σ σ :=
  look done

/-- The act that only changes the state. -/
def modifyState (change : σ → σ) : Act σ Unit :=
  look fun state => store (change state) (done ())

/-- Adds to the journal. -/
def report (level : Level) (area : Area) (message : String) : Act σ Unit :=
  query (.report ⟨level, area, message⟩)

/-- Adds several notices to the journal. -/
def reportAll : List Notice → Act σ Unit
  | [] => done ()
  | notice :: rest => ask (.report notice) fun _ => reportAll rest

/-- The results of an act for the members of a list, in order, where it has one. -/
def filterMap (f : α → Act σ (Option β)) : List α → Act σ (List β)
  | [] => done []
  | a :: rest =>
    (f a).bind fun
      | none => filterMap f rest
      | some b => (filterMap f rest).bind fun others => done (b :: others)

/-- The first result of an act for the members of a list. -/
def findSome? (f : α → Act σ (Option β)) : List α → Act σ (Option β)
  | [] => done none
  | a :: rest =>
    (f a).bind fun
      | none => findSome? f rest
      | some b => done (some b)

/-- Runs an act on a part of a larger state. -/
def within (view : σ → τ) (update : τ → σ → σ) : Act τ α → Act σ α
  | done result => done result
  | ask query next => ask query fun answer => (next answer).within view update
  | look next => look fun state => (next (view state)).within view update
  | store part next => look fun state => store (update part state) (next.within view update)
  | abort => abort

/-- A machine with states in `μ`: how it answers each question. -/
abbrev Machine (μ : Type) : Type :=
  (query : Query) → μ → query.Answer × μ

/-- Runs an act on a machine. The result is none if the act was broken off. -/
def run (machine : Machine μ) : Act σ α → σ → μ → Option α × σ × μ
  | done result, state, world => (some result, state, world)
  | ask query next, state, world =>
    let (answer, world) := machine query world
    (next answer).run machine state world
  | look next, state, world => (next state).run machine state world
  | store state next, _, world => next.run machine state world
  | abort, state, world => (none, state, world)

/-- Runs an act whose questions are answered by another monad. -/
def runM {m : Type → Type} [Monad m] (answer : (query : Query) → m query.Answer) :
    Act σ α → σ → m (Option α × σ)
  | done result, state => pure (some result, state)
  | ask query next, state => do (next (← answer query)).runM answer state
  | look next, state => (next state).runM answer state
  | store state next, _ => next.runM answer state
  | abort, state => pure (none, state)

end Act
end I2cTopology
