import I2cTopology.System.Op

/-!
# Runs of an act

A run takes an act from one state to another while a machine answers what the act asks. The answers are
left open, and any question except a notice for the journal may bring the act down where it stands. What
holds of every run therefore holds whatever the machine does.
-/

namespace I2cTopology

/-- Does the question only add to the journal? -/
def Query.isReport : Query → Bool
  | report _ => true
  | _ => false

/-- A value for an attribute in a directory. -/
structure Write where
  dir : FilePath
  name : String
  value : String
  deriving DecidableEq, Repr

/-- The question by which a value is written. -/
def Write.query (write : Write) : Query :=
  .writeAttribute write.dir write.name write.value

/-- What the question writes, if it does. -/
def Query.write? : Query → Option Write
  | writeAttribute dir name value => some ⟨dir, name, value⟩
  | _ => none

namespace Act

variable {σ τ α β γ μ : Type}

/-- The runs of an act: the state before, the questions that were asked, the result and the state after.
The result is none if the act was broken off. -/
inductive Runs : Act σ α → σ → List Query → Option α → σ → Prop
  | done {result : α} {state : σ} : Runs (.done result) state [] (some result) state
  | ask {query : Query} {next : query.Answer → Act σ α} {before after : σ} {asked : List Query}
      {result : Option α} (answer : query.Answer) (rest : Runs (next answer) before asked result after) :
      Runs (.ask query next) before (query :: asked) result after
  | broken {query : Query} {next : query.Answer → Act σ α} {state : σ}
      (breaks : query.isReport = false) : Runs (.ask query next) state [query] none state
  | look {next : σ → Act σ α} {before after : σ} {asked : List Query} {result : Option α}
      (rest : Runs (next before) before asked result after) :
      Runs (.look next) before asked result after
  | store {next : Act σ α} {before between after : σ} {asked : List Query} {result : Option α}
      (rest : Runs next between asked result after) :
      Runs (.store between next) before asked result after
  | abort {state : σ} : Runs .abort state [] none state

variable {act : Act σ α} {s t u : σ} {asked : List Query}

@[simp] theorem runs_done_iff {a : α} {r : Option α} :
    (done a : Act σ α).Runs s asked r t ↔ asked = [] ∧ r = some a ∧ t = s := by
  constructor
  · intro run
    cases run with
    | done => exact ⟨rfl, rfl, rfl⟩
  · rintro ⟨rfl, rfl, rfl⟩
    exact .done

@[simp] theorem runs_look_iff {next : σ → Act σ α} {r : Option α} :
    (look next).Runs s asked r t ↔ (next s).Runs s asked r t := by
  constructor
  · intro run
    cases run with
    | look rest => exact rest
  · exact .look

@[simp] theorem runs_store_iff {next : Act σ α} {r : Option α} :
    (store u next).Runs s asked r t ↔ next.Runs u asked r t := by
  constructor
  · intro run
    cases run with
    | store rest => exact rest
  · exact .store

/-! ## Acts one after the other -/

theorem bind_done (act : Act σ α) : act.bind done = act := by
  induction act with
  | done result => rfl
  | ask query next ih => simp only [bind, ih]
  | look next ih => simp only [bind, ih]
  | store state next ih => simp only [bind, ih]
  | abort => rfl

theorem bind_assoc (act : Act σ α) (f : α → Act σ β) (g : β → Act σ γ) :
    (act.bind f).bind g = act.bind fun a => (f a).bind g := by
  induction act with
  | done result => rfl
  | ask query next ih => simp only [bind, ih]
  | look next ih => simp only [bind, ih]
  | store state next ih => simp only [bind, ih]
  | abort => rfl

/-! ## Acts that only read -/

/-- An act that neither replaces its state nor writes to an attribute. -/
inductive ReadOnly : Act σ α → Prop
  | done {result : α} : ReadOnly (.done result)
  | ask {query : Query} {next : query.Answer → Act σ α} (rest : ∀ answer, ReadOnly (next answer))
      (reads : query.write? = none) : ReadOnly (.ask query next)
  | look {next : σ → Act σ α} (rest : ∀ state, ReadOnly (next state)) : ReadOnly (.look next)
  | abort : ReadOnly .abort

namespace ReadOnly

theorem eq_of_runs {r : Option α} (readOnly : act.ReadOnly) (run : act.Runs s asked r t) : t = s := by
  induction run with
  | done => rfl
  | ask answer _ ih => cases readOnly with | ask rest => exact ih (rest answer)
  | broken => rfl
  | look _ ih => cases readOnly with | look rest => exact ih (rest _)
  | store => cases readOnly
  | abort => rfl

theorem bind {f : α → Act σ β} (head : act.ReadOnly) (tail : ∀ a, (f a).ReadOnly) :
    (act.bind f).ReadOnly := by
  induction head with
  | done => exact tail _
  | ask _ reads ih => exact .ask ih reads
  | look _ ih => exact .look ih
  | abort => exact .abort

theorem query (question : Query) (reads : question.write? = none) :
    (query question : Act σ question.Answer).ReadOnly :=
  .ask (fun _ => .done) reads

theorem report (level : Level) (area : Area) (message : String) :
    (report level area message : Act σ Unit).ReadOnly :=
  query _ rfl

theorem reportAll (notices : List Notice) : (reportAll notices : Act σ Unit).ReadOnly := by
  induction notices with
  | nil => exact .done
  | cons notice rest ih => exact .ask (fun _ => ih) rfl

theorem filterMap {f : α → Act σ (Option β)} (each : ∀ a, (f a).ReadOnly) (as : List α) :
    (filterMap f as).ReadOnly := by
  induction as with
  | nil => exact .done
  | cons a rest ih =>
    refine (each a).bind fun result => ?_
    cases result with
    | none => exact ih
    | some b => exact ih.bind fun _ => .done

theorem findSome? {f : α → Act σ (Option β)} (each : ∀ a, (f a).ReadOnly) (as : List α) :
    (findSome? f as).ReadOnly := by
  induction as with
  | nil => exact .done
  | cons a rest ih =>
    refine (each a).bind fun result => ?_
    cases result with
    | none => exact ih
    | some b => exact .done

theorem entries (dir : FilePath) :
    (entries dir : Act σ (Except FileFailure (List String))).ReadOnly := by
  refine .ask (fun answer => ?_) rfl
  cases answer with
  | names names => exact .done
  | refused failure => exact .done
  | aborted => exact .abort

end ReadOnly
end Act

/-! ## Operations one after the other -/

namespace Op

variable {σ τ α β : Type} {s t u : σ} {asked : List Query}

theorem run_bind (op : Op σ α) (f : α → Op σ β) :
    (op >>= f).run = op.run.bind fun
      | .ok a => (f a).run
      | .error failure => .done (.error failure) := by
  show op.run.bind (ExceptT.bindCont f) = _
  congr 1
  funext outcome
  cases outcome <;> rfl

theorem bind_assoc {γ : Type} (op : Op σ α) (f : α → Op σ β) (g : β → Op σ γ) :
    op >>= f >>= g = op >>= fun a => f a >>= g := by
  show (op >>= f >>= g).run = (op >>= fun a => f a >>= g).run
  rw [run_bind, run_bind, run_bind, Act.bind_assoc]
  congr 1
  funext outcome
  cases outcome with
  | ok a => exact (run_bind (f a) g).symm
  | error failure => rfl

@[simp] theorem run_throw (failure : Failure) :
    (throw failure : Op σ α).run = .done (.error failure) := rfl

@[simp] theorem run_getState_bind (f : σ → Op σ α) :
    (getState >>= f).run = .look fun state => (f state).run := rfl

@[simp] theorem run_modifyState_bind (change : σ → σ) (f : Unit → Op σ α) :
    (modifyState change >>= f).run = .look fun state => .store (change state) (f ()).run := rfl

@[simp] theorem run_ofAct_bind (act : Act σ α) (f : α → Op σ β) :
    (ofAct act >>= f).run = act.bind fun a => (f a).run := by
  rw [run_bind]
  exact Act.bind_assoc act _ _

@[simp] theorem run_outcome_bind (op : Op σ α) (f : Except Failure α → Op σ β) :
    (op.outcome >>= f).run = op.run.bind fun outcome => (f outcome).run :=
  run_ofAct_bind op.run f

@[simp] theorem run_report (level : Level) (area : Area) (message : String) :
    (report level area message : Op σ Unit).run =
      (Act.report level area message).bind fun _ => .done (.ok ()) := rfl

@[simp] theorem run_report_bind (level : Level) (area : Area) (message : String)
    (f : Unit → Op σ α) :
    (report level area message >>= f).run =
      (Act.report level area message).bind fun a => (f a).run := rfl

theorem runs_modifyState_iff {change : σ → σ} {r : Option (Except Failure Unit)} :
    (modifyState change).run.Runs s asked r t ↔ asked = [] ∧ r = some (.ok ()) ∧ t = change s := by
  show (Act.look fun state => .store (change state) (.done (.ok ()))).Runs s asked r t ↔ _
  rw [Act.runs_look_iff, Act.runs_store_iff, Act.runs_done_iff]

end Op

namespace Act.ReadOnly

variable {σ α β : Type} {act : Act σ α}

theorem ofAct (head : act.ReadOnly) : (Op.ofAct act).run.ReadOnly :=
  head.bind fun _ => .done

theorem opQuery (question : Query) (reads : question.write? = none) :
    (Op.query question : Op σ question.Answer).run.ReadOnly :=
  ofAct (.query question reads)

theorem opReport (level : Level) (area : Area) (message : String) :
    (Op.report level area message : Op σ Unit).run.ReadOnly :=
  ofAct (.report level area message)

theorem ofFile (doing : String) (answer : Except FileFailure α) :
    (Op.ofFile doing answer : Op σ α).run.ReadOnly := by
  cases answer <;> exact .done

theorem andThen {op : Op σ α} {f : α → Op σ β} (head : op.run.ReadOnly)
    (tail : ∀ a, (f a).run.ReadOnly) : (op >>= f).run.ReadOnly := by
  rw [Op.run_bind]
  refine head.bind fun outcome => ?_
  cases outcome with
  | error failure => exact .done
  | ok a => exact tail a

end Act.ReadOnly
end I2cTopology
