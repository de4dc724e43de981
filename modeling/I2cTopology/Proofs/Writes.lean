import I2cTopology.Proofs.Dialogues

/-!
# What acts write

Any question may bring an act down, so a write that an act issues shows in the dialogue that ends with it,
and the state that is left then is the one in which the write was issued.  A rule says which writes may be
issued, given what was said before and that state.  An act abides by a rule whatever is answered.

* `Dialogue.exists_issues`: every write in a dialogue was issued.
* `Abides.of_issues`: what is issued by an act that abides by a rule is allowed by it.
* `Abides.bind`: of two acts, the second has to abide by the rule after what the first has said and done.
-/

namespace I2cTopology

/-- What was written in a talk, accepted or not. -/
def written (talk : List Exchange) : List Write :=
  talk.filterMap fun exchange => exchange.question.write?

@[simp] theorem written_append (first rest : List Exchange) :
    written (first ++ rest) = written first ++ written rest :=
  List.filterMap_append

namespace Act

variable {σ τ α β : Type}

/-- In the act a write is issued after what was said, and in the given state. -/
def Issues (act : Act σ α) (before : σ) (said : List Exchange) (state : σ) (write : Write) : Prop :=
  act.Dialogue before (said ++ [⟨write.query, none⟩]) none state

/-- Every write in a dialogue was issued in some state, answered or not. -/
theorem Dialogue.exists_issues {act : Act σ α} {before after : σ} {front back : List Exchange}
    {write : Write} {answer : Option write.query.Answer} {result : Option α}
    (dialogue : act.Dialogue before (front ++ ⟨write.query, answer⟩ :: back) result after) :
    ∃ state, act.Issues before front state write := by
  generalize htalk : front ++ ⟨write.query, answer⟩ :: back = talk at dialogue
  induction dialogue generalizing front with
  | done => simp at htalk
  | @ask query next before _ _ _ reply _ ih =>
    cases front with
    | nil =>
      obtain rfl : write.query = query := congrArg Exchange.question (List.cons.inj htalk).1
      exact ⟨before, .broken rfl⟩
    | cons exchange others =>
      obtain ⟨rfl, hrest⟩ := List.cons.inj htalk
      obtain ⟨state, issued⟩ := ih hrest
      exact ⟨state, .ask reply issued⟩
  | @broken query next state breaks =>
    cases front with
    | nil =>
      obtain rfl : write.query = query := congrArg Exchange.question (List.cons.inj htalk).1
      exact ⟨state, .broken breaks⟩
    | cons exchange others => simp at htalk
  | look _ ih =>
    obtain ⟨state, issued⟩ := ih htalk
    exact ⟨state, .look issued⟩
  | store _ ih =>
    obtain ⟨state, issued⟩ := ih htalk
    exact ⟨state, .store issued⟩
  | abort => simp at htalk

/-! ## Rules -/

/-- Which writes may be issued after what was said, and in which states. -/
abbrev WriteRule (σ : Type) : Type :=
  List Exchange → σ → Write → Prop

/-- Every write of the act is allowed by the rule, from a state in which something was said already. -/
def Abides (rule : WriteRule σ) : Act σ α → List Exchange → σ → Prop
  | done _, _, _ => True
  | ask query next, said, state =>
    (∀ write, query.write? = some write → rule said state write) ∧
      ∀ answer, (next answer).Abides rule (said ++ [⟨query, some answer⟩]) state
  | look next, said, state => (next state).Abides rule said state
  | store state next, said, _ => next.Abides rule said state
  | abort, _, _ => True

variable {rule : WriteRule σ} {act : Act σ α} {said : List Exchange} {state : σ}

theorem Abides.of_issues {talk : List Exchange} {final : σ} {write : Write}
    (abides : act.Abides rule said state) (issued : act.Issues state talk final write) :
    rule (said ++ talk) final write := by
  unfold Issues at issued
  generalize htalk : talk ++ [⟨write.query, none⟩] = whole at issued
  generalize hresult : none = result at issued
  -- The dialogue ends with the write, so the write is met where the act is brought down.
  induction issued generalizing said talk with
  | done => cases hresult
  | ask answer _ ih =>
    cases talk with
    | nil =>
      obtain ⟨rfl, hanswer⟩ := Exchange.mk.inj (List.cons.inj htalk).1
      cases eq_of_heq hanswer
    | cons exchange others =>
      obtain ⟨rfl, hrest⟩ := List.cons.inj htalk
      rw [List.append_cons]
      exact ih (abides.2 answer) hrest hresult
  | broken =>
    cases talk with
    | nil =>
      obtain rfl := congrArg Exchange.question (List.cons.inj htalk).1
      rw [List.append_nil]
      exact abides.1 write rfl
    | cons exchange others => simp at htalk
  | look _ ih => exact ih abides htalk hresult
  | store _ ih => exact ih abides htalk hresult
  | abort => simp at htalk

/-- What follows an act goes on with what was said during the act, from the state that the act leaves. -/
theorem Abides.bind {f : α → Act σ β} (head : act.Abides rule said state)
    (tail : ∀ a talk final, act.Dialogue state talk (some a) final →
      (f a).Abides rule (said ++ talk) final) : (act.bind f).Abides rule said state := by
  induction act generalizing said state with
  | done a =>
    rw [← List.append_nil said]
    exact tail a [] state .done
  | ask query next ih =>
    refine ⟨head.1, fun answer => ih answer (head.2 answer) fun a talk final dialogue => ?_⟩
    rw [← List.append_cons]
    exact tail a _ final (.ask answer dialogue)
  | look next ih => exact ih state head fun a talk final dialogue => tail a talk final (.look dialogue)
  | store between next ih =>
    exact ih head fun a talk final dialogue => tail a talk final (.store dialogue)
  | abort => trivial

/-! ## Acts that write nothing -/

/-- The act writes nothing, from whatever states. -/
def WritesNothing : Act σ α → Prop
  | done _ => True
  | ask query next => query.write? = none ∧ ∀ answer, (next answer).WritesNothing
  | look next => ∀ state, (next state).WritesNothing
  | store _ next => next.WritesNothing
  | abort => True

namespace WritesNothing

theorem of_readOnly (readOnly : act.ReadOnly) : act.WritesNothing := by
  induction readOnly with
  | done => trivial
  | ask _ reads ih => exact ⟨reads, ih⟩
  | look _ ih => exact ih
  | abort => trivial

theorem bind {f : α → Act σ β} (head : act.WritesNothing) (tail : ∀ a, (f a).WritesNothing) :
    (act.bind f).WritesNothing := by
  induction act with
  | done a => exact tail a
  | ask query next ih => exact ⟨head.1, fun answer => ih answer (head.2 answer)⟩
  | look next ih => exact fun state => ih state (head state)
  | store state next ih => exact ih head
  | abort => trivial

theorem andThen {op : Op σ α} {f : α → Op σ β} (head : op.run.WritesNothing)
    (tail : ∀ a, (f a).run.WritesNothing) : (op >>= f).run.WritesNothing := by
  rw [Op.run_bind]
  refine head.bind fun outcome => ?_
  cases outcome with
  | error failure => trivial
  | ok a => exact tail a

theorem getState : (Op.getState : Op σ σ).run.WritesNothing :=
  fun _ => trivial

theorem modifyState (change : σ → σ) : (Op.modifyState change).run.WritesNothing :=
  fun _ => trivial

theorem pure (a : α) : (pure a : Op σ α).run.WritesNothing :=
  trivial

theorem throw (failure : Failure) : (throw failure : Op σ α).run.WritesNothing :=
  trivial

theorem report (level : Level) (area : Area) (message : String) :
    (Op.report level area message : Op σ Unit).run.WritesNothing :=
  of_readOnly (.opReport level area message)

theorem outcome {op : Op σ α} (h : op.run.WritesNothing) : op.outcome.run.WritesNothing :=
  h.bind fun _ => trivial

theorem written_eq_nil {before after : σ} {talk : List Exchange} {result : Option α}
    (h : act.WritesNothing) (dialogue : act.Dialogue before talk result after) : written talk = [] := by
  rw [written, List.filterMap_eq_nil_iff]
  induction dialogue with
  | done => exact List.forall_mem_nil _
  | ask answer _ ih => exact List.forall_mem_cons.mpr ⟨h.1, ih (h.2 answer)⟩
  | broken => exact List.forall_mem_singleton.mpr h.1
  | look _ ih => exact ih (h _)
  | store _ ih => exact ih h
  | abort => exact List.forall_mem_nil _

theorem abides (h : act.WritesNothing) : act.Abides rule said state := by
  induction act generalizing said state with
  | done a => trivial
  | ask query next ih =>
    refine ⟨fun write hwrite => ?_, fun answer => ih answer (h.2 answer)⟩
    rw [h.1] at hwrite
    cases hwrite
  | look next ih => exact ih state (h state)
  | store between next ih => exact ih h
  | abort => trivial

/-- What writes nothing on its own writes nothing on a part of a larger state. -/
theorem within {view : σ → τ} {update : τ → σ → σ} {act : Act τ α} (h : act.WritesNothing) :
    (act.within view update).WritesNothing := by
  induction act with
  | done a => trivial
  | ask query next ih => exact ⟨h.1, fun answer => ih answer (h.2 answer)⟩
  | look next ih => exact fun state => ih _ (h _)
  | store part next ih => exact fun _ => ih h
  | abort => trivial

end WritesNothing

end Act

/-! ## Operations -/

namespace Act.Abides

variable {σ α β : Type} {rule : WriteRule σ} {op : Op σ α} {said : List Exchange} {state : σ}

theorem andThen {f : α → Op σ β} (head : op.run.Abides rule said state)
    (tail : ∀ a talk final, op.run.Dialogue state talk (some (.ok a)) final →
      (f a).run.Abides rule (said ++ talk) final) : (op >>= f).run.Abides rule said state := by
  rw [Op.run_bind]
  refine head.bind fun outcome talk final dialogue => ?_
  cases outcome with
  | error failure => trivial
  | ok a => exact tail a talk final dialogue

/-- What follows an operation that only reads starts from where that started. -/
theorem readOnly_andThen {f : α → Op σ β} (readOnly : op.run.ReadOnly)
    (tail : ∀ a talk, op.run.Dialogue state talk (some (.ok a)) state →
      (f a).run.Abides rule (said ++ talk) state) : (op >>= f).run.Abides rule said state :=
  (WritesNothing.of_readOnly readOnly).abides.andThen fun a talk final dialogue => by
    obtain rfl := readOnly.eq_of_dialogue dialogue
    exact tail a talk dialogue

/-- A look at the state shows the state that what follows starts from. -/
theorem getState_andThen {f : σ → Op σ α} (tail : (f state).run.Abides rule said state) :
    (Op.getState >>= f).run.Abides rule said state :=
  tail

/-- What follows a change starts from the changed state. -/
theorem modifyState_andThen {change : σ → σ} {f : Unit → Op σ α}
    (tail : (f ()).run.Abides rule said (change state)) :
    (Op.modifyState change >>= f).run.Abides rule said state :=
  tail

theorem outcome (abides : op.run.Abides rule said state) : op.outcome.run.Abides rule said state :=
  abides.bind fun _ _ _ _ => trivial

end Act.Abides
end I2cTopology
