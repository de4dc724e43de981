import I2cTopology.Proofs.Context.Reading
import I2cTopology.Proofs.Dialogues

/-!
# Refusals and rescans

An operation that begins with a look at the state is refused as a whole when that look fails, whatever
would have followed. A rescan has three outcomes: it leaves everything as it was, it replaces the forest,
or it is broken off during the scan, and then the context stays busy.
-/

namespace I2cTopology

open Act (runs_bind_iff dialogue_bind_iff)

namespace Context

variable {α β : Type} {context before after : Context} {asked : List Query} {failure : Failure}

/-! ## Refusals -/

/-- From a state the operation only fails: it asks nothing, changes nothing and is not broken off. -/
def Refuses (op : Op Context α) (context : Context) (failure : Failure) : Prop :=
  ∀ asked result after, op.run.Runs context asked result after ↔
    asked = [] ∧ result = some (.error failure) ∧ after = context

theorem Refuses.andThen {op : Op Context α} (refuses : Refuses op context failure)
    (f : α → Op Context β) : Refuses (op >>= f) context failure := by
  intro asked result after
  rw [Op.run_bind, runs_bind_iff]
  constructor
  · rintro (⟨outcome, between, first, rest, rfl, head, tail⟩ | ⟨-, head⟩)
    · -- The first operation fails, so all that follows is to hand its failure on.
      obtain ⟨rfl, heq, rfl⟩ := (refuses _ _ _).mp head
      cases heq
      exact Act.runs_done_iff.mp tail
    · exact nomatch ((refuses _ _ _).mp head).2.1
  · rintro ⟨rfl, rfl, rfl⟩
    exact .inl ⟨_, _, [], [], rfl, (refuses _ _ _).mpr ⟨rfl, rfl, rfl⟩, .done⟩

theorem obstacle?_eq_none_iff : context.obstacle? = none ↔ context.readiness = .ready := by
  unfold obstacle?
  cases context.readiness <;> simp

theorem run_ensureReady_bind (f : Unit → Op Context α) :
    (ensureReady >>= f).run = .look fun context => match context.obstacle? with
      | none => (f ()).run
      | some failure => .done (.error failure) := by
  rw [Op.run_bind]
  unfold ensureReady
  rw [Op.run_getState_bind]
  simp only [Act.bind]
  congr 1
  funext context
  cases context.obstacle? <;> rfl

theorem refuses_ensureReady (hobstacle : context.obstacle? = some failure) :
    Refuses ensureReady context failure := by
  intro asked result after
  unfold ensureReady
  rw [Op.run_getState_bind, Act.runs_look_iff, hobstacle]
  exact Act.runs_done_iff

/-! ## Rescans -/

/-- The context with the forest of a new scan. -/
def renewed (context : Context) (forest : Forest) : Context :=
  { context with
    forest := forest
    config := forest.reconcile context.config
    rescans := context.rescans + 1
    invalidated := false }

/-- The context while it is being scanned. -/
def occupied (context : Context) : Context :=
  { context with readiness := .busy }

theorem run_reconciled_bind (forest : Forest) (config : List ExpectedChip)
    (f : List ExpectedChip → Op Context α) :
    (reconciled forest config >>= f).run =
      (Act.reportAll ((forest.reconcile config).map Forest.reconcileNotice)).bind fun _ =>
        (f (forest.reconcile config)).run := by
  unfold reconciled
  rw [Op.run_bind, Op.run_ofAct_bind, Act.bind_assoc]
  rfl

/-- The outcomes of a rescan, with the state after it. -/
inductive Rescanned (before : Context) : Option (Except Failure Unit) → Context → Prop
  /-- The scan is broken off while the context is busy. -/
  | brokenOff : Rescanned before none before.occupied
  /-- Nothing has changed. -/
  | failed (failure : Failure) : Rescanned before (some (.error failure)) before
  /-- There is a new forest. -/
  | succeeded (forest : Forest) (hready : before.readiness = .ready) :
      Rescanned before (some (.ok ())) (before.renewed forest)

/-- A scan that is made while the context is busy. -/
def Scanned (context : Context) (talk : List Exchange) (outcome : Option (Except Failure Forest)) :
    Prop :=
  (Scan.scan context.settings).run.Dialogue context.occupied talk outcome context.occupied

/-- The dialogues of a rescan: that of its scan, and what is reported afterwards. -/
inductive RescanDialogue (before : Context) :
    List Exchange → Option (Except Failure Unit) → Context → Prop
  | brokenOff {talk : List Exchange} (scan : before.Scanned talk none) :
      RescanDialogue before talk none before.occupied
  | failed {talk reports : List Exchange} {failure : Failure}
      (scan : before.Scanned talk (some (.error failure))) :
      RescanDialogue before (talk ++ reports) (some (.error failure)) before
  | succeeded {talk reports : List Exchange} {forest : Forest}
      (scan : before.Scanned talk (some (.ok forest))) :
      RescanDialogue before (talk ++ reports) (some (.ok ())) (before.renewed forest)

/-- What a ready context says during a rescan. -/
theorem rescanDialogue_of_ready {talk : List Exchange} {result : Option (Except Failure Unit)}
    (hready : before.readiness = .ready) (dialogue : rescan.run.Dialogue before talk result after) :
    RescanDialogue before talk result after := by
  have hobstacle := obstacle?_eq_none_iff.mpr hready
  have hback : { before with readiness := .ready } = before := by rw [← hready]
  have hreadOnly := Scan.readOnly_scan (σ := Context) before.settings
  unfold rescan at dialogue
  simp only [run_ensureReady_bind, Act.dialogue_look_iff, hobstacle, Op.run_modifyState_bind,
    Act.dialogue_store_iff, Op.run_getState_bind, Op.run_outcome_bind] at dialogue
  obtain ⟨scanned, between, talk, reports, rfl, scan, dialogue⟩ | ⟨rfl, scan⟩ :=
    dialogue_bind_iff.mp dialogue
  · -- The scan changes nothing, so what becomes ready again is the context as it was.
    obtain rfl := hreadOnly.eq_of_dialogue scan
    simp only [Act.dialogue_look_iff, Act.dialogue_store_iff, hback] at dialogue
    cases scanned with
    | error failure =>
      simp only [Op.run_report_bind, Op.run_throw, Act.dialogue_report_bind_iff,
        Act.dialogue_done_iff] at dialogue
      obtain ⟨_, -, -, rfl, rfl⟩ := dialogue
      exact .failed scan
    | ok forest =>
      simp only [run_reconciled_bind, Act.dialogue_reportAll_bind_iff, Op.run_modifyState_bind,
        Act.dialogue_look_iff, Act.dialogue_store_iff, Op.run_report, Act.dialogue_report_bind_iff,
        Act.dialogue_done_iff] at dialogue
      obtain ⟨_, -, _, -, -, rfl, rfl⟩ := dialogue
      exact .succeeded scan
  · obtain rfl := hreadOnly.eq_of_dialogue scan
    exact .brokenOff scan

theorem rescanned_of_ready {result : Option (Except Failure Unit)}
    (hready : before.readiness = .ready) (run : rescan.run.Runs before asked result after) :
    Rescanned before result after := by
  obtain ⟨talk, -, dialogue⟩ := Act.runs_iff_dialogue.mp run
  cases rescanDialogue_of_ready hready dialogue with
  | brokenOff => exact .brokenOff
  | @failed _ _ failure => exact .failed failure
  | @succeeded _ _ forest => exact .succeeded forest hready

/-- A rescan replaces the forest once the scan is complete, and changes nothing if it fails. -/
theorem rescanned_of_runs {result : Option (Except Failure Unit)}
    (run : rescan.run.Runs before asked result after) : Rescanned before result after := by
  cases hobstacle : before.obstacle? with
  | none => exact rescanned_of_ready (obstacle?_eq_none_iff.mp hobstacle) run
  | some failure =>
    obtain ⟨-, rfl, rfl⟩ := ((refuses_ensureReady hobstacle).andThen _ _ _ _).mp run
    exact .failed failure

end Context
end I2cTopology
