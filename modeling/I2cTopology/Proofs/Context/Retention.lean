import I2cTopology.Proofs.Context.Flags

/-!
# The bit that asks for a scan

An invalidated context scans before it opens a handle.  Besides an initialization and a cleanup, only a
rescan that succeeds takes that bit down, so once it is up it lasts through all calls before one of these.

* `Retaining`: acts that leave the bit up unless they count a rescan.
* `Call.retaining`: no call but an initialization and a cleanup does anything else.
* `Continued.invalidated`: a bit that is up stays up from step to step.
-/

namespace I2cTopology
namespace Context

variable {before between after context : Context} {id : AdapterId} {talk : List Exchange}

/-! ## Acts -/

/-- The counter does not go down, and a bit that was up is up unless a rescan was counted. -/
structure Retains (before after : Context) : Prop where
  rescans : before.rescans ≤ after.rescans
  invalidated : after.rescans = before.rescans → before.invalidated = true → after.invalidated = true

theorem Retains.refl (context : Context) : Retains context context :=
  ⟨Nat.le_refl _, fun _ h => h⟩

theorem Retains.trans (first : Retains before between) (second : Retains between after) :
    Retains before after := by
  have hfirst := first.rescans
  have hsecond := second.rescans
  refine ⟨by omega, fun hrescans hraised => ?_⟩
  exact second.invalidated (by omega) (first.invalidated (by omega) hraised)

/-- Every run of the act leaves the bit up unless it counts a rescan. -/
def Retaining {α : Type} (act : Act Context α) : Prop :=
  ∀ before asked result after, act.Runs before asked result after → Retains before after

namespace Retaining

variable {α β : Type}

theorem of_readOnly {act : Act Context α} (readOnly : act.ReadOnly) : Retaining act := by
  intro before asked result after run
  obtain rfl := readOnly.eq_of_runs run
  exact .refl _

theorem bind {act : Act Context α} {f : α → Act Context β} (head : Retaining act)
    (tail : ∀ a, Retaining (f a)) : Retaining (act.bind f) := by
  intro before asked result after run
  obtain ⟨a, between, first, rest, rfl, hhead, htail⟩ | ⟨rfl, hhead⟩ := Act.runs_bind_iff.mp run
  · exact (head _ _ _ _ hhead).trans (tail a _ _ _ _ htail)
  · exact head _ _ _ _ hhead

theorem andThen {op : Op Context α} {f : α → Op Context β} (head : Retaining op.run)
    (tail : ∀ a, Retaining (f a).run) : Retaining (op >>= f).run := by
  rw [Op.run_bind]
  refine head.bind fun outcome => ?_
  cases outcome with
  | error failure => exact of_readOnly .done
  | ok a => exact tail a

theorem outcome {op : Op Context α} (head : Retaining op.run) : Retaining op.outcome.run :=
  head.bind fun _ => of_readOnly .done

theorem pure (a : α) : Retaining (pure a : Op Context α).run := of_readOnly .done

theorem throw (failure : Failure) : Retaining (throw failure : Op Context α).run := of_readOnly .done

theorem getState : Retaining (Op.getState : Op Context Context).run := of_readOnly (.look fun _ => .done)

theorem report (level : Level) (area : Area) (message : String) :
    Retaining (Op.report level area message).run :=
  of_readOnly (.opReport level area message)

theorem query (question : Query) : Retaining (Op.query question : Op Context question.Answer).run := by
  intro before asked result after run
  cases run with
  | ask answer rest => cases rest with | done => exact .refl _
  | broken => exact .refl _

theorem modifyState {change : Context → Context} (retains : ∀ context, Retains context (change context)) :
    Retaining (Op.modifyState change).run := by
  intro before asked result after run
  obtain ⟨-, -, rfl⟩ := Op.runs_modifyState_iff.mp run
  exact retains before

theorem rescan : Retaining rescan.run := by
  intro before asked result after run
  cases rescanned_of_runs run with
  | brokenOff => exact ⟨Nat.le_refl _, fun _ h => h⟩
  | failed => exact .refl _
  | succeeded => exact ⟨Nat.le_succ _, fun h => absurd h (Nat.succ_ne_self _)⟩

theorem rescan_if {p : Prop} [Decidable p] {rest : Op Context α} (tail : Retaining rest.run) :
    Retaining (if p then Context.rescan >>= fun _ => rest else rest).run := by
  split
  · exact rescan.andThen fun _ => tail
  · exact tail

/-- The use of a part of a context retains what every change of the part retains. -/
theorem within {τ : Type} {view : Context → τ} {update : τ → Context → Context} {act : Act τ α}
    (retains : ∀ part context, Retains context (update part context)) :
    Retaining (act.within view update) := by
  intro before asked result after run
  induction act generalizing before asked with
  | done a => cases run with | done => exact .refl _
  | ask query next ih =>
    cases run with
    | ask answer rest => exact ih answer _ _ rest
    | broken => exact .refl _
  | look next ih => cases run with | look rest => exact ih _ _ _ rest
  | store part next ih =>
    cases run with
    | look rest => cases rest with | store rest => exact (retains part before).trans (ih _ _ rest)
  | abort => cases run with | abort => exact .refl _

end Retaining

/-! ## Operations and calls -/

theorem retaining_ensureReady : Retaining ensureReady.run := by
  refine .andThen .getState fun context => ?_
  split
  · exact .pure _
  · exact .throw _

theorem retaining_lookup (path : String) : Retaining (lookup path).run := by
  refine retaining_ensureReady.andThen fun _ => .andThen .getState fun context => ?_
  split
  · exact .pure _
  · exact .throw _

theorem retaining_adapter (path : String) : Retaining (adapter path).run :=
  .of_readOnly (readOnly_adapter path)

theorem retaining_invalidate : Retaining invalidate.run :=
  .modifyState fun _ => ⟨Nat.le_refl _, fun _ _ => rfl⟩

/-- A change of the forest alone retains the bit. -/
theorem retains_forest (context : Context) (forest : Forest) : Retains context { context with forest } :=
  ⟨Nat.le_refl _, fun _ h => h⟩

theorem Attached.invalidated_eq {outcome : Option (Except Failure Unit)}
    (attached : Attached before id talk outcome after) : after.invalidated = before.invalidated := by
  cases attached <;> rfl

theorem retaining_attach (id : AdapterId) : Retaining (attach id).run := by
  intro before asked result after run
  obtain ⟨talk, -, dialogue⟩ := Act.runs_iff_dialogue.mp run
  have attached := attached_of_dialogue dialogue
  have hrescans := attached.alike.2.2
  exact ⟨hrescans.ge, fun _ hraised => attached.invalidated_eq ▸ hraised⟩

theorem retaining_openHandle (path : String) : Retaining (openHandle path).run := by
  rw [openHandle_eq]
  refine retaining_ensureReady.andThen fun _ => .andThen .getState fun context => .rescan_if ?_
  refine (retaining_adapter path).andThen fun first => ?_
  refine (retaining_attach first).outcome.andThen fun attached => ?_
  unfold conclude
  cases attached with
  | ok _ => exact .pure first
  | error failure =>
    dsimp only
    split
    · refine .andThen (.report _ _ _) fun _ => retaining_invalidate.andThen fun _ => ?_
      refine Retaining.rescan.andThen fun _ => (retaining_adapter path).andThen fun second => ?_
      exact (retaining_attach second).andThen fun _ => .pure second
    · exact .throw _

theorem retaining_closeHandle (path : String) : Retaining (closeHandle path).run := by
  refine (retaining_adapter path).andThen fun id => .andThen .getState fun context => ?_
  exact .andThen (.modifyState fun context => retains_forest context _) fun _ => .pure _

theorem retaining_control (id : AdapterId) (name value : String) :
    Retaining (control id name value).run :=
  .andThen .getState fun _ => .andThen (.report _ _ _) fun _ => .andThen (.query _) fun _ =>
    .of_readOnly (.ofFile _ _)

theorem retaining_isOccupied (id : AdapterId) (address : UInt16) :
    Retaining (isOccupied id address).run :=
  .andThen .getState fun _ => .query _

theorem retaining_instantiate (id : AdapterId) (name : String) (address : UInt16) :
    Retaining (instantiate id name address).run := by
  unfold instantiate
  dsimp only
  split
  · exact .of_readOnly .done
  refine (retaining_isOccupied id address).andThen fun occupied => ?_
  split
  · exact .andThen .getState fun _ => .andThen (.report _ _ _) fun _ => .pure false
  · exact (retaining_control id _ _).andThen fun _ => .pure true

theorem retaining_remove (id : AdapterId) (address : UInt16) : Retaining (remove id address).run := by
  refine (retaining_isOccupied id address).andThen fun occupied => ?_
  split
  · exact .pure false
  · exact (retaining_control id _ _).andThen fun _ => .pure true

theorem retaining_instantiateEntry (id : AdapterId) (entry : ExpectedChip) :
    Retaining (instantiateEntry id entry).run := by
  unfold instantiateEntry
  split
  · exact .throw _
  · exact retaining_instantiate id _ _

theorem retaining_instantiateConfigured (entry : ExpectedChip) :
    Retaining (instantiateConfigured entry).run := by
  refine .andThen .getState fun context => ?_
  split
  · exact .pure 0
  refine (retaining_instantiateEntry _ entry).outcome.andThen fun added => ?_
  cases added with
  | ok added => exact .pure _
  | error failure =>
    dsimp only
    split <;> exact .andThen (.report _ _ _) fun _ => .pure 0

theorem retaining_instantiateEach (entries : List ExpectedChip) :
    Retaining (instantiateEach entries).run := by
  induction entries with
  | nil => exact .pure 0
  | cons entry rest ih =>
    exact (retaining_instantiateConfigured entry).andThen fun _ => ih.andThen fun _ => .pure _

theorem retaining_removeConfigured (found : ConfiguredChip) :
    Retaining (removeConfigured found).run := by
  refine .andThen .getState fun context => (retaining_remove _ _).outcome.andThen fun removed => ?_
  cases removed with
  | ok removed => exact .pure _
  | error failure => exact .andThen (.report _ _ _) fun _ => .pure 0

theorem retaining_removeEach (found : List ConfiguredChip) : Retaining (removeEach found).run := by
  induction found with
  | nil => exact .pure 0
  | cons chip rest ih =>
    exact (retaining_removeConfigured chip).andThen fun _ => ih.andThen fun _ => .pure _

theorem retaining_removeRounds (path : String) (rounds : Nat) (last : Option UInt16) (removed : Nat) :
    Retaining (removeRounds path rounds last removed).run := by
  induction rounds generalizing last removed with
  | zero => exact .pure none
  | succ rounds ih =>
    refine (retaining_adapter path).andThen fun id => .andThen .getState fun context => ?_
    split
    · exact .pure _
    have hmark (position : Nat) (context : Context) :
        Retains context { context with config := Forest.markMatched context.config position } :=
      ⟨Nat.le_refl _, fun _ h => h⟩
    refine .andThen (.modifyState (hmark _)) fun _ => ?_
    dsimp only
    split
    · exact .andThen (.report _ _ _) fun _ => .pure _
    · exact (retaining_remove id _).andThen fun gone => Retaining.rescan.andThen fun _ => ih _ _

/-- **Calls.**  Besides an initialization and a cleanup, only a rescan that succeeds takes the bit down. -/
theorem Call.retaining {call : Call} (hinit : ∀ source, call ≠ .init source) (hcleanup : call ≠ .cleanup) :
    Retaining call.op.run := by
  cases call with
  | init source => exact absurd rfl (hinit source)
  | cleanup => exact absurd rfl hcleanup
  | invalidate => exact retaining_invalidate
  | tree => exact retaining_ensureReady.andThen fun _ => .andThen .getState fun _ => .pure _
  | configuration => exact retaining_ensureReady.andThen fun _ => .andThen .getState fun _ => .pure _
  | lookup path => exact retaining_lookup path
  | adapter path => exact retaining_adapter path
  | rescan => exact .rescan
  | openHandle path => exact retaining_openHandle path
  | useHandle path use =>
    exact (retaining_openHandle path).andThen fun id => .within fun _ context => retains_forest context _
  | closeHandle path => exact retaining_closeHandle path
  | newDevice path name address =>
    exact (retaining_adapter path).andThen fun id => retaining_instantiate id name address
  | deleteDevice path address =>
    exact (retaining_adapter path).andThen fun id => retaining_remove id address
  | initializeAll =>
    refine retaining_ensureReady.andThen fun _ => .andThen .getState fun context => ?_
    exact (retaining_instantiateEach _).andThen fun added => .rescan_if (.pure added)
  | removeAll =>
    refine retaining_ensureReady.andThen fun _ => .andThen .getState fun context => ?_
    exact (retaining_removeEach _).andThen fun removed => .rescan_if (.pure removed)
  | removeOn path moreRounds => exact retaining_removeRounds path _ none 0

/-! ## Steps -/

/-- The steps that lead from one context to another. -/
inductive Continued (before : Context) : List Step → Context → Prop
  | start : Continued before [] before
  | step {steps : List Step} {between after : Context} {call : Call} {asked : List Query}
      {ends : List RescanEnd} {result : Option (Except Failure call.Reply)}
      (earlier : Continued before steps between)
      (run : Recorded call.op.run between asked ends result after) :
      Continued before (steps ++ [⟨call, ends⟩]) after

/-- A step that settles nothing leaves the bit up. -/
theorem invalidated_of_step {call : Call} {asked : List Query} {ends : List RescanEnd}
    {result : Option (Except Failure call.Reply)}
    (run : Recorded call.op.run before asked ends result after) (hraised : before.invalidated = true)
    (hsettles : ¬ Step.Settles ⟨call, ends⟩) : after.invalidated = true := by
  obtain ⟨hcleanup, hinit, hends⟩ : call ≠ .cleanup ∧ (∀ source, call ≠ .init source) ∧
      .succeeded ∉ ends := by
    simpa [Step.Settles] using hsettles
  have hrescans : after.rescans = before.rescans := by
    rw [run.rescans_eq, List.count_eq_zero.mpr hends, Nat.add_zero]
  exact (Call.retaining hinit hcleanup _ _ _ _ run.runs).invalidated hrescans hraised

/-- Steps that settle nothing leave the bit up. -/
theorem Continued.invalidated {steps : List Step} (continued : Continued before steps after)
    (hraised : before.invalidated = true) (hsettles : ∀ step ∈ steps, ¬ step.Settles) :
    after.invalidated = true := by
  induction continued with
  | start => exact hraised
  | step _ run ih =>
    rw [List.forall_mem_append, List.forall_mem_singleton] at hsettles
    exact invalidated_of_step run (ih hsettles.1) hsettles.2

end Context
end I2cTopology
