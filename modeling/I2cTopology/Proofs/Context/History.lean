import I2cTopology.Proofs.Context.Traced

/-!
# The life of a context

A context is used by one call after the other, and each call may come to its end, fail or be broken off.
The steps of such a history, with the rescans in each of them, tell the state of the context: it is busy
as long as a rescan that was broken off has not been cleaned up, and its counter is the number of rescans
that succeeded. A context that is not ready has nothing to show and refuses what needs a forest.
-/

namespace I2cTopology
namespace Context

/-- A use of a context. -/
inductive Call where
  | init (source : ConfigSource)
  | cleanup
  | invalidate
  | tree
  | configuration
  | lookup (path : String)
  | adapter (path : String)
  | rescan
  | openHandle (path : String)
  | useHandle (path : String) (use : Op Handle Unit)
  | closeHandle (path : String)
  | newDevice (path name : String) (address : UInt16)
  | deleteDevice (path : String) (address : UInt16)
  | initializeAll
  | removeAll
  /-- At least one round is spent on the adapter. -/
  | removeOn (path : String) (moreRounds : Nat)

namespace Call

/-- What a call hands back if it does not fail. -/
def Reply : Call → Type
  | init _ => Unit
  | cleanup => Unit
  | invalidate => Unit
  | tree => Forest
  | configuration => List ExpectedChip
  | lookup _ => Option AdapterId
  | adapter _ => AdapterId
  | rescan => Unit
  | openHandle _ => AdapterId
  | useHandle _ _ => Unit
  | closeHandle _ => Bool
  | newDevice _ _ _ => Bool
  | deleteDevice _ _ => Bool
  | initializeAll => Nat
  | removeAll => Nat
  | removeOn _ _ => Option Nat

/-- The operation behind a call. -/
def op : (call : Call) → Op Context call.Reply
  | init source => Context.init source
  | cleanup => Context.cleanup
  | invalidate => Context.invalidate
  | tree => Context.tree
  | configuration => Context.configuration
  | lookup path => Context.lookup path
  | adapter path => Context.adapter path
  | rescan => Context.rescan
  | openHandle path => Context.openHandle path
  | useHandle path use => Context.withHandle path use
  | closeHandle path => Context.closeHandle path
  | newDevice path name address => Context.newDevice path name address
  | deleteDevice path address => Context.deleteDevice path address
  | initializeAll => Context.initializeAll
  | removeAll => Context.removeAll
  | removeOn path moreRounds => Context.removeOn path (moreRounds + 1)

/-- What a call may do beyond what every call may: a handle is changed as its use changes it, and only
the removal from one adapter marks entries. -/
def scope : Call → Scope
  | useHandle _ use =>
    { uses := fun handle final => ∃ talk result, use.run.Dialogue handle talk result final }
  | removeOn _ _ => { marks := True }
  | _ => {}

/-- **Calls are traced.**  Every dialogue of a call is on record and a chain of moves in its scope. -/
theorem traced (call : Call) (before : Context) : Traced call.scope before call.op.run := by
  cases call with
  | init source => exact traced_init source
  | cleanup => exact traced_cleanup
  | invalidate => exact traced_invalidate
  | tree => exact traced_tree
  | configuration => exact traced_configuration
  | lookup path => exact traced_lookup path
  | adapter path => exact traced_adapter path
  | rescan => exact Traced.rescan
  | openHandle path => exact traced_openHandle path
  | useHandle path use => exact traced_withHandle path fun dialogue => ⟨_, _, dialogue⟩
  | closeHandle path => exact traced_closeHandle path
  | newDevice path name address => exact traced_newDevice path name address
  | deleteDevice path address => exact traced_deleteDevice path address
  | initializeAll => exact traced_initializeAll
  | removeAll => exact traced_removeAll
  | removeOn path moreRounds => exact traced_removeRounds trivial path _ none 0

theorem orderly (call : Call) : Orderly call.op.run :=
  orderly_of_traced call.traced

variable {context before after : Context} {failure : Failure} {call : Call}

/-- Every call but these three begins with a look at the state. -/
theorem refuses (hobstacle : context.obstacle? = some failure)
    (hinit : ∀ source, call ≠ .init source) (hcleanup : call ≠ .cleanup)
    (hinvalidate : call ≠ .invalidate) : Refuses call.op context failure := by
  have hready := refuses_ensureReady hobstacle
  have hadapter (path : String) : Refuses (Context.adapter path) context failure :=
    (hready.andThen _).andThen _
  cases call with
  | init source => exact absurd rfl (hinit source)
  | cleanup => exact absurd rfl hcleanup
  | invalidate => exact absurd rfl hinvalidate
  | tree => exact hready.andThen _
  | configuration => exact hready.andThen _
  | lookup path => exact hready.andThen _
  | adapter path => exact hadapter path
  | rescan => exact hready.andThen _
  | openHandle path => exact hready.andThen _
  | useHandle path use => exact Refuses.andThen (hready.andThen _) _
  | closeHandle path => exact (hadapter path).andThen _
  | newDevice path name address => exact (hadapter path).andThen _
  | deleteDevice path address => exact (hadapter path).andThen _
  | initializeAll => exact hready.andThen _
  | removeAll => exact hready.andThen _
  | removeOn path moreRounds => exact (hadapter path).andThen _

theorem refuses_init (hbusy : context.readiness = .busy) (source : ConfigSource) :
    Refuses (Context.init source) context .busy := by
  intro asked result after
  unfold Context.init
  rw [Op.run_getState_bind, Act.runs_look_iff, if_pos hbusy]
  exact Act.runs_done_iff

theorem refuses_of_busy (hbusy : context.readiness = .busy) (hcleanup : call ≠ .cleanup)
    (hinvalidate : call ≠ .invalidate) : Refuses call.op context .busy := by
  by_cases hinit : ∃ source, call = .init source
  · obtain ⟨source, rfl⟩ := hinit
    exact refuses_init hbusy source
  · refine refuses ?_ (fun source h => hinit ⟨source, h⟩) hcleanup hinvalidate
    rw [obstacle?, hbusy]

/-- Only a cleanup leads out of the busy state. -/
theorem stays_busy {asked : List Query} {result : Option (Except Failure call.Reply)}
    (hbusy : before.readiness = .busy) (hcleanup : call ≠ .cleanup)
    (run : call.op.run.Runs before asked result after) : after.readiness = .busy := by
  by_cases hinvalidate : call = .invalidate
  · subst hinvalidate
    obtain ⟨-, -, rfl⟩ := Op.runs_modifyState_iff.mp run
    exact hbusy
  · obtain ⟨-, -, rfl⟩ := (refuses_of_busy hbusy hcleanup hinvalidate _ _ _).mp run
    exact hbusy

end Call

/-- A call that was made, with the ends of the rescans in it. -/
structure Step where
  call : Call
  ends : List RescanEnd

/-- The histories of a context, by the steps taken so far and the state they lead to. -/
inductive History (settings : Settings) : List Step → Context → Prop
  | start : History settings [] (.fresh settings)
  | step {steps : List Step} {before after : Context} {call : Call} {asked : List Query}
      {ends : List RescanEnd} {result : Option (Except Failure call.Reply)}
      (earlier : History settings steps before)
      (run : Recorded call.op.run before asked ends result after) :
      History settings (steps ++ [⟨call, ends⟩]) after

/-- A step began something that no step after it has put an end to. -/
def Lasting (begins ends : Step → Prop) (steps : List Step) : Prop :=
  ∃ front step back, steps = front ++ step :: back ∧ begins step ∧ ∀ later ∈ back, ¬ ends later

theorem not_lasting_nil {begins ends : Step → Prop} : ¬ Lasting begins ends [] := by
  rintro ⟨front, step, back, heq, -⟩
  simp at heq

theorem lasting_append_iff {begins ends : Step → Prop} {steps : List Step} {last : Step} :
    Lasting begins ends (steps ++ [last]) ↔
      begins last ∨ Lasting begins ends steps ∧ ¬ ends last := by
  constructor
  · rintro ⟨front, step, back, heq, hbegins, hback⟩
    rcases List.eq_nil_or_concat back with rfl | ⟨between, final, rfl⟩
    · obtain ⟨-, h⟩ := List.append_inj' heq rfl
      obtain rfl := List.singleton_inj.mp h
      exact .inl hbegins
    · have heq : steps ++ [last] = (front ++ step :: between) ++ [final] := by simpa using heq
      obtain ⟨rfl, h⟩ := List.append_inj' heq rfl
      obtain rfl := List.singleton_inj.mp h
      simp only [List.concat_eq_append, List.mem_append, List.mem_singleton, or_imp, forall_and,
        forall_eq] at hback
      exact .inr ⟨⟨front, step, between, rfl, hbegins, hback.1⟩, hback.2⟩
  · rintro (hbegins | ⟨⟨front, step, back, rfl, hbegins, hback⟩, hlast⟩)
    · exact ⟨steps, last, [], rfl, hbegins, nofun⟩
    · refine ⟨front, step, back ++ [last], by simp, hbegins, fun later hlater => ?_⟩
      obtain h | h := List.mem_append.mp hlater
      · exact hback later h
      · obtain rfl := List.mem_singleton.mp h
        exact hlast

/-- A rescan was broken off, and the context has not been cleaned up since. -/
def Interrupted (steps : List Step) : Prop :=
  ∃ front step back, steps = front ++ step :: back ∧ .brokenOff ∈ step.ends ∧
    ∀ later ∈ back, later.call ≠ .cleanup

theorem interrupted_iff_lasting {steps : List Step} :
    Interrupted steps ↔ Lasting (.brokenOff ∈ ·.ends) (·.call = .cleanup) steps :=
  Iff.rfl

namespace History

variable {settings : Settings} {steps : List Step} {context : Context}

theorem vacant (history : History settings steps context) : context.Vacant := by
  induction history with
  | start => exact fun _ => ⟨rfl, rfl⟩
  | step _ run ih => exact run.vacant ih

theorem rescans_eq (history : History settings steps context) :
    context.rescans = (steps.flatMap Step.ends).count .succeeded := by
  induction history with
  | start => rfl
  | step _ run ih => simp [run.rescans_eq, ih]

theorem busy_iff (history : History settings steps context) :
    context.readiness = .busy ↔ Interrupted steps := by
  induction history with
  | start => simp [fresh, interrupted_iff_lasting, not_lasting_nil]
  | @step steps before after call _ ends _ _ run ih =>
    rw [interrupted_iff_lasting, lasting_append_iff, ← interrupted_iff_lasting, ← ih]
    constructor
    · intro hbusy
      obtain hbefore | hend := run.brokenOff_mem hbusy
      · by_cases hcleanup : call = .cleanup
        · -- After a cleanup the context is not ready, so it is not busy either.
          subst hcleanup
          obtain ⟨-, -, rfl⟩ := Op.runs_modifyState_iff.mp run.runs
          cases hbusy
        · exact .inr ⟨hbefore, hcleanup⟩
      · exact .inl hend
    · rintro (hend | ⟨hbefore, hcleanup⟩)
      · exact run.busy_of_brokenOff hend
      · exact Call.stays_busy hbefore hcleanup run.runs

/-- A history goes on with whatever a machine makes of the next call. -/
theorem run {μ : Type} {after : Context} (history : History settings steps context)
    (machine : Act.Machine μ) (world : μ) (call : Call)
    (hafter : (call.op.run.run machine context world).2.1 = after) :
    ∃ ends, History settings (steps ++ [⟨call, ends⟩]) after := by
  obtain ⟨talk, dialogue, -⟩ := Act.exists_dialogue_of_run machine call.op.run context world
  obtain ⟨ends, recorded⟩ := call.orderly _ _ _ _ dialogue.runs
  exact ⟨ends, hafter ▸ history.step recorded⟩

end History

/-- Whatever the machine answers and whichever calls are broken off:

* every run of a call is a step of the history;
* a busy context refuses every call but a cleanup and an invalidation, and a context that is not ready
  refuses every call but these and an initialization: they fail with the name of the state, ask nothing
  and change nothing;
* a context that is not ready has no forest and no configuration;
* the context is busy as long as a rescan that was broken off has not been cleaned up;
* the counter is the number of rescans that succeeded, in whichever calls. -/
theorem lifecycle {settings : Settings} {steps : List Step} {context : Context}
    (history : History settings steps context) :
    (∀ (call : Call) asked result after,
      call.op.run.Runs context asked result after ↔
        ∃ ends, Recorded call.op.run context asked ends result after) ∧
    (context.readiness = .busy → ∀ call : Call, call ≠ .cleanup → call ≠ .invalidate →
      Refuses call.op context .busy) ∧
    (context.readiness = .notReady → ∀ call : Call, call ≠ .cleanup → call ≠ .invalidate →
      (∀ source, call ≠ .init source) → Refuses call.op context .notReady) ∧
    (context.readiness = .notReady → context.forest = .empty ∧ context.config = []) ∧
    (context.readiness = .busy ↔ Interrupted steps) ∧
    context.rescans = (steps.flatMap Step.ends).count .succeeded := by
  refine ⟨fun call asked result after => ⟨call.orderly _ _ _ _, fun ⟨ends, run⟩ => run.runs⟩,
    fun hbusy call => Call.refuses_of_busy hbusy, fun hnot call hcleanup hinvalidate hinit => ?_,
    history.vacant, history.busy_iff, history.rescans_eq⟩
  refine Call.refuses ?_ hinit hcleanup hinvalidate
  rw [obstacle?, hnot]

/-- A context on a machine without adapters. -/
def bareReady : Context where
  settings := {}
  readiness := .ready

/-- A rescan is broken off at its first question, right after an initialization. -/
theorem lifecycle_sample :
    History {} [⟨.init .nothing, []⟩, ⟨.rescan, [.brokenOff]⟩] bareReady.occupied ∧
      Interrupted [⟨.init .nothing, []⟩, ⟨.rescan, [.brokenOff]⟩] ∧
      Refuses (Call.op .initializeAll) bareReady.occupied .busy ∧
      bareReady.occupied.rescans = 0 := by
  have hinit : ∃ asked,
      Recorded (Call.op (.init .nothing)).run (.fresh {}) asked [] (some (.ok ())) bareReady := by
    apply Exists.intro
    apply Recorded.look
    apply Recorded.look
    apply Recorded.store (calm_cleanedUp _)
    apply Recorded.ask (show (Query.isDirectory _).Answer from true)
    apply Recorded.ask (show (Query.isSysfs _).Answer from true)
    apply Recorded.ask (show (Query.entries _).Answer from .names [])
    -- Building a forest sorts, and sorting is not unfolded otherwise.
    with_unfolding_all
      apply Recorded.ask (show (Query.report _).Answer from ())
      apply Recorded.ask (show (Query.report _).Answer from ())
      apply Recorded.ask (show (Query.report _).Answer from ())
      apply Recorded.look
      apply Recorded.store (calm_ready _ .empty [])
      exact .done
  have hrescan : Recorded (Call.op .rescan).run bareReady [.isDirectory ⟨"/sys"⟩] [.brokenOff] none
      bareReady.occupied := by
    show Recorded rescan.run _ _ _ _ _
    rw [← Act.bind_done rescan.run]
    exact .rescanBroken (.look (.look (.store (.look (.broken rfl)))))
  obtain ⟨asked, hinit⟩ := hinit
  have history : History {} [⟨.init .nothing, []⟩, ⟨.rescan, [.brokenOff]⟩] bareReady.occupied :=
    (History.step .start hinit).step hrescan
  obtain ⟨-, hbusy, -, -, hinterrupted, hrescans⟩ := lifecycle history
  exact ⟨history, hinterrupted.mp rfl, hbusy rfl .initializeAll nofun nofun, hrescans⟩

end Context
end I2cTopology
