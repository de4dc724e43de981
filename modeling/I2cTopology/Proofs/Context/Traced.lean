import I2cTopology.Proofs.Context.Moves

/-!
# Traced operations

An act is traced if each of its dialogues is on record and takes the context from one move to the next.
What is built from traced acts is traced, and so is every operation of a context.
-/

namespace I2cTopology

open Act (dialogue_bind_iff)

namespace Context

variable {α β : Type} {scope : Scope} {before : Context}

/-- Every run of the act is one on record. -/
def Orderly (act : Act Context α) : Prop :=
  ∀ before asked result after, act.Runs before asked result after →
    ∃ ends, Recorded act before asked ends result after

/-- From a state, every dialogue of the act is on record and a chain of moves. -/
def Traced (scope : Scope) (before : Context) (act : Act Context α) : Prop :=
  ∀ talk result after, act.Dialogue before talk result after →
    (∃ ends, Recorded act before (talk.map Exchange.question) ends result after) ∧
      Moves scope talk before after

theorem orderly_of_traced {act : Act Context α} (traced : ∀ before, Traced scope before act) :
    Orderly act := by
  intro before asked result after run
  obtain ⟨talk, rfl, dialogue⟩ := Act.runs_iff_dialogue.mp run
  exact (traced before _ _ _ dialogue).1

namespace Traced

theorem bind {act : Act Context α} {f : α → Act Context β} (head : Traced scope before act)
    (tail : ∀ a between, Traced scope between (f a)) : Traced scope before (act.bind f) := by
  intro talk result after dialogue
  obtain ⟨a, between, first, rest, rfl, hhead, htail⟩ | ⟨rfl, hhead⟩ := dialogue_bind_iff.mp dialogue
  · obtain ⟨⟨firstEnds, hfirst⟩, hmoves⟩ := head _ _ _ hhead
    obtain ⟨⟨otherEnds, hothers⟩, hmore⟩ := tail a between _ _ _ htail
    rw [List.map_append]
    exact ⟨⟨_, hfirst.bind hothers⟩, hmoves.trans hmore⟩
  · obtain ⟨⟨ends, hrecorded⟩, hmoves⟩ := head _ _ _ hhead
    exact ⟨⟨ends, hrecorded.bind_broken⟩, hmoves⟩

theorem andThen {op : Op Context α} {f : α → Op Context β} (head : Traced scope before op.run)
    (tail : ∀ a between, Traced scope between (f a).run) : Traced scope before (op >>= f).run := by
  rw [Op.run_bind]
  refine head.bind fun outcome between => ?_
  cases outcome with
  | error failure =>
    intro talk result after dialogue
    obtain ⟨rfl, rfl, rfl⟩ := Act.dialogue_done_iff.mp dialogue
    exact ⟨⟨[], .done⟩, .rest _ _⟩
  | ok a => exact tail a between

theorem of_readOnly {act : Act Context α} (readOnly : act.ReadOnly) : Traced scope before act := by
  intro talk result after dialogue
  obtain rfl := readOnly.eq_of_dialogue dialogue
  exact ⟨⟨[], .of_readOnly readOnly dialogue.runs⟩, .rest _ _⟩

theorem outcome {op : Op Context α} (traced : Traced scope before op.run) :
    Traced scope before op.outcome.run :=
  traced.bind fun _ _ => of_readOnly .done

theorem rescan : Traced scope before rescan.run := by
  intro talk result after dialogue
  refine ⟨⟨_, .of_rescan dialogue.runs⟩, ?_⟩
  cases hobstacle : before.obstacle? with
  | none =>
    exact .move (.rescanned (rescanDialogue_of_ready (obstacle?_eq_none_iff.mp hobstacle) dialogue))
  | some failure =>
    obtain ⟨-, -, rfl⟩ := ((refuses_ensureReady hobstacle).andThen _ _ _ _).mp dialogue.runs
    exact .rest _ _

theorem rescan_if {p : Prop} [Decidable p] {rest : Op Context α}
    (traced : ∀ between, Traced scope between rest.run) :
    Traced scope before (if p then Context.rescan >>= fun _ => rest else rest).run := by
  split
  · exact rescan.andThen fun _ => traced
  · exact traced before

theorem pure (a : α) : Traced scope before (pure a : Op Context α).run := of_readOnly .done

theorem throw_andThen (failure : Failure) (f : α → Op Context β) :
    Traced scope before (throw failure >>= f).run :=
  of_readOnly .done

theorem throw (failure : Failure) : Traced scope before (throw failure : Op Context α).run :=
  of_readOnly .done

/-- A look at the state shows the state that what follows starts from. -/
theorem getState_andThen {f : Context → Op Context α} (traced : Traced scope before (f before).run) :
    Traced scope before (Op.getState >>= f).run := by
  intro talk result after dialogue
  obtain ⟨⟨ends, hrecorded⟩, hmoves⟩ := traced talk result after (Act.dialogue_look_iff.mp dialogue)
  exact ⟨⟨ends, .look hrecorded⟩, hmoves⟩

theorem query (question : Query) : Traced scope before (Op.query question).run := by
  intro talk result after dialogue
  cases dialogue with
  | ask answer rest => cases rest with | done => exact ⟨⟨[], .ask answer .done⟩, .rest _ _⟩
  | broken breaks => exact ⟨⟨[], .broken breaks⟩, .rest _ _⟩

theorem report (level : Level) (area : Area) (message : String) :
    Traced scope before (Op.report level area message).run :=
  of_readOnly (.opReport level area message)

theorem modifyState {change : Context → Context} (calm : Calm before (change before))
    (move : Move scope [] before (change before)) :
    Traced scope before (Op.modifyState change).run := by
  intro talk result after dialogue
  obtain ⟨rfl, rfl, rfl⟩ := Op.dialogue_modifyState_iff.mp dialogue
  exact ⟨⟨[], .look (.store calm .done)⟩, .move move⟩

/-- What follows a change starts from the changed state. -/
theorem modifyState_andThen {change : Context → Context} {f : Unit → Op Context α}
    (calm : Calm before (change before)) (move : Move scope [] before (change before))
    (tail : Traced scope (change before) (f ()).run) :
    Traced scope before (Op.modifyState change >>= f).run := by
  intro talk result after dialogue
  rw [Op.run_modifyState_bind, Act.dialogue_look_iff, Act.dialogue_store_iff] at dialogue
  obtain ⟨⟨ends, hrecorded⟩, hmoves⟩ := tail talk result after dialogue
  exact ⟨⟨ends, .look (.store calm hrecorded)⟩, (Moves.move move).trans hmoves⟩

theorem ofFile (doing : String) (answer : Except FileFailure α) :
    Traced scope before (Op.ofFile doing answer).run :=
  of_readOnly (.ofFile doing answer)

end Traced

/-! ## Acts after something was said

Some moves rest on what was said long before them.  What is said by acts that change nothing is therefore
kept until the move is made. -/

/-- From a state in which something was said already, every dialogue of the act is on record, and with what
was said it is a chain of moves. -/
def TracedAfter (scope : Scope) (said : List Exchange) (before : Context) (act : Act Context α) : Prop :=
  ∀ talk result after, act.Dialogue before talk result after →
    (∃ ends, Recorded act before (talk.map Exchange.question) ends result after) ∧
      Moves scope (said ++ talk) before after

namespace TracedAfter

variable {said : List Exchange}

theorem of_readOnly {act : Act Context α} (readOnly : act.ReadOnly) :
    TracedAfter scope said before act := by
  intro talk result after dialogue
  obtain rfl := readOnly.eq_of_dialogue dialogue
  exact ⟨⟨[], .of_readOnly readOnly dialogue.runs⟩, .rest _ _⟩

/-- What follows an act that changes nothing starts from where that started. -/
theorem readOnly_bind {act : Act Context α} {f : α → Act Context β} (readOnly : act.ReadOnly)
    (tail : ∀ a talk, act.Dialogue before talk (some a) before →
      TracedAfter scope (said ++ talk) before (f a)) : TracedAfter scope said before (act.bind f) := by
  intro talk result after dialogue
  obtain ⟨a, between, first, rest, rfl, hhead, htail⟩ | ⟨rfl, hhead⟩ := dialogue_bind_iff.mp dialogue
  · obtain rfl := readOnly.eq_of_dialogue hhead
    obtain ⟨⟨ends, hrecorded⟩, hmoves⟩ := tail a first hhead _ _ _ htail
    rw [List.map_append, ← List.append_assoc]
    exact ⟨⟨_, (Recorded.of_readOnly readOnly hhead.runs).bind hrecorded⟩, hmoves⟩
  · obtain rfl := readOnly.eq_of_dialogue hhead
    exact ⟨⟨_, (Recorded.of_readOnly readOnly hhead.runs).bind_broken⟩, .rest _ _⟩

theorem readOnly_andThen {op : Op Context α} {f : α → Op Context β} (readOnly : op.run.ReadOnly)
    (tail : ∀ a talk, op.run.Dialogue before talk (some (.ok a)) before →
      TracedAfter scope (said ++ talk) before (f a).run) :
    TracedAfter scope said before (op >>= f).run := by
  rw [Op.run_bind]
  refine readOnly_bind readOnly fun outcome talk dialogue => ?_
  cases outcome with
  | error failure => exact of_readOnly .done
  | ok a => exact tail a talk dialogue

theorem modifyState {change : Context → Context} (calm : Calm before (change before))
    (move : Move scope said before (change before)) :
    TracedAfter scope said before (Op.modifyState change).run := by
  intro talk result after dialogue
  obtain ⟨rfl, rfl, rfl⟩ := Op.dialogue_modifyState_iff.mp dialogue
  rw [List.append_nil]
  exact ⟨⟨[], .look (.store calm .done)⟩, .move move⟩

end TracedAfter

/-! ## The operations of a context -/

theorem traced_ensureReady : Traced scope before ensureReady.run := by
  refine .getState_andThen ?_
  split
  · exact .pure _
  · exact .throw _

theorem traced_cleanup : Traced scope before cleanup.run :=
  .modifyState (calm_cleanedUp before) (.cleanedUp before)

theorem traced_invalidate : Traced scope before invalidate.run :=
  .modifyState (calm_invalidated before) (.invalidated before)

theorem traced_tree : Traced scope before tree.run :=
  traced_ensureReady.andThen fun _ _ => .getState_andThen (.pure _)

theorem traced_configuration : Traced scope before configuration.run :=
  traced_ensureReady.andThen fun _ _ => .getState_andThen (.pure _)

theorem traced_lookup (path : String) : Traced scope before (lookup path).run := by
  refine traced_ensureReady.andThen fun _ _ => .getState_andThen ?_
  split
  · exact .pure _
  · exact .throw _

theorem traced_adapter (path : String) : Traced scope before (adapter path).run :=
  .of_readOnly (readOnly_adapter path)

/-- What an initialization does once the context is cleaned up. -/
def install (settings : Settings) (source : ConfigSource) : Op Context Unit := do
  let forest ← Scan.scan settings
  let config ← reconciled forest (← source.load)
  Op.report .info .context
    s!"initialized with {forest.size} adapters and {config.length} config entries"
  Op.modifyState fun context =>
    { context with forest := forest, config := config, readiness := .ready }

theorem traced_install (source : ConfigSource) :
    Traced scope before (install before.settings source).run := by
  have traced : TracedAfter scope [] before (install before.settings source).run := by
    unfold install
    refine .readOnly_andThen (Scan.readOnly_scan _) fun forest scanned scan => ?_
    refine .readOnly_andThen (ConfigSource.readOnly_load source) fun loaded _ load => ?_
    rw [run_reconciled_bind]
    refine .readOnly_bind (.reportAll _) fun _ _ _ => .readOnly_andThen (.opReport _ _ _) fun _ _ _ => ?_
    refine .modifyState (calm_ready before forest _) ?_
    have hdeclared := (ConfigSource.ensures_load source).of_dialogue load
    rw [List.nil_append, List.append_assoc, List.append_assoc]
    exact .installed scan hdeclared
  exact traced

/-- A busy context is not initialized, and any other is cleaned up first. -/
theorem init_eq (source : ConfigSource) : init source = (do
    let before ← Op.getState
    if before.readiness = .busy then
      throw .busy
    else do
      cleanup
      install before.settings source) := rfl

theorem traced_init (source : ConfigSource) : Traced scope before (init source).run := by
  rw [init_eq]
  refine .getState_andThen ?_
  split
  · exact .throw _
  · exact .modifyState_andThen (calm_cleanedUp before) (.cleanedUp before) (traced_install source)

/-- An initialization moves on from a context that was cleaned up. -/
theorem moves_of_init {source : ConfigSource} {after : Context} {talk : List Exchange}
    {result : Option (Except Failure Unit)} (hidle : before.readiness ≠ .busy)
    (dialogue : (init source).run.Dialogue before talk result after) :
    Moves scope talk before.cleanedUp after := by
  rw [init_eq, Op.run_getState_bind, Act.dialogue_look_iff, if_neg hidle] at dialogue
  unfold cleanup at dialogue
  simp only [Op.run_modifyState_bind, Act.dialogue_look_iff, Act.dialogue_store_iff] at dialogue
  exact (traced_install source _ _ _ dialogue).2

theorem traced_attach (id : AdapterId) : Traced scope before (attach id).run :=
  fun _ _ _ dialogue => ⟨⟨[], quiet_attach id _ _ _ _ dialogue.runs⟩,
    .move (.attached (attached_of_dialogue dialogue))⟩

theorem traced_connect (path : String) : Traced scope before (connect path).run :=
  (traced_adapter path).andThen fun id _ => (traced_attach id).andThen fun _ _ => .pure id

theorem traced_openHandle (path : String) : Traced scope before (openHandle path).run := by
  rw [openHandle_eq]
  refine traced_ensureReady.andThen fun _ _ => .getState_andThen (.rescan_if fun _ => ?_)
  refine (traced_adapter path).andThen fun first _ => ?_
  refine (traced_attach first).outcome.andThen fun attached _ => ?_
  unfold conclude
  cases attached with
  | ok _ => exact .pure first
  | error failure =>
    dsimp only
    split
    · refine .andThen (.report _ _ _) fun _ _ => traced_invalidate.andThen fun _ _ => ?_
      exact Traced.rescan.andThen fun _ _ => traced_connect path
    · exact .throw _

theorem traced_withHandle (path : String) {use : Op Handle α}
    (huses : ∀ {handle talk result final}, use.run.Dialogue handle talk result final →
      scope.uses handle final) : Traced scope before (withHandle path use).run := by
  intro talk result after dialogue
  obtain ⟨id, between, first, rest, rfl, hopen, huse⟩ | ⟨failure, hopen, rfl⟩ | ⟨hopen, rfl⟩ :=
    Op.dialogue_bind_iff.mp dialogue
  · obtain ⟨⟨ends, hrecorded⟩, hmoves⟩ := traced_openHandle path _ _ _ hopen
    have hcalm (part : Handle) (context : Context) : Calm context (setHandle id part context) :=
      calm_modify context id _
    rw [List.map_append]
    refine ⟨⟨_, hrecorded.andThen (.of_within hcalm huse.runs)⟩, hmoves.trans ?_⟩
    by_cases hlt : id < between.forest.adapters.size
    · -- The handle was opened, so the use works on what is open, and what it leaves is set at the end.
      obtain ⟨handle, hhandle⟩ :=
        Option.isSome_iff_exists.mp (isSome_handle_of_openHandle hopen hlt)
      have hview (part : Handle) : handleOf id (setHandle id part between) = part := by
        rw [handleOf, handle_setHandle part hlt, Option.getD_some]
      rw [← setHandle_eq_self fun _ => hhandle] at huse
      obtain ⟨final, hfinal, rfl⟩ :=
        Act.dialogue_within hview (fun part other => setHandle_setHandle part other between) huse
      exact .move (.used (huses hfinal) hhandle)
    · -- There is no adapter to set a handle of.
      have hidle (part : Handle) : setHandle id part between = between :=
        setHandle_eq_self fun h => absurd h hlt
      obtain rfl := Act.eq_of_dialogue_within hidle huse
      exact .rest _ _
  · obtain ⟨⟨ends, hrecorded⟩, hmoves⟩ := traced_openHandle path _ _ _ hopen
    exact ⟨⟨ends, hrecorded.andThen_failed⟩, hmoves⟩
  · obtain ⟨⟨ends, hrecorded⟩, hmoves⟩ := traced_openHandle path _ _ _ hopen
    exact ⟨⟨ends, hrecorded.andThen_broken⟩, hmoves⟩

theorem traced_closeHandle (path : String) : Traced scope before (closeHandle path).run := by
  refine (traced_adapter path).andThen fun id between => .getState_andThen ?_
  exact .andThen (.modifyState (calm_modify _ id _) (.closed _ id)) fun _ _ => .pure _

theorem traced_control (id : AdapterId) (name value : String) :
    Traced scope before (control id name value).run :=
  .getState_andThen (.andThen (.report _ _ _) fun _ _ => .andThen (.query _) fun _ _ => .ofFile _ _)

theorem traced_isOccupied (id : AdapterId) (address : UInt16) :
    Traced scope before (isOccupied id address).run :=
  .getState_andThen (.query _)

theorem traced_instantiate (id : AdapterId) (name : String) (address : UInt16) :
    Traced scope before (instantiate id name address).run := by
  unfold instantiate
  dsimp only
  split
  · exact .throw_andThen _ _
  refine (traced_isOccupied id address).andThen fun occupied _ => ?_
  split
  · exact .getState_andThen (.andThen (.report _ _ _) fun _ _ => .pure false)
  · exact (traced_control id _ _).andThen fun _ _ => .pure true

theorem traced_remove (id : AdapterId) (address : UInt16) :
    Traced scope before (remove id address).run := by
  refine (traced_isOccupied id address).andThen fun occupied _ => ?_
  split
  · exact .pure false
  · exact (traced_control id _ _).andThen fun _ _ => .pure true

theorem traced_newDevice (path name : String) (address : UInt16) :
    Traced scope before (newDevice path name address).run :=
  (traced_adapter path).andThen fun id _ => traced_instantiate id name address

theorem traced_deleteDevice (path : String) (address : UInt16) :
    Traced scope before (deleteDevice path address).run :=
  (traced_adapter path).andThen fun id _ => traced_remove id address

theorem traced_instantiateEntry (id : AdapterId) (entry : ExpectedChip) :
    Traced scope before (instantiateEntry id entry).run := by
  unfold instantiateEntry
  split
  · exact .throw _
  · exact traced_instantiate id _ _

theorem traced_instantiateConfigured (entry : ExpectedChip) :
    Traced scope before (instantiateConfigured entry).run := by
  refine .getState_andThen ?_
  split
  · exact .pure 0
  refine (traced_instantiateEntry _ entry).outcome.andThen fun added _ => ?_
  cases added with
  | ok added => exact .pure _
  | error failure =>
    dsimp only
    split <;> exact .andThen (.report _ _ _) fun _ _ => .pure 0

theorem traced_instantiateEach (entries : List ExpectedChip) :
    Traced scope before (instantiateEach entries).run := by
  induction entries generalizing before with
  | nil => exact .pure 0
  | cons entry rest ih =>
    exact (traced_instantiateConfigured entry).andThen fun _ _ => ih.andThen fun _ _ => .pure _

theorem traced_initializeAll : Traced scope before initializeAll.run := by
  unfold initializeAll
  refine traced_ensureReady.andThen fun _ _ => .getState_andThen ?_
  exact (traced_instantiateEach _).andThen fun added _ => .rescan_if fun _ => .pure added

theorem traced_removeConfigured (found : ConfiguredChip) :
    Traced scope before (removeConfigured found).run := by
  refine .getState_andThen ?_
  refine (traced_remove _ _).outcome.andThen fun removed _ => ?_
  cases removed with
  | ok removed => exact .pure _
  | error failure => exact .andThen (.report _ _ _) fun _ _ => .pure 0

theorem traced_removeEach (found : List ConfiguredChip) :
    Traced scope before (removeEach found).run := by
  induction found generalizing before with
  | nil => exact .pure 0
  | cons chip rest ih =>
    exact (traced_removeConfigured chip).andThen fun _ _ => ih.andThen fun _ _ => .pure _

theorem traced_removeAll : Traced scope before removeAll.run := by
  unfold removeAll
  refine traced_ensureReady.andThen fun _ _ => .getState_andThen ?_
  exact (traced_removeEach _).andThen fun removed _ => .rescan_if fun _ => .pure removed

theorem traced_removeRounds (hmarks : scope.marks) (path : String) (rounds : Nat)
    (last : Option UInt16) (removed : Nat) :
    Traced scope before (removeRounds path rounds last removed).run := by
  -- A round ends with a rescan, and the rounds that are left go on from there.
  induction rounds generalizing before last removed with
  | zero => exact .pure none
  | succ rounds ih =>
    refine (traced_adapter path).andThen fun id between => .getState_andThen ?_
    split
    · exact .pure _
    next found hfound =>
      refine .andThen (.modifyState (calm_markMatched between _) (.marked hmarks hfound)) fun _ _ => ?_
      dsimp only
      split
      · exact .andThen (.report _ _ _) fun _ _ => .pure _
      · exact (traced_remove id _).andThen fun gone _ => Traced.rescan.andThen fun _ _ => ih _ _

end Context
end I2cTopology
