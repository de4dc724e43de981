import I2cTopology.Proofs.Context.Binding

/-!
# Whether a handle is current

Between two calls a device file may be replaced by another one under the same path.  A handle that a call
opens is on the file that is there at the time of the call: if the file on record is another one, the context
scans and opens the new file.  A handle that was open before is handed out without a look at the file.

* `Replaced`: an adapter without an open handle has another device file than the one on record.
* `openHandle_current`: the handles that are handed out, whatever became of the device files before.
-/

namespace I2cTopology

/-- An adapter that was opened is there. -/
theorem Forest.lt_size_of_isSome_handle {forest : Forest} {id : AdapterId}
    (hopen : (forest.adapter id).handle.isSome = true) : id < forest.adapters.size := by
  by_contra hge
  rw [adapter, Array.getElem?_eq_none (Nat.le_of_not_lt hge)] at hopen
  cases hopen

namespace Context

variable {μ : Type} {machine : Act.Machine μ} {files : μ → FilePath → Option FileIdentity}
  {world final : μ} {before between after context : Context} {path : String} {id : AdapterId}
  {talk : List Exchange}

/-! ## Attempts -/

theorem Attached.devicePath_eq {outcome : Option (Except Failure Unit)}
    (attached : Attached before id talk outcome after) : after.devicePath id = before.devicePath id := by
  have hnr : (before.forest.adapter id).plain.nr = (after.forest.adapter id).plain.nr := by
    rw [← Forest.adapter_plain, attached.alike.1.plain, Forest.adapter_plain]
  have hsettings : after.settings = before.settings := by cases attached <;> rfl
  rw [devicePath, devicePath, hsettings]
  exact congrArg before.settings.deviceFile hnr.symm

/-- A handle was open already and nothing changes, or the file that is there is opened. -/
theorem Attached.current (shows : machine.ShowsFiles files)
    (attached : Attached before id talk (some (.ok ())) after)
    (answers : machine.Answers world talk final) (hlt : id < after.forest.adapters.size) :
    (before.forest.adapter id).handle.isSome = true ∧ after = before ∨
      ∃ handle, (after.forest.adapter id).handle = some handle ∧
        files world (after.devicePath id) = some handle.file.identity := by
  have hpath := attached.devicePath_eq
  cases attached with
  | reused hopen => exact .inl ⟨hopen, rfl⟩
  | @opened current file reports =>
    -- Between the start and the opening there was one question, which replaces no file.
    obtain ⟨-, hrest⟩ := Act.Machine.answers_cons_iff.mp answers
    obtain ⟨hopening, -⟩ := Act.Machine.answers_cons_iff.mp hrest
    have hfile := shows.opening _ _ file (Option.some.inj hopening).symm
    rw [shows.still] at hfile
    refine .inr ⟨_, handle_setHandle _ (by simpa [setHandle] using hlt), ?_⟩
    rw [hpath]
    exact hfile

/-- An adapter at the path has no open handle and another device file than the one on record. -/
def Replaced (context : Context) (path : String) (files : FilePath → Option FileIdentity) : Prop :=
  ∃ id known current, context.forest.resolve path = .ok (some id) ∧
    (context.forest.adapter id).handle = none ∧
    (context.forest.adapter id).identity = some known ∧
    files (context.devicePath id) = some current ∧ known ≠ current

/-- An attempt finds a file that was replaced. -/
theorem Attached.findsReplaced_of_replaced (shows : machine.ShowsFiles files)
    {outcome : Option (Except Failure Unit)} (hid : before.forest.resolve path = .ok (some id))
    (attached : Attached before id talk outcome after) (answers : machine.Answers world talk final)
    (hreplaced : before.Replaced path (files world)) : before.FindsReplaced path talk := by
  obtain ⟨other, known, current, hother, hclosed, hknown, hfile, hne⟩ := hreplaced
  obtain rfl : id = other := Option.some.inj (Except.ok.inj (hid.symm.trans hother))
  -- The first question is for the identity of the file, and the machine answers it.
  have hlook {rest : List Exchange} {found : Option (Except FileFailure FileIdentity)}
      (answers : machine.Answers world (⟨.deviceIdentity (before.devicePath id), found⟩ :: rest) final) :
      found = some (.ok current) := by
    have hfound := (Act.Machine.answers_cons_iff.mp answers).1
    exact hfound.trans (congrArg some ((shows.look world _ current).mpr hfile))
  cases attached with
  | reused hopen =>
    rw [hclosed] at hopen
    cases hopen
  | lookBroken | hidden => cases hlook answers
  | replaced =>
    cases hlook answers
    exact ⟨id, known, current, _, hid, hclosed, hknown, hne, rfl⟩
  | openBroken _ hsame | refused _ hsame | opened _ hsame =>
    cases hlook answers
    exact absurd (hsame known hknown) hne

theorem Connected.findsReplaced_of_replaced (shows : machine.ShowsFiles files)
    {outcome : Option (Except Failure AdapterId)} (hready : before.readiness = .ready)
    (connected : Connected path before talk outcome after)
    (answers : machine.Answers world talk final) (hreplaced : before.Replaced path (files world)) :
    before.FindsReplaced path talk := by
  cases connected with
  | astray hid =>
    obtain ⟨other, -, -, hother, -⟩ := hreplaced
    rw [located_of_ready hready, hother] at hid
    cases hid
  | attached hid attached =>
    exact attached.findsReplaced_of_replaced shows (resolve_of_located hready hid) answers hreplaced

/-- A file that was replaced makes the context scan between its attempts. -/
theorem Connecting.exists_end_of_replaced (shows : machine.ShowsFiles files)
    {late : List RescanEnd} {result : Option (Except Failure AdapterId)}
    (hready : before.readiness = .ready) (connecting : Connecting path before talk late result after)
    (answers : machine.Answers world talk final) (hreplaced : before.Replaced path (files world)) :
    ∃ finish, late = [finish] ∧ ∀ id, result = some (.ok id) → finish = .succeeded := by
  cases connecting with
  | settled connected hsame =>
    exact absurd (connected.findsReplaced_of_replaced shows hready answers hreplaced) hsame
  | broken => exact ⟨_, rfl, nofun⟩
  | failed => exact ⟨_, rfl, nofun⟩
  | retried => exact ⟨_, rfl, fun _ _ => rfl⟩

/-- A handle that is open is handed out as it is. -/
theorem Connecting.eq_of_open {late : List RescanEnd} {result : Option (Except Failure AdapterId)}
    (hready : before.readiness = .ready) (hid : before.forest.resolve path = .ok (some id))
    (hopen : (before.forest.adapter id).handle.isSome = true)
    (connecting : Connecting path before talk late result after) :
    talk = [] ∧ result = some (.ok id) ∧ after = before := by
  have hnot {talk : List Exchange} : ¬ before.FindsReplaced path talk := by
    rintro ⟨other, -, -, -, hother, hclosed, -⟩
    obtain rfl : id = other := Option.some.inj (Except.ok.inj (hid.symm.trans hother))
    rw [hclosed] at hopen
    cases hopen
  cases connecting with
  | settled connected =>
    cases connected with
    | astray hother =>
      rw [located_of_ready hready, hid] at hother
      cases hother
    | attached hother attached =>
      have hother := resolve_of_located hready hother
      obtain rfl := Option.some.inj (Except.ok.inj (hid.symm.trans hother))
      cases attached with
      | reused => exact ⟨rfl, rfl, rfl⟩
      | _ hclosed =>
        rw [hclosed] at hopen
        cases hopen
  | _ replaced => exact absurd replaced hnot

/-! ## Openings -/

/-- A handle was open already and nothing changes, or the file that is there was opened. -/
theorem Opening.current (shows : machine.ShowsFiles files) {early late : List RescanEnd}
    (hready : before.readiness = .ready) (hsurveyed : before.forest.Surveyed)
    (opening : Opening path before talk early late (some (.ok id)) after)
    (answers : machine.Answers world talk final) :
    (before.invalidated = false ∧ (before.forest.adapter id).handle.isSome = true ∧
        after = before) ∨
      ∃ handle, (after.forest.adapter id).handle = some handle ∧
        files world (after.devicePath id) = some handle.file.identity := by
  obtain ⟨-, hopen⟩ := opening.isSome_handle hready hsurveyed
  obtain ⟨front, last, between, rfl, -, hforest, connected⟩ := opening.exists_connected hready
  obtain ⟨middle, hfront, hlast⟩ := Act.Machine.answers_append_iff.mp answers
  obtain ⟨-, attached⟩ := connected.attached_of_ok
  have hlt := Forest.lt_size_of_isSome_handle hopen
  obtain ⟨hreused, rfl⟩ | hnew := attached.current shows hlast hlt
  · -- After a scan no handle is open, so a handle that was open was open from the start.
    obtain ⟨hvalid, rfl, rfl⟩ | ⟨-, hclosed⟩ := hforest
    · exact .inl ⟨hvalid, hreused, rfl⟩
    · rw [hclosed id] at hreused
      cases hreused
  · rw [shows.still_of_answers hfront] at hnew
    exact .inr hnew

/-- **Which files handles are on.**  Whatever led to a ready context, whatever became of the device files
before, and on every machine whose device files stay while it is asked:

* a handle that is handed out is on the file that is there now, unless it was open before and the context is
  not invalidated;
* in that case the handle is handed out as it is, and nothing is asked and nothing changes;
* if the context is not invalidated, and the adapter at the path has no open handle and another device file
  than the one on record, exactly one scan is made, and it succeeds if a handle is handed out. -/
theorem openHandle_current (shows : machine.ShowsFiles files) {settings : Settings}
    {steps : List Step} (history : History settings steps context)
    (hready : context.readiness = .ready) (path : String) (world : μ) :
    let (result, after, final) := (openHandle path).run.run machine context world
    (∀ id, result = some (.ok id) → after.forest.resolve path = .ok (some id) ∧
      ∃ handle, (after.forest.adapter id).handle = some handle ∧
        (files world (after.devicePath id) = some handle.file.identity ∨
          context.invalidated = false ∧ (context.forest.adapter id).handle = some handle)) ∧
    (∀ id, context.invalidated = false → context.forest.resolve path = .ok (some id) →
      (context.forest.adapter id).handle.isSome = true →
      result = some (.ok id) ∧ after = context ∧ final = world) ∧
    (context.invalidated = false → context.Replaced path (files world) →
      ∃ asked finish, Recorded (openHandle path).run context asked [finish] result after ∧
        ∀ id, result = some (.ok id) → finish = .succeeded) := by
  generalize hrun : (openHandle path).run.run machine context world = run
  obtain ⟨result, after, final⟩ := run
  obtain ⟨talk, dialogue, answers⟩ := Act.run_eq_iff.mp hrun
  obtain ⟨early, late, opening, recorded⟩ := opening_of_dialogue hready dialogue
  refine ⟨fun id hid => ?_, fun id hvalid hid hreused => ?_, fun hvalid hreplaced => ?_⟩
  · obtain rfl : result = some (.ok id) := hid
    obtain ⟨hresolve, hopen⟩ := opening.isSome_handle hready history.flagged.surveyed
    refine ⟨hresolve, ?_⟩
    obtain ⟨hvalid, hreused, rfl⟩ | ⟨handle, hhandle, hfile⟩ :=
      opening.current shows hready history.flagged.surveyed answers
    · obtain ⟨handle, hhandle⟩ := Option.isSome_iff_exists.mp hreused
      exact ⟨handle, hhandle, .inr ⟨hvalid, hhandle⟩⟩
    · exact ⟨handle, hhandle, .inl hfile⟩
  · cases opening with
    | direct _ connecting =>
      obtain ⟨rfl, rfl, rfl⟩ := connecting.eq_of_open hready hid hreused
      cases answers
      exact ⟨rfl, rfl, rfl⟩
    | _ hinvalidated =>
      rw [hvalid] at hinvalidated
      cases hinvalidated
  · cases opening with
    | direct _ connecting =>
      obtain ⟨finish, rfl, hfinish⟩ :=
        connecting.exists_end_of_replaced shows hready answers hreplaced
      exact ⟨_, finish, recorded, hfinish⟩
    | _ hinvalidated =>
      rw [hvalid] at hinvalidated
      cases hinvalidated

/-- The device file of the bench is replaced before it is opened for the first time. -/
theorem openHandle_current_bench : ∃ steps after final,
    History {} steps recordedContext ∧ recordedContext.readiness = .ready ∧
      (openHandle "0").run.run benchMachine recordedContext (fun _ => some ⟨1, 2⟩) =
        (some (.ok 0), after, final) ∧
      ∃ handle, (after.forest.adapter 0).handle = some handle ∧ handle.file.identity = ⟨1, 2⟩ := by
  obtain ⟨steps, history⟩ := reached_recordedContext.exists_history
  have hopen : ((openHandle "0").run.run benchMachine recordedContext fun _ => some ⟨1, 2⟩).1 =
      some (.ok 0) := by
    with_unfolding_all rfl
  have hcurrent := openHandle_current showsFiles_benchMachine history rfl "0" fun _ => some ⟨1, 2⟩
  generalize (openHandle "0").run.run benchMachine recordedContext (fun _ => some ⟨1, 2⟩) = run
    at hcurrent hopen
  obtain ⟨result, after, final⟩ := run
  obtain rfl : result = some (.ok 0) := hopen
  obtain ⟨-, handle, hhandle, hfile | ⟨-, hreused⟩⟩ := hcurrent.1 0 rfl
  · exact ⟨steps, after, final, history, rfl, rfl, handle, hhandle, (Option.some.inj hfile).symm⟩
  · cases hreused

end Context
end I2cTopology
