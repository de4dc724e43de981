import I2cTopology.Proofs.Context.Flags
import I2cTopology.Proofs.Handle.Session

/-!
# What handles are bound to

A handle is for one adapter and on one file.  The program changes neither while the handle is open, and it
opens a file only right after a look at its identity.  As long as files stay what they are for that moment,
every open handle has the number of its adapter, and its file is the one on record for the adapter.

* `Handle.Keeps`: uses of a handle leave adapter and file alone.
* `Reached`, `Reached.bound`: the contexts that are reached on such machines, and their open handles.
* `openHandle_bound`: what opening a handle comes to in such a context.
-/

namespace I2cTopology

/-! ## Uses of a handle -/

namespace Handle

/-- The act leaves adapter and file of a handle alone. -/
def Keeps {α : Type} (act : Act Handle α) : Prop :=
  ∀ handle talk result final, act.Dialogue handle talk result final → handle.SameFile final

/-- No way to use a handle changes its adapter or its file. -/
theorem Use.keeps (use : Use) : Keeps use.op.run :=
  fun handle talk result final dialogue => (use.keepsTrack handle talk result final dialogue).same

end Handle

/-! ## Open handles -/

/-- The handle of the adapter, if one is open, has its number and is on the file on record. -/
def Adapter.Bound (adapter : Adapter) : Prop :=
  ∀ handle, adapter.handle = some handle →
    handle.nr = adapter.nr ∧ adapter.identity = some handle.file.identity

theorem Adapter.bound_of_closed {adapter : Adapter} (hclosed : adapter.handle = none) :
    adapter.Bound := by
  intro handle hhandle
  rw [hclosed] at hhandle
  cases hhandle

/-- Every open handle has the number of its adapter and is on the file on record. -/
def Forest.Bound (forest : Forest) : Prop :=
  ∀ id, (forest.adapter id).Bound

theorem Forest.Closed.bound {forest : Forest} (h : forest.Closed) : forest.Bound :=
  fun id => Adapter.bound_of_closed (h id)

theorem Forest.Bound.modify {forest : Forest} (h : forest.Bound) {id : AdapterId}
    {change : Adapter → Adapter} (hchange : (change (forest.adapter id)).Bound) :
    (forest.modify id change).Bound := by
  intro other
  obtain hold | ⟨-, hnew⟩ := forest.adapter_modify_cases id other change
  · exact hold ▸ h other
  · exact hnew ▸ hchange

/-- Device files stay what they are between a look at them and their opening. -/
def Steady (talk : List Exchange) : Prop :=
  ∀ path current file, [.look path (.ok current), .opening path (.ok file)] <:+: talk →
    file.identity = current

theorem Steady.of_append {first second : List Exchange} (h : Steady (first ++ second)) :
    Steady first ∧ Steady second := by
  refine ⟨fun path current file hmet => ?_, fun path current file hmet => ?_⟩
  · exact h path current file (List.IsInfix.trans hmet (List.prefix_append first second).isInfix)
  · exact h path current file (List.IsInfix.trans hmet (List.suffix_append first second).isInfix)

/-- The state of the machine tells which device files there are, and they stay while it is asked. -/
structure Act.Machine.ShowsFiles {μ : Type} (machine : Act.Machine μ)
    (files : μ → FilePath → Option FileIdentity) : Prop where
  look : ∀ world path current,
    (machine (.deviceIdentity path) world).1 = .ok current ↔ files world path = some current
  opening : ∀ world path file,
    (machine (.openDevice path) world).1 = .ok file → files world path = some file.identity
  still : ∀ query world, files (machine query world).2 = files world

theorem Act.Machine.ShowsFiles.still_of_answers {μ : Type} {machine : Act.Machine μ}
    {files : μ → FilePath → Option FileIdentity} (shows : machine.ShowsFiles files) {world after : μ}
    {talk : List Exchange} (answers : machine.Answers world talk after) :
    files after = files world := by
  induction answers with
  | nil => rfl
  | cons _ ih => rw [ih, shows.still]

/-- What such a machine answers is steady. -/
theorem Act.Machine.ShowsFiles.steady {μ : Type} {machine : Act.Machine μ}
    {files : μ → FilePath → Option FileIdentity} (shows : machine.ShowsFiles files) {world after : μ}
    {talk : List Exchange} (answers : machine.Answers world talk after) : Steady talk := by
  rintro path current file ⟨front, back, rfl⟩
  obtain ⟨middle, hfront, -⟩ := Machine.answers_append_iff.mp answers
  obtain ⟨before, -, hpair⟩ := Machine.answers_append_iff.mp hfront
  obtain ⟨hlook, hrest⟩ := Machine.answers_cons_iff.mp hpair
  obtain ⟨hopening, -⟩ := Machine.answers_cons_iff.mp hrest
  have hcurrent := (shows.look before path current).mp (Option.some.inj hlook).symm
  have hfile := shows.opening _ path file (Option.some.inj hopening).symm
  rw [shows.still, hcurrent] at hfile
  exact (Option.some.inj hfile).symm

namespace Context

variable {scope : Scope} {before after context : Context} {talk : List Exchange} {id : AdapterId}

theorem Attached.bound {outcome : Option (Except Failure Unit)}
    (attached : Attached before id talk outcome after) (hsteady : Steady talk)
    (h : before.forest.Bound) : after.forest.Bound := by
  cases attached with
  -- Another identity may be on record now, but no handle is open.
  | refused hclosed => exact h.modify (Adapter.bound_of_closed hclosed)
  | @opened current file reports hclosed =>
    -- The look and the opening stand next to each other in the talk.
    have hsame : file.identity = current :=
      hsteady _ current file ⟨[], reports, rfl⟩
    rw [noted, setHandle, Forest.modify_modify]
    refine h.modify fun handle hhandle => ?_
    obtain rfl := Option.some.inj hhandle
    exact ⟨rfl, congrArg some hsame.symm⟩
  | _ => exact h

theorem Move.bound (huses : ∀ {handle final}, scope.uses handle final → handle.SameFile final)
    (move : Move scope talk before after) (hsteady : Steady talk) (h : before.forest.Bound) :
    after.forest.Bound := by
  cases move with
  | cleanedUp => exact Forest.Closed.bound fun _ => rfl
  | invalidated => exact h
  | installed scan => exact ((Scan.ensures_scan before.settings).of_dialogue scan).2.bound
  | rescanned rescan =>
    cases rescan with
    | brokenOff => exact h
    | failed => exact h
    | succeeded scan => exact ((Scan.ensures_scan before.settings).of_dialogue scan).2.bound
  | marked => exact h
  | attached attached => exact attached.bound hsteady h
  | @used _ id handle final _ hscope hopen =>
    -- The handle was bound before, and its use left number and file alone.
    have hsame := huses hscope
    obtain ⟨hnr, hidentity⟩ := h id handle hopen
    refine h.modify fun other hother => ?_
    obtain rfl := Option.some.inj hother
    exact ⟨hsame.nr.trans hnr, hidentity.trans (by rw [hsame.file])⟩
  | closed _ id => exact h.modify (Adapter.bound_of_closed rfl)

/-! ## Contexts that are reached -/

/-- A use of a handle leaves adapter and file of the handle alone. -/
def Call.Tame : Call → Prop
  | .useHandle _ use => Handle.Keeps use.run
  | _ => True

theorem Call.Tame.sameFile {call : Call} (htame : call.Tame) {handle final : Handle}
    (huses : call.scope.uses handle final) : handle.SameFile final := by
  cases call with
  | useHandle path use =>
    obtain ⟨talk, result, dialogue⟩ := huses
    exact htame _ _ _ _ dialogue
  | _ => exact absurd huses id

/-- The contexts that calls lead to while no device file changes between a look at it and its opening. -/
inductive Reached (settings : Settings) : Context → Prop
  | start : Reached settings (.fresh settings)
  | step {before after : Context} {call : Call} {talk : List Exchange}
      {result : Option (Except Failure call.Reply)} (earlier : Reached settings before)
      (htame : call.Tame) (hsteady : Steady talk)
      (dialogue : call.op.run.Dialogue before talk result after) : Reached settings after

namespace Reached

variable {settings : Settings}

/-- A context that is reached has a history. -/
theorem exists_history (reached : Reached settings context) :
    ∃ steps, History settings steps context := by
  induction reached with
  | start => exact ⟨[], .start⟩
  | @step _ _ call _ _ _ _ _ dialogue ih =>
    obtain ⟨steps, history⟩ := ih
    obtain ⟨ends, recorded⟩ := call.orderly _ _ _ _ dialogue.runs
    exact ⟨_, history.step recorded⟩

/-- **Open handles.**  Every open handle has the number of its adapter and is on the file on record. -/
theorem bound (reached : Reached settings context) : context.forest.Bound := by
  induction reached with
  | start => exact Forest.Closed.bound fun _ => rfl
  | @step _ _ call _ _ _ htame hsteady dialogue ih =>
    exact (call.traced _ _ _ _ dialogue).2.preserves (T := Steady) Steady.of_append
      (fun move => move.bound htame.sameFile) hsteady ih

end Reached

/-! ## The rescans of an opening -/

/-- An invalidated context scans before it opens a handle. -/
def Refreshed (context : Context) (talk : List Exchange)
    (refreshed : Option (Except Failure Unit)) (final : Context) : Prop :=
  if context.invalidated then rescan.run.Dialogue context talk refreshed final
  else talk = [] ∧ refreshed = some (.ok ()) ∧ final = context

theorem refreshed_of_rescan {refreshed : Option (Except Failure Unit)}
    (hinvalidated : before.invalidated = true)
    (scan : rescan.run.Dialogue before talk refreshed after) :
    before.Refreshed talk refreshed after := by
  rw [Refreshed, if_pos hinvalidated]
  exact scan

theorem refreshed_of_valid (hvalid : context.invalidated = false) :
    context.Refreshed [] (some (.ok ())) context := by
  rw [Refreshed, if_neg (Bool.eq_false_iff.mp hvalid)]
  exact ⟨rfl, rfl, rfl⟩

/-- A rescan at the end of a talk failed: its failure is handed on, and the context is what it was, but
invalidated. -/
def FailsAt (before : Context) (talk : List Exchange) (result : Option (Except Failure AdapterId))
    (after : Context) : Prop :=
  ∃ failure front last, talk = front ++ last ∧ result = some (.error failure) ∧
    after = { before with invalidated := true } ∧
    rescan.run.Dialogue after last (some (.error failure)) after

theorem eq_of_failed_rescan {failure : Failure} (hready : before.readiness = .ready)
    (scan : rescan.run.Dialogue before talk (some (.error failure)) after) : after = before := by
  cases rescanDialogue_of_ready hready scan with
  | failed => rfl

/-- A second scan is made exactly if the first attempt finds a replaced file. -/
theorem Connecting.rescans {path : String} {late : List RescanEnd}
    {result : Option (Except Failure AdapterId)} (hready : before.readiness = .ready)
    (connecting : Connecting path before talk late result after) :
    late.length ≤ 1 ∧ (late ≠ [] ↔ before.FindsReplaced path talk) ∧
      (.failed ∈ late → FailsAt before talk result after) := by
  cases connecting with
  | settled _ hsame => exact ⟨Nat.zero_le _, by simp [hsame], nofun⟩
  | broken replaced => exact ⟨Nat.le_refl _, by simp [replaced.append], by simp⟩
  | failed replaced scan =>
    refine ⟨Nat.le_refl _, by simp [replaced.append], fun _ => ⟨_, _, _, rfl, rfl, ?_⟩⟩
    have hinvalidated : { before with invalidated := true : Context }.readiness = .ready := hready
    obtain rfl := eq_of_failed_rescan hinvalidated scan
    exact ⟨rfl, scan⟩
  | retried replaced => exact ⟨Nat.le_refl _, by simp [replaced.append], by simp⟩

theorem Opening.rescans {path : String} {early late : List RescanEnd}
    {result : Option (Except Failure AdapterId)} (hready : before.readiness = .ready)
    (opening : Opening path before talk early late result after) :
    ∃ first rest refreshed between, talk = first ++ rest ∧
      before.Refreshed first refreshed between ∧ early.length = before.invalidated.toNat ∧
      late.length ≤ 1 ∧
      (late ≠ [] ↔ refreshed = some (.ok ()) ∧ between.FindsReplaced path rest) ∧
      (.failed ∈ early ++ late → FailsAt between talk result after) ∧
      (.failed ∈ early → after = before) := by
  cases opening with
  | broken hinvalidated scan =>
    exact ⟨talk, [], none, after, (List.append_nil talk).symm,
      refreshed_of_rescan hinvalidated scan, by simp [hinvalidated], Nat.zero_le _, by simp,
      by simp, by simp⟩
  | @failed _ failure _ hinvalidated scan =>
    obtain rfl := eq_of_failed_rescan hready scan
    have hsame : after = { after with invalidated := true } := by rw [← hinvalidated]
    exact ⟨talk, [], some (.error failure), after, (List.append_nil talk).symm,
      refreshed_of_rescan hinvalidated scan, by simp [hinvalidated], Nat.zero_le _, by simp,
      fun _ => ⟨failure, [], talk, rfl, rfl, hsame, scan⟩, fun _ => rfl⟩
  | @rescanned first second _ between _ _ hinvalidated scan connecting =>
    obtain ⟨hlength, hlate, hfails⟩ := connecting.rescans (closed_of_rescan hready scan).1
    refine ⟨first, second, some (.ok ()), between, rfl, refreshed_of_rescan hinvalidated scan,
      by simp [hinvalidated], hlength, by simp [hlate], fun hfailed => ?_, by simp⟩
    obtain ⟨failure, front, last, rfl, hresult, hafter, hscan⟩ := hfails (by simpa using hfailed)
    exact ⟨failure, first ++ front, last, (List.append_assoc ..).symm, hresult, hafter, hscan⟩
  | direct hvalid connecting =>
    -- Without a first scan the attempts start from where the opening does.
    obtain ⟨hlength, hlate, hfails⟩ := connecting.rescans hready
    exact ⟨[], talk, some (.ok ()), before, rfl, refreshed_of_valid hvalid, by simp [hvalid], hlength,
      by simp [hlate], hfails, nofun⟩

/-- A handle that was opened is open on the adapter that the path leads to now. -/
theorem Opening.isSome_handle {path : String} {early late : List RescanEnd}
    (hready : before.readiness = .ready) (hsurveyed : before.forest.Surveyed)
    (opening : Opening path before talk early late (some (.ok id)) after) :
    after.forest.resolve path = .ok (some id) ∧ (after.forest.adapter id).handle.isSome = true := by
  obtain ⟨front, last, between, -, hbetween, hforest, connected⟩ := opening.exists_connected hready
  have hsurveyed : between.forest.Surveyed := by
    obtain ⟨-, -, rfl⟩ | ⟨hsurveyed, -⟩ := hforest
    · exact hsurveyed
    · exact hsurveyed
  obtain ⟨hlocated, attached⟩ := connected.attached_of_ok
  have alike := attached.alike.1
  have hresolve : after.forest.resolve path = .ok (some id) := by
    rw [← Forest.resolve_eq_of_plain_eq alike.plain]
    exact resolve_of_located hbetween hlocated
  exact ⟨hresolve, attached.isSome_handle ((alike.surveyed hsurveyed).lt_size_of_resolve hresolve)⟩

/-- **Opening a handle.**  In a ready context that was reached, while no device file changes between a look
at it and its opening, and whatever else is answered:

* one scan is made first exactly if the context is invalidated, and one more exactly if the first attempt
  finds a device file whose identity is not the one on record;
* if the opening succeeds, the path leads to the adapter that is handed back, and a handle of its number is
  open on the file whose identity is on record for it;
* if one of the scans fails, its failure is handed on, and the context is the one from before that scan, but
  invalidated; the first scan is made by a context that is invalidated already. -/
theorem openHandle_bound {settings : Settings} (reached : Reached settings context)
    (hready : context.readiness = .ready) {path : String}
    {result : Option (Except Failure AdapterId)} (hsteady : Steady talk)
    (dialogue : (openHandle path).run.Dialogue context talk result after) :
    ∃ first rest refreshed between early late,
      talk = first ++ rest ∧ context.Refreshed first refreshed between ∧
      Recorded (openHandle path).run context (talk.map Exchange.question) (early ++ late) result
        after ∧
      early.length = context.invalidated.toNat ∧
      late.length ≤ 1 ∧
      (late ≠ [] ↔ refreshed = some (.ok ()) ∧ between.FindsReplaced path rest) ∧
      (∀ id, result = some (.ok id) → after.forest.resolve path = .ok (some id) ∧
        ∃ handle, (after.forest.adapter id).handle = some handle ∧
          handle.nr = (after.forest.adapter id).nr ∧
          (after.forest.adapter id).identity = some handle.file.identity) ∧
      (.failed ∈ early ++ late → FailsAt between talk result after) ∧
      (.failed ∈ early → after = context) := by
  obtain ⟨early, late, opening, recorded⟩ := opening_of_dialogue hready dialogue
  obtain ⟨first, rest, refreshed, between, htalk, hrefreshed, hearly, hlength, hlate, hfails⟩ :=
    opening.rescans hready
  refine ⟨first, rest, refreshed, between, early, late, htalk, hrefreshed, recorded, hearly, hlength,
    hlate, fun id hid => ?_, hfails⟩
  subst hid
  obtain ⟨steps, history⟩ := reached.exists_history
  obtain ⟨hresolve, hopen⟩ := opening.isSome_handle hready history.flagged.surveyed
  obtain ⟨handle, hhandle⟩ := Option.isSome_iff_exists.mp hopen
  -- The opening is one more call of the run that led to the context.
  have hcall : (Call.openHandle path).op.run.Dialogue context talk (some (.ok id)) after := dialogue
  have htame : (Call.openHandle path).Tame := trivial
  have hbound := (reached.step htame hsteady hcall).bound
  exact ⟨hresolve, handle, hhandle, hbound id handle hhandle⟩

theorem showsFiles_benchMachine : Act.Machine.ShowsFiles benchMachine fun files => files where
  look := by
    intro files path current
    show (files path).elim (.error (FileFailure.refused .noEntry)) .ok = Except.ok current ↔ _
    cases files path <;> simp
  opening := by
    intro files path file h
    cases hfile : files path with
    | none =>
      simp only [benchMachine, hfile] at h
      cases h
    | some identity =>
      simp only [benchMachine, hfile] at h
      obtain rfl := Except.ok.inj h
      rfl
  still := fun _ _ => rfl

/-- The bench, set up with the device file of its adapter on record. -/
def recordedContext : Context :=
  { benchContext with forest := benchForest (some default) }

theorem reached_recordedContext : Reached {} recordedContext := by
  have hinit : ((Call.init .standardInput).op.run.run benchMachine (.fresh {})
      fun _ => some default).2.1 = recordedContext := by
    with_unfolding_all rfl
  obtain ⟨setup, hsetup, hanswers⟩ := Act.exists_dialogue_of_run benchMachine
    (Call.init .standardInput).op.run (.fresh {}) fun _ => some default
  rw [hinit] at hsetup
  have htame : (Call.init .standardInput).Tame := trivial
  exact .step .start htame (showsFiles_benchMachine.steady hanswers) hsetup

/-- The bench, where the device file is replaced between a scan and the first look at it. -/
def replacingMachine (query : Query) (replaced : Bool) : query.Answer × Bool :=
  match query with
  | .identity _ => (some (if replaced then ⟨1, 2⟩ else default), replaced)
  | .deviceIdentity _ => (.ok ⟨1, 2⟩, true)
  | .openDevice _ => (.ok ⟨0, ⟨1, 2⟩⟩, replaced)
  | other => ((benchMachine other fun _ => none).1, replaced)

theorem showsFiles_replacingMachine :
    Act.Machine.ShowsFiles replacingMachine fun _ _ => some ⟨1, 2⟩ where
  look := by
    intro replaced path current
    show (Except.ok ⟨1, 2⟩ : Except FileFailure FileIdentity) = .ok current ↔ some ⟨1, 2⟩ = some current
    simp
  opening := by
    intro replaced path file h
    obtain rfl := Except.ok.inj h
    rfl
  still := fun _ _ => rfl

/-- The context of the bench after an invalidation. -/
def invalidatedContext : Context :=
  { recordedContext with invalidated := true }

theorem reached_invalidatedContext : Reached {} invalidatedContext := by
  have dialogue : (Call.op .invalidate).run.Dialogue recordedContext [] (some (.ok ()))
      invalidatedContext :=
    Op.dialogue_modifyState_iff.mpr ⟨rfl, rfl, rfl⟩
  have hanswers : Act.Machine.Answers benchMachine (fun _ => none) [] fun _ => none := .nil
  have htame : Call.invalidate.Tame := trivial
  exact reached_recordedContext.step htame (showsFiles_benchMachine.steady hanswers) dialogue

/-- One scan is made because of the invalidation, and one more because the file has been replaced. -/
theorem openHandle_bound_bench : ∃ talk early late after,
    Reached {} invalidatedContext ∧ invalidatedContext.readiness = .ready ∧ Steady talk ∧
      (openHandle "0").run.Dialogue invalidatedContext talk (some (.ok 0)) after ∧
      Recorded (openHandle "0").run invalidatedContext (talk.map Exchange.question) (early ++ late)
        (some (.ok 0)) after ∧
      early.length = 1 ∧ late.length = 1 ∧ after.forest.resolve "0" = .ok (some 0) ∧
      ∃ handle, (after.forest.adapter 0).handle = some handle ∧
        handle.nr = (after.forest.adapter 0).nr ∧
        (after.forest.adapter 0).identity = some handle.file.identity := by
  have hopen : ((openHandle "0").run.run replacingMachine invalidatedContext false).1 =
      some (.ok 0) := by
    with_unfolding_all rfl
  have hrescans : ((openHandle "0").run.run replacingMachine invalidatedContext false).2.1.rescans =
      2 := by
    with_unfolding_all rfl
  obtain ⟨talk, dialogue, hanswers⟩ := Act.exists_dialogue_of_run replacingMachine
    (openHandle "0").run invalidatedContext false
  rw [hopen] at dialogue
  have hsteady := showsFiles_replacingMachine.steady hanswers
  obtain ⟨_, _, _, _, early, late, -, -, recorded, hearly, hlate, -, hok, -⟩ :=
    openHandle_bound reached_invalidatedContext rfl hsteady dialogue
  have hearly : early.length = 1 := hearly
  have htwo : 2 ≤ (early ++ late).length := by
    rw [recorded.rescans_eq] at hrescans
    have hcount : (early ++ late).count .succeeded ≤ (early ++ late).length := List.count_le_length
    change 0 + _ = 2 at hrescans
    omega
  rw [List.length_append] at htwo
  exact ⟨talk, early, late, _, reached_invalidatedContext, rfl, hsteady, dialogue, recorded, hearly,
    by omega, hok 0 rfl⟩

end Context
end I2cTopology
