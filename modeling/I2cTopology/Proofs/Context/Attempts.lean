import I2cTopology.Context.Handles
import I2cTopology.Proofs.Context.Recorded
import I2cTopology.Proofs.Forest.Upkeep

/-!
# Attempts to open a device file

An attempt looks for the adapter at a path and opens its device file, unless a handle is open already.  It
looks at the identity of the file first, gives up if that is not the identity on record, and puts it on
record otherwise.

* `attached_of_dialogue`: what is said and done to open the device file of an adapter.
* `connected_of_dialogue`: what is said and done in an attempt.
* `Attached.findsReplaced`: an attempt that finds a replaced file changes nothing.
-/

namespace I2cTopology

open Act (dialogue_bind_iff dialogue_query_bind_iff dialogue_report_bind_iff)

namespace Context

variable {before between after : Context} {path : String} {id : AdapterId} {talk : List Exchange}

/-- The device file of an adapter. -/
def devicePath (context : Context) (id : AdapterId) : FilePath :=
  context.settings.deviceFile (context.forest.adapter id).nr

/-- The context with the identity of an adapter's device file on record. -/
def noted (id : AdapterId) (identity : Option FileIdentity) (context : Context) : Context :=
  { context with
    forest := context.forest.modify id fun adapter => { adapter with identity := identity } }

theorem noted_self (context : Context) (id : AdapterId) :
    noted id (context.forest.adapter id).identity context = context := by
  rw [noted, Forest.modify_eq_self fun _ => rfl]

/-! ## The device file of an adapter -/

/-- What is said and done to open the device file of an adapter. -/
inductive Attached (before : Context) (id : AdapterId) :
    List Exchange → Option (Except Failure Unit) → Context → Prop
  /-- A handle is open already. -/
  | reused (hopen : (before.forest.adapter id).handle.isSome = true) :
      Attached before id [] (some (.ok ())) before
  | lookBroken (hclosed : (before.forest.adapter id).handle = none) :
      Attached before id [⟨.deviceIdentity (before.devicePath id), none⟩] none before
  /-- The file cannot be looked at. -/
  | hidden {refusal : FileFailure} {failure : Failure}
      (hclosed : (before.forest.adapter id).handle = none) (hfresh : isStale failure = false) :
      Attached before id [.look (before.devicePath id) (.error refusal)] (some (.error failure)) before
  /-- The file is not the one on record. -/
  | replaced {known current : FileIdentity} {reports : List Exchange}
      (hclosed : (before.forest.adapter id).handle = none)
      (hknown : (before.forest.adapter id).identity = some known) (hne : known ≠ current) :
      Attached before id (.look (before.devicePath id) (.ok current) :: reports)
        (some (.error (.staleHandle (before.forest.adapter id).nr))) before
  | openBroken {current : FileIdentity} (hclosed : (before.forest.adapter id).handle = none)
      (hsame : ∀ known, (before.forest.adapter id).identity = some known → known = current) :
      Attached before id
        [.look (before.devicePath id) (.ok current), ⟨.openDevice (before.devicePath id), none⟩]
        none before
  /-- The file cannot be opened. -/
  | refused {current : FileIdentity} {refusal : FileFailure} {failure : Failure}
      (hclosed : (before.forest.adapter id).handle = none)
      (hsame : ∀ known, (before.forest.adapter id).identity = some known → known = current)
      (hfresh : isStale failure = false) :
      Attached before id
        [.look (before.devicePath id) (.ok current),
          .opening (before.devicePath id) (.error refusal)]
        (some (.error failure)) (noted id (some current) before)
  | opened {current : FileIdentity} {file : DeviceFile} {reports : List Exchange}
      (hclosed : (before.forest.adapter id).handle = none)
      (hsame : ∀ known, (before.forest.adapter id).identity = some known → known = current) :
      Attached before id
        (.look (before.devicePath id) (.ok current) ::
          .opening (before.devicePath id) (.ok file) :: reports)
        (some (.ok ()))
        (setHandle id ⟨(before.forest.adapter id).nr, file, none⟩ (noted id (some current) before))

/-- What is left to do for an adapter once its device file was opened, or not. -/
def keep (id : AdapterId) (opened : Except Failure Handle) (identity : Option FileIdentity) :
    Op Context Unit := do
  modifyForest fun forest => forest.modify id fun adapter => { adapter with identity := identity }
  match opened with
  | .error failure => throw failure
  | .ok handle =>
    modifyForest fun forest =>
      forest.modify id fun adapter => { adapter with handle := some handle }

theorem dialogue_keep_error_iff {failure : Failure} {identity : Option FileIdentity}
    {result : Option (Except Failure Unit)} :
    (keep id (.error failure) identity).run.Dialogue before talk result after ↔
      talk = [] ∧ result = some (.error failure) ∧ after = noted id identity before := by
  unfold keep modifyForest
  rw [Op.run_modifyState_bind, Act.dialogue_look_iff, Act.dialogue_store_iff]
  exact Act.dialogue_done_iff

theorem dialogue_keep_ok_iff {handle : Handle} {identity : Option FileIdentity}
    {result : Option (Except Failure Unit)} :
    (keep id (.ok handle) identity).run.Dialogue before talk result after ↔
      talk = [] ∧ result = some (.ok ()) ∧
        after = setHandle id handle (noted id identity before) := by
  unfold keep modifyForest
  rw [Op.run_modifyState_bind, Act.dialogue_look_iff, Act.dialogue_store_iff]
  exact Op.dialogue_modifyState_iff

theorem attached_of_dialogue {result : Option (Except Failure Unit)}
    (dialogue : (attach id).run.Dialogue before talk result after) :
    Attached before id talk result after := by
  unfold attach at dialogue
  rw [Op.run_getState_bind, Act.dialogue_look_iff] at dialogue
  dsimp only at dialogue
  split at dialogue
  next hopen =>
    obtain ⟨rfl, rfl, rfl⟩ := Act.dialogue_done_iff.mp dialogue
    exact .reused hopen
  next hclosed =>
    rw [Bool.not_eq_true, Option.isSome_eq_false_iff, Option.isNone_iff_eq_none] at hclosed
    rw [Op.run_ofAct_bind] at dialogue
    -- The first question is for the identity of the file.
    unfold Handle.openAt at dialogue
    change Act.Dialogue (((Act.query _).bind _).bind _) _ _ _ _ at dialogue
    rw [Act.bind_assoc, dialogue_query_bind_iff] at dialogue
    obtain ⟨found, rest, rfl, dialogue⟩ | ⟨-, rfl, rfl, rfl⟩ := dialogue
    · cases found with
      | error refusal =>
        obtain ⟨rfl, rfl, rfl⟩ := dialogue_keep_error_iff.mp dialogue
        -- What is noted is what was on record before.
        rw [noted_self]
        exact .hidden hclosed rfl
      | ok current =>
        dsimp only at dialogue
        split at dialogue
        next hother =>
          obtain ⟨known, hknown, hne⟩ := (Option.any_eq_true _ _).mp hother
          change ((Act.bind _ _).bind _).Dialogue _ _ _ _ at dialogue
          rw [Act.bind_assoc, dialogue_report_bind_iff] at dialogue
          obtain ⟨rest, rfl, dialogue⟩ := dialogue
          obtain ⟨rfl, rfl, rfl⟩ := dialogue_keep_error_iff.mp dialogue
          rw [noted_self]
          exact .replaced hclosed hknown (of_decide_eq_true hne)
        next hsame =>
          have hsame : ∀ known, (before.forest.adapter id).identity = some known →
              known = current := by
            intro known hknown
            simpa [hknown] using hsame
          -- The second question opens the file.
          change ((Act.bind _ _).bind _).Dialogue _ _ _ _ at dialogue
          rw [Act.bind_assoc, dialogue_query_bind_iff] at dialogue
          obtain ⟨opened, rest, rfl, dialogue⟩ | ⟨-, rfl, rfl, rfl⟩ := dialogue
          · cases opened with
            | error refusal =>
              obtain ⟨rfl, rfl, rfl⟩ := dialogue_keep_error_iff.mp dialogue
              exact .refused hclosed hsame rfl
            | ok file =>
              change ((Act.bind _ _).bind _).Dialogue _ _ _ _ at dialogue
              rw [Act.bind_assoc, dialogue_report_bind_iff] at dialogue
              obtain ⟨rest, rfl, dialogue⟩ := dialogue
              obtain ⟨rfl, rfl, rfl⟩ := dialogue_keep_ok_iff.mp dialogue
              exact .opened hclosed hsame
          · exact .openBroken hclosed hsame
    · exact .lookBroken hclosed

/-! ## The adapter at a path -/

/-- The adapter at a path, or why there is none. -/
def located (context : Context) (path : String) : Except Failure AdapterId :=
  match context.obstacle?, context.forest.resolve path with
  | some failure, _ => .error failure
  | none, .error refusal => .error (.path refusal)
  | none, .ok none => .error (.noAdapter path)
  | none, .ok (some id) => .ok id

theorem dialogue_adapter_iff {result : Option (Except Failure AdapterId)} :
    (adapter path).run.Dialogue before talk result after ↔
      talk = [] ∧ result = some (before.located path) ∧ after = before := by
  unfold adapter
  rw [Op.run_bind]
  unfold lookup
  rw [run_ensureReady_bind, Act.bind, Act.dialogue_look_iff]
  unfold located
  cases before.obstacle? with
  | some failure => exact Act.dialogue_done_iff
  | none =>
    dsimp only
    rw [Op.run_getState_bind, Act.bind, Act.dialogue_look_iff]
    cases before.forest.resolve path with
    | error refusal => exact Act.dialogue_done_iff
    | ok found =>
      cases found with
      | none => exact Act.dialogue_done_iff
      | some id => exact Act.dialogue_done_iff

theorem located_of_ready (hready : before.readiness = .ready) (path : String) :
    before.located path = match before.forest.resolve path with
      | .error refusal => .error (.path refusal)
      | .ok none => .error (.noAdapter path)
      | .ok (some id) => .ok id := by
  rw [located, obstacle?_eq_none_iff.mpr hready]
  cases before.forest.resolve path with
  | error refusal => rfl
  | ok found => cases found <;> rfl

theorem located_of_resolve (hready : before.readiness = .ready)
    (hid : before.forest.resolve path = .ok (some id)) : before.located path = .ok id := by
  rw [located_of_ready hready, hid]

/-- Nobody finds an adapter unless the context is ready. -/
theorem ready_of_located (hid : before.located path = .ok id) : before.readiness = .ready := by
  unfold located at hid
  cases hobstacle : before.obstacle? with
  | none => exact obstacle?_eq_none_iff.mp hobstacle
  | some failure =>
    rw [hobstacle] at hid
    cases hid

theorem resolve_of_located (hready : before.readiness = .ready) (hid : before.located path = .ok id) :
    before.forest.resolve path = .ok (some id) := by
  rw [located_of_ready hready] at hid
  split at hid
  · cases hid
  · cases hid
  next hresolve =>
    obtain rfl := Except.ok.inj hid
    exact hresolve

/-- Looks for the adapter at a path and opens its device file. -/
def connect (path : String) : Op Context AdapterId := do
  let id ← adapter path
  attach id
  return id

/-- What is said and done in one attempt. -/
inductive Connected (path : String) (before : Context) :
    List Exchange → Option (Except Failure AdapterId) → Context → Prop
  /-- There is no adapter at the path. -/
  | astray {failure : Failure} (hid : before.located path = .error failure) :
      Connected path before [] (some (.error failure)) before
  | attached {id : AdapterId} {talk : List Exchange} {outcome : Option (Except Failure Unit)}
      {after : Context} (hid : before.located path = .ok id)
      (attached : Attached before id talk outcome after) :
      Connected path before talk (outcome.map fun attached => attached.map fun _ => id) after

theorem dialogue_adapter_bind_iff {α : Type} {f : AdapterId → Op Context α}
    {result : Option (Except Failure α)} :
    (adapter path >>= f).run.Dialogue before talk result after ↔
      (∃ id, before.located path = .ok id ∧ (f id).run.Dialogue before talk result after) ∨
      ∃ failure, before.located path = .error failure ∧ talk = [] ∧
        result = some (.error failure) ∧ after = before := by
  rw [Op.dialogue_bind_iff]
  simp only [dialogue_adapter_iff]
  constructor
  · rintro (⟨id, _, _, rest, rfl, ⟨rfl, hid, rfl⟩, tail⟩ | ⟨failure, ⟨rfl, hid, rfl⟩, rfl⟩ |
      ⟨⟨-, hid, -⟩, -⟩)
    · exact .inl ⟨id, (Option.some.inj hid).symm, tail⟩
    · exact .inr ⟨failure, (Option.some.inj hid).symm, rfl, rfl, rfl⟩
    · cases hid
  · rintro (⟨id, hid, tail⟩ | ⟨failure, hid, rfl, rfl, rfl⟩)
    · exact .inl ⟨id, before, [], talk, rfl, ⟨rfl, by rw [hid], rfl⟩, tail⟩
    · exact .inr (.inl ⟨failure, ⟨rfl, by rw [hid], rfl⟩, rfl⟩)

theorem connected_of_dialogue {result : Option (Except Failure AdapterId)}
    (dialogue : (connect path).run.Dialogue before talk result after) :
    Connected path before talk result after := by
  obtain ⟨id, hid, dialogue⟩ | ⟨failure, hid, rfl, rfl, rfl⟩ :=
    dialogue_adapter_bind_iff.mp dialogue
  · obtain ⟨_, between, first, rest, rfl, head, tail⟩ | ⟨failure, head, rfl⟩ | ⟨head, rfl⟩ :=
      Op.dialogue_bind_iff.mp dialogue
    · obtain ⟨rfl, rfl, rfl⟩ := Act.dialogue_done_iff.mp tail
      rw [List.append_nil]
      exact .attached hid (attached_of_dialogue head)
    · exact .attached hid (attached_of_dialogue head)
    · exact .attached hid (attached_of_dialogue head)
  · exact .astray hid

theorem quiet_attach (id : AdapterId) : Quiet (attach id).run := by
  unfold attach
  refine .andThen (.of_readOnly (.look fun _ => .done)) fun context => ?_
  dsimp only
  split
  · exact .of_readOnly .done
  refine .andThen (.of_readOnly (.ofAct (Handle.readOnly_openAt _ _ _))) fun opened => ?_
  refine Quiet.andThen (.modifyState fun context => calm_modify context id _) fun _ => ?_
  split
  · exact .of_readOnly .done
  · exact .modifyState fun context => calm_modify context id _

theorem readOnly_adapter (path : String) : (adapter path).run.ReadOnly := by
  unfold adapter lookup ensureReady
  refine .andThen (.andThen (.andThen (.look fun _ => .done) fun context => ?_) fun _ =>
    .andThen (.look fun _ => .done) fun context => ?_) fun found => ?_
  · split <;> exact .done
  · split <;> exact .done
  · split <;> exact .done

theorem quiet_connect (path : String) : Quiet (connect path).run :=
  Quiet.andThen (.of_readOnly (readOnly_adapter path)) fun id =>
    (quiet_attach id).andThen fun _ => .of_readOnly .done

/-! ## Replaced files -/

/-- The device file of the adapter at a path is found not to be the one on record. -/
def FindsReplaced (context : Context) (path : String) (talk : List Exchange) : Prop :=
  ∃ id known current reports, context.forest.resolve path = .ok (some id) ∧
    (context.forest.adapter id).handle = none ∧
    (context.forest.adapter id).identity = some known ∧ known ≠ current ∧
    talk = .look (context.devicePath id) (.ok current) :: reports

theorem FindsReplaced.append {context : Context} (h : context.FindsReplaced path talk)
    (rest : List Exchange) : context.FindsReplaced path (talk ++ rest) := by
  obtain ⟨id, known, current, reports, hid, hclosed, hknown, hne, rfl⟩ := h
  exact ⟨id, known, current, reports ++ rest, hid, hclosed, hknown, hne, rfl⟩

/-- An attempt that finds a replaced file changes nothing. -/
theorem Attached.findsReplaced {failure : Failure} (hid : before.forest.resolve path = .ok (some id))
    (attached : Attached before id talk (some (.error failure)) after)
    (hstale : isStale failure = true) : before.FindsReplaced path talk ∧ after = before := by
  cases attached with
  | hidden _ hfresh => rw [hfresh] at hstale; cases hstale
  | replaced hclosed hknown hne => exact ⟨⟨id, _, _, _, hid, hclosed, hknown, hne, rfl⟩, rfl⟩
  | refused _ _ hfresh => rw [hfresh] at hstale; cases hstale

/-- An attempt that comes to anything else does not find a replaced file. -/
theorem Attached.not_findsReplaced {outcome : Option (Except Failure Unit)}
    (hid : before.forest.resolve path = .ok (some id)) (attached : Attached before id talk outcome after)
    (hfresh : ∀ failure, outcome = some (.error failure) → isStale failure = false) :
    ¬ before.FindsReplaced path talk := by
  rintro ⟨other, known, current, reports, hother, hclosed, hknown, hne, htalk⟩
  obtain rfl : id = other := Option.some.inj (Except.ok.inj (hid.symm.trans hother))
  cases attached with
  | reused hopen => cases htalk
  | lookBroken => cases htalk
  | hidden => cases htalk
  | replaced => cases hfresh _ rfl
  | openBroken _ hsame | refused _ hsame | opened _ hsame =>
    cases htalk
    exact hne (hsame known hknown)

end Context
end I2cTopology
