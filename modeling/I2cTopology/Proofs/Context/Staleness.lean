import I2cTopology.Proofs.Context.Binding
import I2cTopology.Proofs.Context.Retention

/-!
# Openings that find a replaced file twice

An attempt that finds a replaced device file raises a bit, and the context scans before its next attempt.
The scan between the two attempts of an opening takes the bit down again if it succeeds, and the second
attempt does not raise it: an opening that fails because the file was replaced once more leaves a context
that does not scan before the next opening.

* `Scan.unrelated_scan`: a scan never fails because a device file was replaced.
* `Opening.invalidated_iff`: the bit after an opening.
* `openHandle_stale`: the bit after an opening that found a replaced file, and after the calls that follow.
-/

namespace I2cTopology

open Op (failsWith_ofAct failsWith_pure failsWith_throw)

/-! ## Failures that tell of a replaced file -/

/-- The failure tells of something else than a replaced file. -/
def Failure.Unrelated (failure : Failure) : Prop :=
  Context.isStale failure = false

namespace Scan

variable {σ : Type}

theorem unrelated_checkMount (root : FilePath) (verify : Bool) :
    (checkMount root verify : Op σ Unit).FailsWith Failure.Unrelated := by
  refine .andThen (failsWith_ofAct _) fun found => ?_
  dsimp only
  split
  · exact failsWith_throw rfl
  split
  · refine .andThen (failsWith_ofAct _) fun sysfs => ?_
    split
    · exact failsWith_throw rfl
    · exact failsWith_pure _
  · exact failsWith_pure _

/-- A scan does not look whether device files were replaced. -/
theorem unrelated_scan (settings : Settings) :
    (scan settings : Op σ Forest).FailsWith Failure.Unrelated := by
  refine .andThen (unrelated_checkMount _ _) fun _ => .andThen (failsWith_ofAct _) fun listed => ?_
  refine .andThen ?_ fun names => .andThen (failsWith_ofAct _) fun adapters => ?_
  · cases listed with
    | error failure => exact failsWith_throw rfl
    | ok names => exact failsWith_pure _
  · split
    · exact failsWith_throw rfl
    · refine .andThen (failsWith_ofAct _) fun _ => .andThen (failsWith_ofAct _) fun forest => ?_
      exact .andThen (failsWith_ofAct _) fun _ => failsWith_pure _

end Scan

namespace Context

variable {before between after context : Context} {path : String} {id : AdapterId}
  {talk : List Exchange} {failure : Failure}

theorem unrelated_of_obstacle? (hobstacle : before.obstacle? = some failure) : failure.Unrelated := by
  unfold obstacle? at hobstacle
  split at hobstacle <;> cases hobstacle <;> rfl

theorem unrelated_of_located (hid : before.located path = .error failure) : failure.Unrelated := by
  unfold located at hid
  split at hid
  next hobstacle =>
    obtain rfl := Except.error.inj hid
    exact unrelated_of_obstacle? hobstacle
  all_goals cases hid <;> rfl

theorem unrelated_of_rescan (scan : rescan.run.Dialogue before talk (some (.error failure)) after) :
    failure.Unrelated := by
  cases hobstacle : before.obstacle? with
  | none =>
    cases rescanDialogue_of_ready (obstacle?_eq_none_iff.mp hobstacle) scan with
    | failed scanned => exact (Scan.unrelated_scan before.settings).of_dialogue scanned
  | some other =>
    obtain ⟨-, hresult, -⟩ := ((refuses_ensureReady hobstacle).andThen _ _ _ _).mp scan.runs
    obtain rfl := Except.error.inj (Option.some.inj hresult)
    exact unrelated_of_obstacle? hobstacle

/-! ## The bit after an opening -/

/-- An attempt leaves the bit alone, also if it finds a replaced file. -/
theorem Connected.invalidated_eq {outcome : Option (Except Failure AdapterId)}
    (connected : Connected path before talk outcome after) : after.invalidated = before.invalidated := by
  cases connected with
  | astray => rfl
  | attached _ attached => exact attached.invalidated_eq

/-- An attempt that fails because the file was replaced has found that it was. -/
theorem Connected.findsReplaced (hready : before.readiness = .ready) (hstale : isStale failure = true)
    (connected : Connected path before talk (some (.error failure)) after) :
    before.FindsReplaced path talk ∧ after = before := by
  generalize hresult : some (Except.error failure) = result at connected
  cases connected with
  | astray hid =>
    obtain rfl := Except.error.inj (Option.some.inj hresult)
    exact absurd hstale (Bool.eq_false_iff.mp (unrelated_of_located hid))
  | @attached other _ outcome _ hid attached =>
    match outcome with
    | none => cases hresult
    | some (.ok ()) => cases hresult
    | some (.error found) =>
      cases hresult
      exact attached.findsReplaced (resolve_of_located hready hid) hstale

theorem valid_of_rescan (hready : before.readiness = .ready)
    (scan : rescan.run.Dialogue before talk (some (.ok ())) after) : after.invalidated = false := by
  cases rescanDialogue_of_ready hready scan with
  | succeeded => rfl

theorem raised_of_rescan {result : Option (Except Failure Unit)} (hready : before.readiness = .ready)
    (hraised : before.invalidated = true) (scan : rescan.run.Dialogue before talk result after)
    (hresult : result ≠ some (.ok ())) : after.invalidated = true := by
  cases rescanDialogue_of_ready hready scan with
  | brokenOff => exact hraised
  | failed => exact hraised
  | succeeded => exact absurd rfl hresult

/-- The attempts leave the bit up if the rescan between them does not succeed. -/
theorem Connecting.invalidated_iff {late : List RescanEnd} {result : Option (Except Failure AdapterId)}
    (hready : before.readiness = .ready) (hvalid : before.invalidated = false)
    (connecting : Connecting path before talk late result after) :
    after.invalidated = true ↔ ∃ finish ∈ late, finish ≠ .succeeded := by
  have hraised : ({ before with invalidated := true } : Context).readiness = .ready := hready
  cases connecting with
  | settled connected => simp [connected.invalidated_eq, hvalid]
  | broken _ scan => simpa using raised_of_rescan hraised rfl scan nofun
  | failed _ scan => simpa using raised_of_rescan hraised rfl scan nofun
  | retried _ scan connected => simp [connected.invalidated_eq, valid_of_rescan hraised scan]

/-- After an opening the bit is up exactly if a rescan in it did not succeed. -/
theorem Opening.invalidated_iff {early late : List RescanEnd}
    {result : Option (Except Failure AdapterId)} (hready : before.readiness = .ready)
    (opening : Opening path before talk early late result after) :
    after.invalidated = true ↔ ∃ finish ∈ early ++ late, finish ≠ .succeeded := by
  cases opening with
  | broken hraised scan => simpa using raised_of_rescan hready hraised scan nofun
  | failed hraised scan => simpa using raised_of_rescan hready hraised scan nofun
  | rescanned _ scan connecting =>
    have hbetween := (closed_of_rescan hready scan).1
    simpa using connecting.invalidated_iff hbetween (valid_of_rescan hready scan)
  | direct hvalid connecting => simpa using connecting.invalidated_iff hready hvalid

/-- Attempts that fail because the file was replaced are two, with a rescan between them, and the second one
finds the file replaced again. -/
theorem Connecting.stale {late : List RescanEnd} (hready : before.readiness = .ready)
    (hstale : isStale failure = true)
    (connecting : Connecting path before talk late (some (.error failure)) after) :
    late = [.succeeded] ∧ after.readiness = .ready ∧
      ∃ front last, talk = front ++ last ∧ after.FindsReplaced path last := by
  generalize hresult : some (Except.error failure) = result at connecting
  cases connecting with
  | settled connected hsame =>
    subst hresult
    exact absurd (connected.findsReplaced hready hstale).1 hsame
  | broken => cases hresult
  | failed _ scan =>
    obtain rfl := Except.error.inj (Option.some.inj hresult)
    exact absurd hstale (Bool.eq_false_iff.mp (unrelated_of_rescan scan))
  | @retried first second third between _ _ _ scan connected =>
    subst hresult
    have hraised : ({ before with invalidated := true } : Context).readiness = .ready := hready
    have hbetween := (closed_of_rescan hraised scan).1
    obtain ⟨hfinds, rfl⟩ := connected.findsReplaced hbetween hstale
    exact ⟨rfl, hbetween, first ++ second, third, (List.append_assoc ..).symm, hfinds⟩

/-- An opening that fails because the file was replaced ends after a rescan that succeeded. -/
theorem Opening.stale {early late : List RescanEnd} (hready : before.readiness = .ready)
    (hstale : isStale failure = true)
    (opening : Opening path before talk early late (some (.error failure)) after) :
    late = [.succeeded] ∧ (∀ finish ∈ early, finish = .succeeded) ∧ after.readiness = .ready ∧
      ∃ front last, talk = front ++ last ∧ after.FindsReplaced path last := by
  generalize hresult : some (Except.error failure) = result at opening
  cases opening with
  | broken => cases hresult
  | failed _ scan =>
    obtain rfl := Except.error.inj (Option.some.inj hresult)
    exact absurd hstale (Bool.eq_false_iff.mp (unrelated_of_rescan scan))
  | @rescanned first _ _ _ _ _ _ scan connecting =>
    subst hresult
    obtain ⟨hlate, hafter, front, last, rfl, hfinds⟩ :=
      connecting.stale (closed_of_rescan hready scan).1 hstale
    exact ⟨hlate, by simp, hafter, first ++ front, last, (List.append_assoc ..).symm, hfinds⟩
  | direct _ connecting =>
    subst hresult
    obtain ⟨hlate, hafter, hfinds⟩ := connecting.stale hready hstale
    exact ⟨hlate, by simp, hafter, hfinds⟩

/-! ## Openings that fail -/

/-- A context that is not ready does not look at device files. -/
theorem ready_of_stale (hstale : isStale failure = true)
    (dialogue : (openHandle path).run.Dialogue before talk (some (.error failure)) after) :
    before.readiness = .ready := by
  cases hobstacle : before.obstacle? with
  | none => exact obstacle?_eq_none_iff.mp hobstacle
  | some other =>
    obtain ⟨-, hresult, -⟩ := ((refuses_ensureReady hobstacle).andThen _ _ _ _).mp dialogue.runs
    obtain rfl := Except.error.inj (Option.some.inj hresult)
    exact absurd hstale (Bool.eq_false_iff.mp (unrelated_of_obstacle? hobstacle))

/-- A context that is not invalidated does not scan before its attempts. -/
theorem dialogue_openHandle_of_valid {result : Option (Except Failure AdapterId)}
    (hready : before.readiness = .ready) (hvalid : before.invalidated = false) :
    (openHandle path).run.Dialogue before talk result after ↔
      (connectTwice path).run.Dialogue before talk result after := by
  rw [openHandle_eq, run_ensureReady_bind, Act.dialogue_look_iff, obstacle?_eq_none_iff.mpr hready]
  dsimp only
  rw [Op.run_getState_bind, Act.dialogue_look_iff, hvalid]
  rfl

/-- **Openings that find a replaced file.**  Whatever the machine answers and in every context:

* if an opening fails because the file was replaced, its last attempt has found the file replaced after a
  rescan that succeeded, and the bit is down: the next opening does not scan before its first attempt;
* after an opening of a ready context the bit is up exactly if a rescan in it did not succeed, and there is
  one rescan if the context was not invalidated and its attempt finds a replaced file;
* a bit that is up stays up through all calls until a rescan succeeds or the context is initialized or
  cleaned up. -/
theorem openHandle_stale {context : Context} (path : String) :
    (∀ talk nr after, (openHandle path).run.Dialogue context talk (some (.error (.staleHandle nr))) after →
      context.rescans < after.rescans ∧
      (∃ front last, talk = front ++ last ∧ after.FindsReplaced path last) ∧
      after.invalidated = false ∧
      ∀ other talk result final, (openHandle other).run.Dialogue after talk result final ↔
        (connectTwice other).run.Dialogue after talk result final) ∧
    (∀ talk result after, context.readiness = .ready →
      (openHandle path).run.Dialogue context talk result after →
        ∃ ends, Recorded (openHandle path).run context (talk.map Exchange.question) ends result after ∧
          (after.invalidated = true ↔ ∃ finish ∈ ends, finish ≠ .succeeded) ∧
          (context.invalidated = false → context.FindsReplaced path talk → ends.length = 1)) ∧
    (∀ steps after, Continued context steps after → context.invalidated = true →
      (∀ step ∈ steps, ¬ step.Settles) → after.invalidated = true) := by
  refine ⟨fun talk nr after dialogue => ?_, fun talk result after hready dialogue => ?_,
    fun steps after continued => continued.invalidated⟩
  · have hready := ready_of_stale rfl dialogue
    obtain ⟨early, late, opening, recorded⟩ := opening_of_dialogue hready dialogue
    obtain ⟨rfl, hearly, hafter, hfinds⟩ := opening.stale hready rfl
    have hvalid : after.invalidated = false := by
      rw [Bool.eq_false_iff, ne_eq, opening.invalidated_iff hready]
      simpa using hearly
    refine ⟨?_, hfinds, hvalid, fun _ _ _ _ => dialogue_openHandle_of_valid hafter hvalid⟩
    rw [recorded.rescans_eq, List.count_append]
    simp
  · obtain ⟨early, late, opening, recorded⟩ := opening_of_dialogue hready dialogue
    refine ⟨_, recorded, opening.invalidated_iff hready, fun hvalid hfinds => ?_⟩
    cases opening with
    | direct _ connecting =>
      obtain ⟨hlength, hlate, -⟩ := connecting.rescans hready
      have hsome := List.length_pos_iff.mpr (hlate.mpr hfinds)
      rw [List.nil_append]
      omega
    | _ hraised =>
      rw [hvalid] at hraised
      cases hraised

/-- The machine of the bench, where scans see another device file than the one that is opened. -/
def shiftingMachine (query : Query) (files : FilePath → Option FileIdentity) :
    query.Answer × (FilePath → Option FileIdentity) :=
  match query with
  | .identity _ => (some ⟨3, 4⟩, files)
  | other => benchMachine other files

/-- A file that is replaced between the scan and the second attempt is reported, and the bit is down.  A
rescan that is broken off leaves it up. -/
theorem openHandle_stale_bench :
    (∃ talk after,
      (openHandle "0").run.Dialogue recordedContext talk (some (.error (.staleHandle 0))) after ∧
        after.invalidated = false ∧ recordedContext.rescans < after.rescans) ∧
    ∃ after, Continued sampleContext [⟨.rescan, [.brokenOff]⟩] after ∧ after.invalidated = true := by
  constructor
  · have hopen : ((openHandle "0").run.run shiftingMachine recordedContext fun _ => some ⟨1, 2⟩).1 =
        some (.error (.staleHandle 0)) := by
      with_unfolding_all rfl
    obtain ⟨talk, dialogue, -⟩ := Act.exists_dialogue_of_run shiftingMachine (openHandle "0").run
      recordedContext fun _ => some ⟨1, 2⟩
    rw [hopen] at dialogue
    obtain ⟨hrescans, -, hvalid, -⟩ := (openHandle_stale "0").1 talk 0 _ dialogue
    exact ⟨talk, _, dialogue, hvalid, hrescans⟩
  · have hrescan : Recorded (Call.op .rescan).run sampleContext [.isDirectory ⟨"/sys"⟩] [.brokenOff] none
        sampleContext.occupied := by
      show Recorded rescan.run _ _ _ _ _
      rw [← Act.bind_done rescan.run]
      exact .rescanBroken (.look (.look (.store (.look (.broken rfl)))))
    have continued : Continued sampleContext ([] ++ [⟨.rescan, [.brokenOff]⟩]) sampleContext.occupied :=
      Continued.start.step hrescan
    have hsettles : ∀ step ∈ [(⟨.rescan, [.brokenOff]⟩ : Step)], ¬ step.Settles := by
      simp [Step.Settles]
    exact ⟨_, continued, (openHandle_stale "0").2.2 _ _ continued rfl hsettles⟩

end Context
end I2cTopology
