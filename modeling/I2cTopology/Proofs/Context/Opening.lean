import I2cTopology.Proofs.Context.Attempts
import I2cTopology.Proofs.Survey

/-!
# Opening a handle

A handle is opened in one or two attempts.  An invalidated context scans before the first attempt, and a
first attempt that found a replaced file is followed by a scan and the second attempt.

* `openHandle_eq`: the attempts, and what stands before and between them.
* `Opening`, `opening_of_dialogue`: what is said and done when a handle is opened.
* `Opening.exists_connected`: a success is the success of the last attempt.
-/

namespace I2cTopology

open Act (dialogue_bind_iff dialogue_report_bind_iff)

namespace Context

variable {before between after : Context} {path : String} {id : AdapterId} {talk : List Exchange}

/-! ## The attempts -/

/-- What follows an attempt that found a replaced file. -/
def connectAgain (path : String) (failure : Failure) : Op Context AdapterId := do
  Op.report .info .context s!"{failure.message}, rescanning"
  invalidate
  rescan
  connect path

/-- What follows the first attempt. -/
def conclude (path : String) (id : AdapterId) : Except Failure Unit → Op Context AdapterId
  | .ok _ => return id
  | .error failure => if isStale failure then connectAgain path failure else throw failure

/-- The attempts to open a handle. -/
def connectTwice (path : String) : Op Context AdapterId := do
  let first ← adapter path
  conclude path first (← Op.outcome (attach first))

/-- Before the attempts an invalidated context scans. -/
theorem openHandle_eq (path : String) : openHandle path = (do
    ensureReady
    if (← Op.getState).invalidated then
      rescan
    connectTwice path) := rfl

/-- What is said and done in the attempts, with the end of the rescan between them. -/
inductive Connecting (path : String) (before : Context) :
    List Exchange → List RescanEnd → Option (Except Failure AdapterId) → Context → Prop
  | settled {talk : List Exchange} {outcome : Option (Except Failure AdapterId)} {after : Context}
      (connected : Connected path before talk outcome after)
      (hsame : ¬ before.FindsReplaced path talk) : Connecting path before talk [] outcome after
  | broken {first second : List Exchange} {after : Context}
      (replaced : before.FindsReplaced path first)
      (scan : rescan.run.Dialogue { before with invalidated := true } second none after) :
      Connecting path before (first ++ second) [.brokenOff] none after
  | failed {first second : List Exchange} {failure : Failure} {after : Context}
      (replaced : before.FindsReplaced path first)
      (scan : rescan.run.Dialogue { before with invalidated := true } second
        (some (.error failure)) after) :
      Connecting path before (first ++ second) [.failed] (some (.error failure)) after
  | retried {first second third : List Exchange} {between after : Context}
      {outcome : Option (Except Failure AdapterId)} (replaced : before.FindsReplaced path first)
      (scan : rescan.run.Dialogue { before with invalidated := true } second (some (.ok ())) between)
      (connected : Connected path between third outcome after) :
      Connecting path before (first ++ (second ++ third)) [.succeeded] outcome after

/-- What is said and done to open a handle, with the ends of the rescans before the attempts and between
them. -/
inductive Opening (path : String) (before : Context) :
    List Exchange → List RescanEnd → List RescanEnd → Option (Except Failure AdapterId) → Context →
      Prop
  | broken {talk : List Exchange} {after : Context} (hinvalidated : before.invalidated = true)
      (scan : rescan.run.Dialogue before talk none after) :
      Opening path before talk [.brokenOff] [] none after
  | failed {talk : List Exchange} {failure : Failure} {after : Context}
      (hinvalidated : before.invalidated = true)
      (scan : rescan.run.Dialogue before talk (some (.error failure)) after) :
      Opening path before talk [.failed] [] (some (.error failure)) after
  | rescanned {first second : List Exchange} {ends : List RescanEnd} {between after : Context}
      {outcome : Option (Except Failure AdapterId)} (hinvalidated : before.invalidated = true)
      (scan : rescan.run.Dialogue before first (some (.ok ())) between)
      (connecting : Connecting path between second ends outcome after) :
      Opening path before (first ++ second) [.succeeded] ends outcome after
  | direct {talk : List Exchange} {ends : List RescanEnd} {after : Context}
      {outcome : Option (Except Failure AdapterId)} (hvalid : before.invalidated = false)
      (connecting : Connecting path before talk ends outcome after) :
      Opening path before talk [] ends outcome after

/-! ## Openings are all there is -/

/-- The notice of a second attempt. -/
def againNotice (failure : Failure) : Exchange :=
  .notice .info .context s!"{failure.message}, rescanning"

theorem dialogue_connectAgain_iff {failure : Failure} {result : Option (Except Failure AdapterId)} :
    (connectAgain path failure).run.Dialogue before talk result after ↔
      ∃ rest, talk = againNotice failure :: rest ∧
        (rescan >>= fun _ => connect path).run.Dialogue { before with invalidated := true } rest
          result after := by
  unfold connectAgain invalidate
  rw [Op.run_report_bind, dialogue_report_bind_iff]
  simp only [Op.run_modifyState_bind, Act.dialogue_look_iff, Act.dialogue_store_iff]
  rfl

theorem recorded_connectAgain {failure : Failure} {asked : List Query} {ends : List RescanEnd}
    {result : Option (Except Failure AdapterId)}
    (recorded : Recorded (rescan >>= fun _ => connect path).run { before with invalidated := true }
      asked ends result after) :
    Recorded (connectAgain path failure).run before ((againNotice failure).question :: asked) ends
      result after :=
  .ask (show (Query.report _).Answer from ()) (.look (.store (calm_invalidated before) recorded))

theorem connecting_of_connectAgain {failure : Failure} {first : List Exchange}
    {result : Option (Except Failure AdapterId)} (replaced : before.FindsReplaced path first)
    (dialogue : (connectAgain path failure).run.Dialogue before talk result after) :
    ∃ ends, Connecting path before (first ++ talk) ends result after ∧
      Recorded (connectAgain path failure).run before (talk.map Exchange.question) ends result
        after := by
  obtain ⟨rest, rfl, again⟩ := dialogue_connectAgain_iff.mp dialogue
  -- The notice belongs to what was said in the first attempt.
  have hreplaced := replaced.append [againNotice failure]
  rw [List.append_cons, List.map_cons]
  obtain ⟨_, between, second, third, rfl, scan, tail⟩ | ⟨failure, scan, rfl⟩ | ⟨scan, rfl⟩ :=
    Op.dialogue_bind_iff.mp again
  · refine ⟨_, .retried hreplaced scan (connected_of_dialogue tail), recorded_connectAgain ?_⟩
    rw [List.map_append]
    exact (Recorded.of_rescan scan.runs).andThen (quiet_connect path _ _ _ _ tail.runs)
  · exact ⟨_, .failed hreplaced scan,
      recorded_connectAgain (Recorded.of_rescan scan.runs).andThen_failed⟩
  · exact ⟨_, .broken hreplaced scan,
      recorded_connectAgain (Recorded.of_rescan scan.runs).andThen_broken⟩

/-- What is made of the outcome of the first attempt. -/
theorem connecting_of_conclude {outcome : Except Failure Unit} {first rest : List Exchange}
    {result : Option (Except Failure AdapterId)} (hready : before.readiness = .ready)
    (hid : before.located path = .ok id) (attached : Attached before id first (some outcome) between)
    (dialogue : (conclude path id outcome).run.Dialogue between rest result after) :
    ∃ ends, Connecting path before (first ++ rest) ends result after ∧
      Recorded (conclude path id outcome).run between (rest.map Exchange.question) ends result
        after := by
  have hresolve := resolve_of_located hready hid
  cases outcome with
  | ok _ =>
    obtain ⟨rfl, rfl, rfl⟩ := Act.dialogue_done_iff.mp dialogue
    rw [List.append_nil]
    exact ⟨[], .settled (.attached hid attached) (attached.not_findsReplaced hresolve nofun), .done⟩
  | error failure =>
    simp only [conclude] at dialogue ⊢
    by_cases hstale : isStale failure = true
    · obtain ⟨hreplaced, rfl⟩ := attached.findsReplaced hresolve hstale
      rw [if_pos hstale] at dialogue ⊢
      exact connecting_of_connectAgain hreplaced dialogue
    · rw [if_neg hstale] at dialogue ⊢
      obtain ⟨rfl, rfl, rfl⟩ := Act.dialogue_done_iff.mp dialogue
      rw [List.append_nil]
      refine ⟨[], .settled (.attached hid attached) (attached.not_findsReplaced hresolve ?_), .done⟩
      intro other hother
      obtain rfl := Except.error.inj (Option.some.inj hother)
      exact Bool.eq_false_iff.mpr hstale

theorem connecting_of_dialogue {result : Option (Except Failure AdapterId)}
    (hready : before.readiness = .ready)
    (dialogue : (connectTwice path).run.Dialogue before talk result after) :
    ∃ ends, Connecting path before talk ends result after ∧
      Recorded (connectTwice path).run before (talk.map Exchange.question) ends result after := by
  have hadapter : Recorded (adapter path).run before [] [] (some (before.located path)) before :=
    .of_readOnly (readOnly_adapter path) (dialogue_adapter_iff.mpr ⟨rfl, rfl, rfl⟩).runs
  obtain ⟨id, hid, dialogue⟩ | ⟨failure, hid, rfl, rfl, rfl⟩ :=
    dialogue_adapter_bind_iff.mp dialogue
  · rw [hid] at hadapter
    rw [Op.run_outcome_bind, dialogue_bind_iff] at dialogue
    obtain ⟨outcome, between, first, rest, rfl, head, tail⟩ | ⟨rfl, head⟩ := dialogue
    · obtain ⟨ends, connecting, recorded⟩ :=
        connecting_of_conclude hready hid (attached_of_dialogue head) tail
      refine ⟨ends, connecting, hadapter.andThen ?_⟩
      rw [Op.run_outcome_bind, List.map_append]
      exact (quiet_attach id _ _ _ _ head.runs).bind recorded
    · have hattached := attached_of_dialogue head
      have hsame := hattached.not_findsReplaced (resolve_of_located hready hid) nofun
      refine ⟨[], .settled (.attached hid hattached) hsame, hadapter.andThen ?_⟩
      rw [Op.run_outcome_bind]
      exact (quiet_attach id _ _ _ _ head.runs).bind_broken
  · rw [hid] at hadapter
    refine ⟨[], .settled (.astray hid) ?_, hadapter.andThen_failed⟩
    rintro ⟨_, _, _, _, _, _, _, _, htalk⟩
    cases htalk

/-- **Openings.**  Whatever is said when a ready context opens a handle, it is an opening, and its rescans
are on record. -/
theorem opening_of_dialogue {result : Option (Except Failure AdapterId)}
    (hready : before.readiness = .ready)
    (dialogue : (openHandle path).run.Dialogue before talk result after) :
    ∃ early late, Opening path before talk early late result after ∧
      Recorded (openHandle path).run before (talk.map Exchange.question) (early ++ late) result
        after := by
  have hobstacle := obstacle?_eq_none_iff.mpr hready
  -- A ready context passes the look at its state, on record and in dialogues alike.
  have hrecorded {asked : List Query} {ends : List RescanEnd}
      (recorded : Recorded (if before.invalidated then rescan >>= fun _ => connectTwice path
        else connectTwice path : Op Context AdapterId).run before asked ends result after) :
      Recorded (openHandle path).run before asked ends result after := by
    rw [openHandle_eq, run_ensureReady_bind]
    refine .look ?_
    rw [hobstacle]
    exact .look recorded
  rw [openHandle_eq, run_ensureReady_bind, Act.dialogue_look_iff, hobstacle] at dialogue
  dsimp only at dialogue
  rw [Op.run_getState_bind, Act.dialogue_look_iff] at dialogue
  cases hinvalidated : before.invalidated with
  | false =>
    rw [hinvalidated] at dialogue hrecorded
    obtain ⟨ends, connecting, recorded⟩ := connecting_of_dialogue hready dialogue
    exact ⟨[], ends, .direct hinvalidated connecting, hrecorded recorded⟩
  | true =>
    rw [hinvalidated] at dialogue hrecorded
    obtain ⟨_, between, first, rest, rfl, scan, tail⟩ | ⟨failure, scan, rfl⟩ | ⟨scan, rfl⟩ :=
      Op.dialogue_bind_iff.mp dialogue
    · have hbetween : between.readiness = .ready := by
        cases rescanDialogue_of_ready hready scan with
        | succeeded => exact hready
      obtain ⟨ends, connecting, recorded⟩ := connecting_of_dialogue hbetween tail
      refine ⟨_, ends, .rescanned hinvalidated scan connecting, hrecorded ?_⟩
      rw [List.map_append]
      exact (Recorded.of_rescan scan.runs).andThen recorded
    · exact ⟨_, [], .failed hinvalidated scan,
        hrecorded (Recorded.of_rescan scan.runs).andThen_failed⟩
    · exact ⟨_, [], .broken hinvalidated scan,
        hrecorded (Recorded.of_rescan scan.runs).andThen_broken⟩

/-! ## Successes -/

/-- A context that came out of a rescan has a forest that nobody has opened. -/
theorem closed_of_rescan (hready : before.readiness = .ready)
    (scan : rescan.run.Dialogue before talk (some (.ok ())) after) :
    after.readiness = .ready ∧ after.forest.Surveyed ∧ after.forest.Closed := by
  cases rescanDialogue_of_ready hready scan with
  | succeeded scanned =>
    exact ⟨hready, (Scan.ensures_scan before.settings).of_dialogue scanned⟩

theorem Connected.attached_of_ok (connected : Connected path before talk (some (.ok id)) after) :
    before.located path = .ok id ∧ Attached before id talk (some (.ok ())) after := by
  generalize hresult : some (Except.ok id) = result at connected
  cases connected with
  | astray => cases hresult
  | @attached other _ outcome _ hid attached =>
    match outcome with
    | none => cases hresult
    | some (.error failure) => cases hresult
    | some (.ok ()) =>
      cases hresult
      exact ⟨hid, attached⟩

/-- **Successes.**  A handle that was opened was opened by the last attempt: at once, or after a rescan. -/
theorem Opening.exists_connected {early late : List RescanEnd} (hready : before.readiness = .ready)
    (opening : Opening path before talk early late (some (.ok id)) after) :
    ∃ front last between, talk = front ++ last ∧ between.readiness = .ready ∧
      (before.invalidated = false ∧ front = [] ∧ between = before ∨
        between.forest.Surveyed ∧ between.forest.Closed) ∧
      Connected path between last (some (.ok id)) after := by
  have hconnecting {between : Context} {talk : List Exchange} {late : List RescanEnd}
      (hready : between.readiness = .ready)
      (connecting : Connecting path between talk late (some (.ok id)) after) :
      ∃ front last final, talk = front ++ last ∧ final.readiness = .ready ∧
        (front = [] ∧ final = between ∨ final.forest.Surveyed ∧ final.forest.Closed) ∧
        Connected path final last (some (.ok id)) after := by
    cases connecting with
    | settled connected => exact ⟨[], talk, between, rfl, hready, .inl ⟨rfl, rfl⟩, connected⟩
    | @retried first second third final _ _ _ scan connected =>
      have hinvalidated : { between with invalidated := true : Context }.readiness = .ready := hready
      obtain ⟨hfinal, hforest⟩ := closed_of_rescan hinvalidated scan
      exact ⟨first ++ second, third, final, (List.append_assoc ..).symm, hfinal, .inr hforest,
        connected⟩
  cases opening with
  | @rescanned first _ _ between _ _ _ scan connecting =>
    -- Whether there is a second scan or not, the forest is that of a scan.
    obtain ⟨hbetween, hforest⟩ := closed_of_rescan hready scan
    obtain ⟨front, last, final, rfl, hfinal, hold, connected⟩ := hconnecting hbetween connecting
    refine ⟨first ++ front, last, final, (List.append_assoc ..).symm, hfinal, .inr ?_, connected⟩
    obtain ⟨-, rfl⟩ | hnew := hold
    · exact hforest
    · exact hnew
  | direct hvalid connecting =>
    obtain ⟨front, last, final, htalk, hfinal, hold, connected⟩ := hconnecting hready connecting
    exact ⟨front, last, final, htalk, hfinal, hold.imp_left fun h => ⟨hvalid, h⟩, connected⟩

end Context
end I2cTopology
