import I2cTopology.Proofs.Context.ControlSafety

/-!
# Machines that can be scanned

What a scan of a machine comes to is shown by the state that the machine is in.  Questions change nothing
about that, and what a value that is written changes is for the machine to say.

* `ShowsForest`: each state of the machine shows a forest, and every scan finds it.
* `rescan_of_showsForest`: a rescan on such a machine succeeds.
* `Attempted`: the attempts to add or to remove a chip on a machine.
-/

namespace I2cTopology

/-- The value that was written and accepted. -/
def Exchange.accepted? : Exchange → Option Write
  | ⟨.writeAttribute dir name value, some (.ok _)⟩ => some ⟨dir, name, value⟩
  | _ => none

/-- What was written and accepted in a talk. -/
def accepted (talk : List Exchange) : List Write :=
  talk.filterMap Exchange.accepted?

@[simp] theorem accepted_append (first rest : List Exchange) :
    accepted (first ++ rest) = accepted first ++ accepted rest :=
  List.filterMap_append

/-- Nothing is accepted but what was written. -/
theorem accepted_of_written {talk : List Exchange} (h : written talk = []) : accepted talk = [] := by
  rw [written, List.filterMap_eq_nil_iff] at h
  rw [accepted, List.filterMap_eq_nil_iff]
  rintro ⟨question, answer⟩ hmem
  have hnone := h _ hmem
  cases question with
  | writeAttribute => cases hnone
  | _ => rfl

namespace Act.Machine

variable {μ κ : Type} {machine : Machine μ} {world final : μ} {talk : List Exchange}

/-- What no question changes stays as long as nothing is written. -/
theorem Answers.view_eq {view : μ → κ}
    (still : ∀ query world, query.write? = none → view (machine query world).2 = view world)
    (answers : machine.Answers world talk final) (hwritten : written talk = []) :
    view final = view world := by
  rw [written, List.filterMap_eq_nil_iff] at hwritten
  induction answers with
  | nil => rfl
  | cons _ ih =>
    obtain ⟨hfirst, hrest⟩ := List.forall_mem_cons.mp hwritten
    rw [ih hrest, still _ _ hfirst]

/-- Every scan of the machine finds the forest that the state of the machine shows, and as long as nothing is
written, the states that follow show the same. -/
structure ShowsForest (machine : Machine μ) (settings : Settings) (shown : μ → Forest) : Prop where
  scan : ∀ (context : Context) world,
    ((Scan.scan settings).run.run machine context world).1 = some (.ok (shown world))
  still : ∀ query world, query.write? = none → shown (machine query world).2 = shown world

/-- What comes of an attempt to write a value if an address is taken, or if it is free, and what is accepted
on the way. No question changes the view of the machine. -/
inductive Attempted (machine : Machine μ) (view : μ → κ) (path : FilePath) (taken : Bool) (write : Write)
    (world final : μ) (talk : List Exchange) : Option (Except Failure Bool) → Prop
  | spared (hfound : (machine (.present path) world).1 = !taken) (hfinal : view final = view world)
      (haccepted : accepted talk = []) :
      Attempted machine view path taken write world final talk (some (.ok false))
  | refused {between : μ} {refusal : FileFailure} {failure : Failure}
      (hfound : (machine (.present path) world).1 = taken) (hbetween : view between = view world)
      (hanswer : (machine write.query between).1 = (.error refusal : Except FileFailure Unit))
      (hfinal : final = (machine write.query between).2)
      (hsaid : Exchange.writing write (.error refusal) ∈ talk) (haccepted : accepted talk = []) :
      Attempted machine view path taken write world final talk (some (.error failure))
  | accepted {between : μ} (hfound : (machine (.present path) world).1 = taken)
      (hbetween : view between = view world)
      (hanswer : (machine write.query between).1 = (.ok () : Except FileFailure Unit))
      (hfinal : final = (machine write.query between).2) (haccepted : accepted talk = [write]) :
      Attempted machine view path taken write world final talk (some (.ok true))

end Act.Machine

namespace Context

variable {μ κ : Type} {machine : Act.Machine μ} {world final : μ} {before after : Context}
  {talk : List Exchange}

/-- A rescan finds what the machine shows. -/
theorem rescan_of_showsForest {shown : μ → Forest} {result : Option (Except Failure Unit)}
    (shows : machine.ShowsForest before.settings shown) (hready : before.readiness = .ready)
    (dialogue : rescan.run.Dialogue before talk result after)
    (answers : machine.Answers world talk final) :
    result = some (.ok ()) ∧ after = before.renewed (shown world) ∧ shown final = shown world := by
  have hstill := answers.view_eq shows.still (writesNothing_rescan.written_eq_nil dialogue)
  have hscan {said : List Exchange} {outcome : Option (Except Failure Forest)} {between : μ}
      (scan : before.Scanned said outcome) (answers : machine.Answers world said between) :
      outcome = some (.ok (shown world)) := by
    have hrun := shows.scan before.occupied world
    rw [scan.run_eq answers] at hrun
    exact hrun
  cases rescanDialogue_of_ready hready dialogue with
  | brokenOff scan => cases hscan scan answers
  | failed scan =>
    obtain ⟨between, head, -⟩ := Act.Machine.answers_append_iff.mp answers
    cases hscan scan head
  | succeeded scan =>
    obtain ⟨between, head, -⟩ := Act.Machine.answers_append_iff.mp answers
    obtain rfl := Except.ok.inj (Option.some.inj (hscan scan head))
    exact ⟨rfl, rfl, hstill⟩

/-- An attempt as the machine answers it. -/
theorem Attempt.attempted {view : μ → κ} {path : FilePath} {taken : Bool} {write : Write}
    {result : Option (Except Failure Bool)}
    (still : ∀ query world, query.write? = none → view (machine query world).2 = view world)
    (attempt : Attempt path taken write talk result) (answers : machine.Answers world talk final) :
    machine.Attempted view path taken write world final talk result := by
  cases attempt with
  | checkBroken => cases answers
  | @spared reports unasked =>
    obtain ⟨hfound, hrest⟩ := Act.Machine.answers_cons_iff.mp answers
    have hreports := written_of_unasked unasked
    refine .spared (Option.some.inj hfound).symm ?_ (accepted_of_written hreports)
    rw [hrest.view_eq still hreports]
    exact still _ _ rfl
  | made controlled =>
    obtain ⟨hfound, hrest⟩ := Act.Machine.answers_cons_iff.mp answers
    have hfound := (Option.some.inj hfound).symm
    -- The check and the notice leave the view of the machine as it was.
    have hbetween (notice : Notice) :
        view (machine (.report notice) (machine (.present path) world).2).2 = view world :=
      (still _ _ rfl).trans (still _ _ rfl)
    cases controlled with
    | broken notice =>
      obtain ⟨-, hlast⟩ := Act.Machine.answers_cons_iff.mp hrest
      cases hlast
    | refused notice refusal failure =>
      obtain ⟨-, hlast⟩ := Act.Machine.answers_cons_iff.mp hrest
      obtain ⟨hanswer, hend⟩ := Act.Machine.answers_cons_iff.mp hlast
      cases hend
      refine .refused hfound (hbetween notice) (Option.some.inj hanswer).symm rfl ?_ rfl
      simp [Exchange.writing]
    | written notice =>
      obtain ⟨-, hlast⟩ := Act.Machine.answers_cons_iff.mp hrest
      obtain ⟨hanswer, hend⟩ := Act.Machine.answers_cons_iff.mp hlast
      cases hend
      exact .accepted hfound (hbetween notice) (Option.some.inj hanswer).symm rfl rfl

end Context
end I2cTopology
