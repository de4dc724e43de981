import I2cTopology.Proofs.Context.Rescan
import I2cTopology.Proofs.Survey

/-!
# Rescans happen as a whole or not at all

A scan may fail anywhere, after it has read any part of the machine.  A rescan whose scan fails leaves the
context as it was in every part, and a rescan whose scan succeeds replaces the forest and sets the flags of
the configuration in one step.  Only the flags of an entry are ever set; what was read is kept.

* `rescan_atomic`: what a rescan makes of a ready context, by the outcome of its scan.
-/

namespace I2cTopology

/-- The entry as it was read, before its flags were set. -/
def ExpectedChip.unflagged (entry : ExpectedChip) : ExpectedChip :=
  { entry with matched := false, available := false }

namespace Forest

@[simp] theorem unflagged_reconcileEntry (forest : Forest) (entry : ExpectedChip) :
    (forest.reconcileEntry entry).unflagged = entry.unflagged := by
  unfold reconcileEntry
  split <;> rfl

/-- Only flags are set. -/
theorem map_unflagged_reconcile (forest : Forest) (entries : List ExpectedChip) :
    (forest.reconcile entries).map ExpectedChip.unflagged = entries.map ExpectedChip.unflagged := by
  rw [reconcile, List.map_map]
  exact List.map_congr_left fun entry _ => unflagged_reconcileEntry forest entry

end Forest

namespace Context

variable {μ : Type}

/-- **Rescans are atomic.**  Whatever the machine answers: if a rescan of a ready context fails, its scan
failed and the context is what it was; if it succeeds, its scan came to a forest that nobody has opened, the
configuration has flags for that forest and is otherwise the same, the rescan was counted, and the context
is no longer invalidated; if it is broken off, so was its scan. -/
theorem rescan_atomic (machine : Act.Machine μ) {context : Context}
    (hready : context.readiness = .ready) (world : μ) :
    let scanned := ((Scan.scan context.settings).run.run machine context.occupied world).1
    let (result, after, _) := rescan.run.run machine context world
    (∀ failure, result = some (.error failure) →
      scanned = some (.error failure) ∧ after = context) ∧
    (result = some (.ok ()) → ∃ forest,
      scanned = some (.ok forest) ∧
      after = { context with
        forest := forest
        config := forest.reconcile context.config
        rescans := context.rescans + 1
        invalidated := false } ∧
      forest.Closed ∧
      after.config.map ExpectedChip.unflagged = context.config.map ExpectedChip.unflagged) ∧
    (result = none → scanned = none ∧ after = context.occupied) := by
  -- The machine that answers the rescan answers its scan first.
  have hscanned {talk reports : List Exchange} {outcome : Option (Except Failure Forest)} {final : μ}
      (scan : context.Scanned talk outcome)
      (answers : machine.Answers world (talk ++ reports) final) :
      ((Scan.scan context.settings).run.run machine context.occupied world).1 = outcome := by
    obtain ⟨between, hfirst, -⟩ := Act.Machine.answers_append_iff.mp answers
    rw [scan.run_eq hfirst]
  generalize hrun : rescan.run.run machine context world = run
  obtain ⟨result, after, final⟩ := run
  obtain ⟨talk, dialogue, answers⟩ := Act.run_eq_iff.mp hrun
  cases rescanDialogue_of_ready hready dialogue with
  | brokenOff scan =>
    rw [← List.append_nil talk] at answers
    exact ⟨nofun, nofun, fun _ => ⟨hscanned scan answers, rfl⟩⟩
  | failed scan =>
    refine ⟨fun failure h => ?_, nofun, nofun⟩
    obtain rfl := Except.error.inj (Option.some.inj h)
    exact ⟨hscanned scan answers, rfl⟩
  | @succeeded _ _ forest scan =>
    refine ⟨nofun, fun _ => ⟨forest, hscanned scan answers, rfl, ?_, ?_⟩, nofun⟩
    · exact ((Scan.ensures_scan context.settings).of_dialogue scan).2
    · exact forest.map_unflagged_reconcile context.config

/-- A machine with one adapter and no chips. Its state tells which device files there are. -/
def benchMachine (query : Query) (files : FilePath → Option FileIdentity) :
    query.Answer × (FilePath → Option FileIdentity) :=
  (match query with
    | .readAttribute _ _ => some "bench"
    | .linkTarget _ _ => none
    | .canonical path =>
      if path.text = "/sys/bus/i2c/devices/i2c-0" then .ok ⟨"/sys/devices/i2c-0"⟩
      else .error (.refused .noEntry)
    | .entries dir => .names (if dir.text = "/sys/bus/i2c/devices" then ["i2c-0"] else [])
    | .present _ => false
    | .writeAttribute _ _ _ => .error (.refused .noEntry)
    | .identity path => files path
    | .isDirectory _ => true
    | .isSysfs _ => true
    | .text _ => .error (.refused .noEntry)
    | .regularFiles _ => .error (.refused .noEntry)
    | .standardInput => .ok "lm75-i2c-0-0x48"
    | .deviceIdentity path => (files path).elim (.error (.refused .noEntry)) .ok
    | .openDevice path =>
      (files path).elim (.error (.refused .noEntry)) fun identity => .ok ⟨0, identity⟩
    | .request _ _ => .error .notTypewriter
    | .loadModule _ => .error (.refused .noEntry)
    | .clock => (0 : Nat)
    | .report _ => ()
    | .print _ => (), files)

/-- The forest of that machine, with an identity of the adapter's device file on record. -/
def benchForest (identity : Option FileIdentity) : Forest where
  adapters := #[{
    nr := 0
    declaredParent := .root
    name := some "bench"
    location := ⟨"/sys/devices/i2c-0"⟩
    parentName := some "devices"
    identity := identity }]
  seats := [{ id := 0, depth := 0, parent := none, ordinal := none, path := "0", children := [] }]
  unplaced := []
  index := ⟨#[(0, 0)]⟩

/-- A ready context with a chip that is expected on its only root. -/
def sampleContext : Context where
  settings := {}
  readiness := .ready
  forest := .sampleForest
  config := [{
    name := none
    bus := { path := some "3" }
    address := some 0x48
    origin := ⟨"etc", 1⟩
    available := true }]
  invalidated := true

/-- A rescan finds another machine, on which the adapter of the chip is gone. -/
theorem rescan_atomic_sample :
    sampleContext.readiness = .ready ∧
      ∃ after final,
        rescan.run.run benchMachine sampleContext (fun _ => none) = (some (.ok ()), after, final) ∧
        after.forest = benchForest none ∧ after.config.map ExpectedChip.available = [false] ∧
        after.rescans = 1 := by
  have hready : sampleContext.readiness = .ready := rfl
  have hresult : (rescan.run.run benchMachine sampleContext fun _ => none).1 = some (.ok ()) := by
    with_unfolding_all rfl
  have hatomic := rescan_atomic benchMachine hready fun _ => none
  generalize rescan.run.run benchMachine sampleContext (fun _ => none) = run at hatomic hresult
  obtain ⟨result, after, final⟩ := run
  obtain rfl : result = some (.ok ()) := hresult
  obtain ⟨forest, hforest, rfl, -, -⟩ := hatomic.2.1 rfl
  have hscan : ((Scan.scan {}).run.run benchMachine sampleContext.occupied fun _ => none).1 =
      some (.ok (benchForest none)) := by
    with_unfolding_all rfl
  obtain rfl : forest = benchForest none :=
    Except.ok.inj (Option.some.inj (hforest.symm.trans hscan))
  exact ⟨hready, _, final, rfl, rfl, by with_unfolding_all rfl, rfl⟩

end Context
end I2cTopology
