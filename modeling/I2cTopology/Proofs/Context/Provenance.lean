import I2cTopology.Proofs.Account
import I2cTopology.Proofs.Context.History
import I2cTopology.Proofs.Matching

/-!
# Where a forest comes from

A context is told many things, in calls that fail or are broken off as well.  The forest that it has installed
comes from one scan, by which everything was told that the forest shows.  Whatever is done afterwards, until
the forest is replaced, leaves the places and the chips alone.

* `Transcript`: the contexts that calls lead to, with all that was said on the way.
* `Produced`: a forest comes from a scan in a talk.
* `accounts_of_transcript`: scans and installed forests account for what was said during the scan.
-/

namespace I2cTopology
namespace Context

variable {scope : Scope} {settings : Settings} {before after context : Context}
  {past talk : List Exchange} {forest other : Forest}

/-- The contexts that calls lead to, with all that was said on the way. -/
inductive Transcript (settings : Settings) : List Exchange → Context → Prop
  | start : Transcript settings [] (.fresh settings)
  | step {past talk : List Exchange} {before after : Context} {call : Call}
      {result : Option (Except Failure call.Reply)} (earlier : Transcript settings past before)
      (dialogue : call.op.run.Dialogue before talk result after) :
      Transcript settings (past ++ talk) after

/-- The forest was found by a scan, and only device files were attended to since. -/
def FoundBy (settings : Settings) (talk : List Exchange) (forest : Forest) : Prop :=
  ∃ (context : Context) (origin : Forest),
    (Scan.scan settings).run.Dialogue context talk (some (.ok origin)) context ∧ origin.Alike forest

/-- A scan in the talk has found the forest. -/
def Produced (settings : Settings) (talk : List Exchange) (forest : Forest) : Prop :=
  ∃ front scanned back, talk = front ++ (scanned ++ back) ∧ FoundBy settings scanned forest

theorem Produced.append (produced : Produced settings past forest) (talk : List Exchange) :
    Produced settings (past ++ talk) forest := by
  obtain ⟨front, scanned, back, rfl, found⟩ := produced
  exact ⟨front, scanned, back ++ talk, by simp, found⟩

theorem Produced.of_alike (produced : Produced settings talk forest) (alike : forest.Alike other) :
    Produced settings talk other := by
  obtain ⟨front, scanned, back, htalk, state, origin, scan, horigin⟩ := produced
  exact ⟨front, scanned, back, htalk, state, origin, scan, horigin.trans alike⟩

/-- The settings are those of the beginning, and if the context is ready, its forest comes from a scan. -/
structure Traceable (settings : Settings) (past : List Exchange) (context : Context) : Prop where
  settings_eq : context.settings = settings
  produced : context.readiness = .ready → Produced settings past context.forest

/-- What attends to device files only keeps the origin of the forest. -/
theorem Traceable.of_alike (traceable : Traceable settings past before)
    (hsettings : after.settings = before.settings) (hreadiness : after.readiness = before.readiness)
    (alike : before.forest.Alike after.forest) : Traceable settings (past ++ talk) after where
  settings_eq := hsettings.trans traceable.settings_eq
  produced h := ((traceable.produced (hreadiness ▸ h)).of_alike alike).append talk

theorem Traceable.append (traceable : Traceable settings past context) (talk : List Exchange) :
    Traceable settings (past ++ talk) context :=
  traceable.of_alike rfl rfl (.refl _)

theorem Move.traceable (move : Move scope talk before after) (h : Traceable settings past before) :
    Traceable settings (past ++ talk) after := by
  obtain rfl := h.settings_eq
  cases move with
  | cleanedUp => exact ⟨rfl, nofun⟩
  | invalidated => exact h.of_alike rfl rfl (.refl _)
  | @installed _ _ _ talk rest scan =>
    exact ⟨rfl, fun _ => ⟨past, talk, rest, rfl, _, _, scan, .refl _⟩⟩
  | rescanned rescan =>
    cases rescan with
    | brokenOff => exact ⟨rfl, nofun⟩
    | failed => exact h.append _
    | @succeeded talk reports _ scan =>
      exact ⟨rfl, fun _ => ⟨past, talk, reports, rfl, _, _, scan, .refl _⟩⟩
  | marked => exact h.of_alike rfl rfl (.refl _)
  | attached attached =>
    have hsame : after.settings = before.settings ∧ after.readiness = before.readiness := by
      cases attached <;> exact ⟨rfl, rfl⟩
    exact h.of_alike hsame.1 hsame.2 attached.alike.1
  | used => exact h.of_alike rfl rfl (alike_setHandle _ _ before)
  | closed => exact h.of_alike rfl rfl (alike_closed _ before)

theorem Transcript.traceable (transcript : Transcript settings talk context) :
    Traceable settings talk context := by
  induction transcript with
  | start => exact ⟨rfl, nofun⟩
  | @step _ _ _ _ call _ _ dialogue ih =>
    exact (call.traced _ _ _ _ dialogue).2.carries (fun more h => h.append more)
      (fun move h => move.traceable h) ih

/-- **Forests and what was said.**  Whatever is answered, in calls that fail or are broken off as well:

* a scan that succeeds comes to a forest that accounts for what was said during the scan;
* the forest of a ready context was found by a scan that was made on the way to the context, and it
  accounts for what was said during that scan. -/
theorem accounts_of_transcript (settings : Settings) :
    (∀ {σ : Type} {before after : σ} {talk : List Exchange} {forest : Forest},
      (Scan.scan settings).run.Dialogue before talk (some (.ok forest)) after →
        Scan.Accounts settings talk forest) ∧
    (∀ {talk : List Exchange} {context : Context}, Transcript settings talk context →
      context.readiness = .ready →
        ∃ front scanned back, talk = front ++ (scanned ++ back) ∧
          FoundBy settings scanned context.forest ∧ Scan.Accounts settings scanned context.forest) := by
  refine ⟨fun scan => Scan.accounts_of_scan scan, fun transcript hready => ?_⟩
  obtain ⟨front, scanned, back, htalk, state, origin, scan, alike⟩ :=
    transcript.traceable.produced hready
  have accounts := (Scan.accounts_of_scan scan).of_alike alike
  exact ⟨front, scanned, back, htalk, ⟨state, origin, scan, alike⟩, accounts⟩

/-- The sensor machine, set up without a configuration. -/
def sensorContext : Context where
  settings := {}
  readiness := .ready
  forest := .sensorForest

theorem accounts_of_transcript_sensor : ∃ first talk scanned,
    Scan.Accounts {} first .sensorForest ∧ Transcript {} talk sensorContext ∧
      scanned <:+: talk ∧ Scan.Accounts {} scanned .sensorForest := by
  obtain ⟨first, scan⟩ := Forest.exists_scan_sensorMachine
  obtain ⟨talk, setup, -⟩ := Act.exists_dialogue_of_run Forest.sensorMachine
    (Call.init .nothing).op.run (.fresh {}) fun _ => none
  have hsetup : ((Call.init .nothing).op.run.run Forest.sensorMachine (.fresh {}) fun _ => none).2.1 =
      sensorContext := by
    with_unfolding_all rfl
  rw [hsetup] at setup
  have transcript : Transcript {} ([] ++ talk) sensorContext := .step .start setup
  obtain ⟨haccounts, hinstalled⟩ := accounts_of_transcript {}
  obtain ⟨front, scanned, back, htalk, -, accounts⟩ := hinstalled transcript rfl
  exact ⟨first, [] ++ talk, scanned, haccounts scan, transcript, ⟨front, back, by simp [htalk]⟩, accounts⟩

end Context
end I2cTopology
