import I2cTopology.Context.Lifecycle
import I2cTopology.Handle.Probe
import I2cTopology.Proofs.Runs

/-!
# Reading without writing

Scanning sysfs, loading a configuration and opening a device file ask the machine many things, but none
of them replaces the state of the one on whose behalf they are done.
-/

namespace I2cTopology

open Act (ReadOnly)

variable {σ : Type}

namespace Scan

theorem readOnly_checkMount (root : FilePath) (verify : Bool) :
    (checkMount root verify : Op σ Unit).run.ReadOnly := by
  unfold checkMount
  refine .andThen (.opQuery _ rfl) fun isDirectory => ?_
  dsimp only
  split
  · exact .done
  split
  · refine .andThen (.opQuery _ rfl) fun isSysfs => ?_
    split <;> exact .done
  · exact .done

theorem readOnly_linkName (dir : FilePath) (name : String) :
    (linkName? dir name : Act σ (Option String)).ReadOnly :=
  .bind (.query _ rfl) fun _ => .done

theorem readOnly_outputOf (chip adapter : FilePath) :
    (outputOf? chip adapter : Act σ (Option UInt32)).ReadOnly := by
  unfold outputOf?
  refine .bind (.entries chip) fun listed => ?_
  cases listed with
  | error failure => exact .done
  | ok names =>
    refine .findSome? (fun name => ?_) names
    split
    · exact .done
    · refine .bind (.query _ rfl) fun target => ?_
      cases target <;> exact .done

theorem readOnly_channelOf (nr : UInt32) (name : String) (chip : Option FilePath)
    (location : FilePath) : (channelOf nr name chip location : Act σ (Option UInt32)).ReadOnly := by
  unfold channelOf
  split
  · exact .done
  cases chip with
  | some chip => exact readOnly_outputOf chip location
  | none =>
    dsimp only
    split
    · exact .bind (.report _ _ _) fun _ => .done
    · exact .done

theorem readOnly_readAdapter (settings : Settings) (link : FilePath) (entry : String) :
    (readAdapter settings link entry : Act σ (Except SkipReason Adapter)).ReadOnly := by
  unfold readAdapter
  split
  · exact .done
  refine .bind (.query _ rfl) fun target => ?_
  cases target with
  | error failure => exact .done
  | ok location =>
    refine .bind (.query _ rfl) fun name => ?_
    cases name with
    | none => exact .done
    | some name =>
      refine .bind (.query _ rfl) fun chip => ?_
      refine .bind (readOnly_channelOf _ _ _ _) fun channel => ?_
      refine .bind (readOnly_linkName _ _) fun subsystem => ?_
      refine .bind (.query _ rfl) fun identity => ?_
      exact .bind (.report _ _ _) fun _ => .done

theorem readOnly_surveyAdapter (settings : Settings) (dir : FilePath) (entry : String) :
    (surveyAdapter settings dir entry : Act σ (Option Adapter)).ReadOnly := by
  refine .bind (readOnly_readAdapter _ _ _) fun read => ?_
  cases read with
  | ok adapter => exact .done
  | error reason => exact .bind (.report _ _ _) fun _ => .done

theorem readOnly_readChip (path : FilePath) (address : UInt16) (bus : BusDescriptor)
    (adapter : AdapterId) :
    (readChip path address bus adapter : Act σ (Except SkipReason Chip)).ReadOnly := by
  unfold readChip
  refine .bind (.query _ rfl) fun target => ?_
  cases target with
  | error failure => exact .done
  | ok location =>
    refine .bind (.query _ rfl) fun name => ?_
    cases name with
    | none => exact .done
    | some name =>
      dsimp only
      split
      · exact .bind .done fun _ => .bind (readOnly_linkName _ _) fun _ => .done
      · refine .bind (readOnly_linkName _ _) fun driver => ?_
        refine .bind (readOnly_linkName _ _) fun module => ?_
        exact .bind .done fun _ => .bind (readOnly_linkName _ _) fun _ => .done

theorem readOnly_surveyChip (dir : FilePath) (bus : BusDescriptor) (id : AdapterId)
    (entry : String) : (surveyChip dir bus id entry : Act σ (Option Chip)).ReadOnly := by
  unfold surveyChip
  split
  · exact .done
  refine .bind (readOnly_readChip _ _ _ _) fun read => ?_
  cases read with
  | ok chip => exact .done
  | error reason => exact .bind (.report _ _ _) fun _ => .done

theorem readOnly_surveyChips (forest : Forest) (id : AdapterId) :
    (surveyChips forest id : Act σ (List Chip)).ReadOnly := by
  refine .bind (.entries _) fun listed => ?_
  cases listed with
  | error failure => exact .bind (.report _ _ _) fun _ => .done
  | ok names => exact .filterMap (readOnly_surveyChip _ _ id) names

theorem readOnly_attachChips (ids : List AdapterId) (forest : Forest) :
    (attachChips ids forest : Act σ Forest).ReadOnly := by
  induction ids generalizing forest with
  | nil => exact .done
  | cons id rest ih => exact .bind (readOnly_surveyChips forest id) fun chips => ih _

theorem readOnly_scan (settings : Settings) : (scan settings : Op σ Forest).run.ReadOnly := by
  unfold scan
  refine .andThen (readOnly_checkMount _ _) fun _ => ?_
  refine .andThen (.ofAct (.entries _)) fun listed => ?_
  refine .andThen (.ofFile _ _) fun names => ?_
  refine .andThen (.ofAct (.filterMap (readOnly_surveyAdapter _ _) _)) fun adapters => ?_
  split
  · exact .done
  · refine .andThen (.ofAct (.reportAll _)) fun _ => ?_
    refine .andThen (.ofAct (readOnly_attachChips _ _)) fun forest => ?_
    exact .andThen (.opReport _ _ _) fun _ => .done

end Scan

namespace ConfigSource

theorem readOnly_readText (text source : String) :
    (readText text source : Act σ (List ExpectedChip)).ReadOnly :=
  .bind (.reportAll _) fun _ => .done

theorem readOnly_loadFile (path : FilePath) :
    (loadFile path : Op σ (List ExpectedChip)).run.ReadOnly := by
  refine .andThen (.opQuery _ rfl) fun answer => ?_
  exact .andThen (.ofFile _ _) fun text => .ofAct (readOnly_readText text _)

theorem readOnly_loadOptional (path : FilePath) :
    (loadOptional path : Op σ (List ExpectedChip)).run.ReadOnly := by
  refine .andThen (.opQuery _ rfl) fun answer => ?_
  cases answer with
  | ok text => exact .ofAct (readOnly_readText text _)
  | error failure =>
    dsimp only
    split <;> exact .done

theorem readOnly_loadFiles (dir : FilePath) (names : List String) :
    (loadFiles dir names : Op σ (List ExpectedChip)).run.ReadOnly := by
  induction names with
  | nil => exact .done
  | cons name rest ih =>
    refine .andThen (readOnly_loadFile _) fun entries => ?_
    exact .andThen ih fun others => .done

theorem readOnly_loadDir (dir : FilePath) :
    (loadDir dir : Op σ (List ExpectedChip)).run.ReadOnly := by
  refine .andThen (.opQuery _ rfl) fun isDirectory => ?_
  split
  · exact .done
  · refine .andThen (.opQuery _ rfl) fun answer => ?_
    exact .andThen (.ofFile _ _) fun names => readOnly_loadFiles dir _

theorem readOnly_load (source : ConfigSource) :
    (source.load : Op σ (List ExpectedChip)).run.ReadOnly := by
  cases source with
  | standard path dir =>
    refine .andThen (readOnly_loadOptional path) fun entries => ?_
    exact .andThen (readOnly_loadDir dir) fun others => .done
  | file path => exact readOnly_loadFile path
  | standardInput =>
    refine .andThen (.opQuery _ rfl) fun answer => ?_
    exact .andThen (.ofFile _ _) fun text => .ofAct (readOnly_readText text _)
  | nothing => exact .done

end ConfigSource

theorem Handle.readOnly_openAt (path : FilePath) (nr : UInt32) (known : Option FileIdentity) :
    (openAt path nr known :
      Act σ (Except Failure Handle × Option FileIdentity)).ReadOnly := by
  refine .bind (.query _ rfl) fun answer => ?_
  cases answer with
  | error failure => exact .done
  | ok current =>
    dsimp only
    split
    · exact .bind (.report _ _ _) fun _ => .done
    · refine .bind (.query _ rfl) fun opened => ?_
      cases opened with
      | error failure => exact .done
      | ok file => exact .bind (.report _ _ _) fun _ => .done

end I2cTopology
