import I2cTopology.Proofs.Account
import I2cTopology.Proofs.Context.Atomicity
import I2cTopology.Proofs.Forest.Pruning
import I2cTopology.Proofs.Sysfs.Layout
import I2cTopology.Proofs.Yields

/-!
# What a scan recovers

On a machine that shows a layout, a scan finds every node with the parent and the output number of its place,
and nobody else.  All that was laid out is rooted, so there is a forest under either policy, and every node
has its place in it as long as its path is short enough.

* `yields_surveyAdapters`: what is found behind the links.
* `exists_lineage`: the path to a node is the one that its adapter has.
* `scan_recovers`: the forest of a whole scan.
-/

namespace I2cTopology

open Sysfs (Node)

/-- The node as an adapter that declares its parent and its output number, and nothing else. -/
def Sysfs.Node.adapter (node : Node) : Adapter where
  nr := node.nr
  declaredParent := node.place.parent
  channel := node.place.channel

/-- The parent that an adapter has in the forest. -/
def Forest.placedBelow (forest : Forest) (id : AdapterId) : DeclaredParent :=
  match forest.parent? id with
  | none => .root
  | some parent => .adapter (forest.adapter parent).nr

theorem Forest.placedBelow_eq_of_plain_eq {forest other : Forest} (h : forest.plain = other.plain)
    (id : AdapterId) : forest.placedBelow id = other.placedBelow id := by
  have hnr (id : AdapterId) : (forest.adapter id).nr = (other.adapter id).nr :=
    congrArg Sighting.number (Forest.sighting_eq_of_plain_eq h id)
  simp only [placedBelow, parent?, seat?, seats_eq_of_plain_eq h, hnr]

/-- A placed adapter is below the parent that it declares. -/
theorem Forest.BuiltFrom.placedBelow_eq {found : List Adapter} {forest : Forest} {id : AdapterId}
    {above : List AdapterId} (h : BuiltFrom found forest) (habove : Lineage found.toArray id above)
    (hfits : Fits found.toArray (id :: above)) :
    forest.placedBelow id = declaredParentOf found.toArray id := by
  rw [placedBelow, h.parent?_eq habove hfits]
  cases habove with
  | root _ hroot => exact hroot.symm
  | child hangs _ =>
    rw [hangs.2.2, List.head?_cons]
    exact congrArg (fun adapter => DeclaredParent.adapter (Adapter.nr adapter)) (h.adapter_eq _)

namespace Sysfs

open Forest (SameDeclarations)
open Scan (adapterNr? outputNr? linkName channelName)

variable {σ μ : Type} {machine : Act.Machine μ} {settings : Settings} {nodes : List Node} {node : Node}

/-! ## Adapters one by one -/

/-- The output number is the one of the link that leads back. -/
theorem yields_outputOf {chip dir : FilePath} {output : UInt32} {links : List String}
    (back : LeadsBack machine chip output dir links) :
    (Scan.outputOf? chip dir : Act σ (Option UInt32)).Yields machine (· = some output) := by
  refine (Act.yields_entries back.listed).bind fun answer hanswer => ?_
  subst hanswer
  refine Act.yields_findSome? (fun link hlink => ?_) ⟨_, back.mem, ?_⟩
  · cases hnr : outputNr? link with
    | none => exact nofun
    | some other =>
      intro world
      by_cases hback : link = channelName output
      · subst hback
        rw [Scan.outputNr?_channelName] at hnr
        obtain rfl := Option.some.inj hnr
        cases (machine (.canonical (chip.join (channelName output))) world).1 with
        | error failure => exact nofun
        | ok target =>
          intro _ hfound
          exact (Option.some.inj (Option.ite_none_right_eq_some.mp hfound).2).symm
      · have honly := back.only link hlink (by rw [hnr]; rfl) hback world
        cases htarget : (machine (.canonical (chip.join link)) world).1 with
        | error failure => exact nofun
        | ok target =>
          intro _ hfound
          rw [honly target htarget] at hfound
          cases hfound
  · rw [Scan.outputNr?_channelName]
    have hsame : dir.sameAs dir = true := beq_self_eq_true dir.components
    exact Act.yields_ask back.leads (if_pos hsame)

theorem yields_channelOf (laidOut : LaidOut nodes) (shows : Shows machine settings nodes)
    (hnode : node ∈ nodes) :
    (Scan.channelOf node.nr node.name node.place.chip? node.dir : Act σ (Option UInt32)).Yields machine
      (· = node.place.channel) := by
  have hnamed := laidOut.named node hnode
  unfold Scan.channelOf
  cases hplace : node.place with
  | legacy parent output =>
    rw [Node.Named, hplace] at hnamed
    obtain ⟨number, hname⟩ := hnamed
    rw [hname, Scan.muxName?_legacyName]
    rfl
  | behind parent chip output =>
    rw [Node.Named, hplace] at hnamed
    rw [Scan.muxName?_eq_none hnamed]
    obtain ⟨links, back⟩ := shows.channel node hnode parent chip output hplace
    exact yields_outputOf back
  | root | child _ =>
    rw [Node.Named, hplace] at hnamed
    rw [Scan.muxName?_eq_none hnamed]
    dsimp only [Place.chip?]
    split
    · exact Act.yields_ask_of_forall fun _ => rfl
    · rfl

theorem yields_readAdapter (laidOut : LaidOut nodes) (shows : Shows machine settings nodes)
    (hnode : node ∈ nodes) :
    (Scan.readAdapter settings (settings.devicesDir.join (linkName node.nr)) (linkName node.nr) :
      Act σ (Except Scan.SkipReason Adapter)).Yields machine
        fun read => ∃ adapter, read = .ok adapter ∧ adapter.bare = node.adapter := by
  unfold Scan.readAdapter
  rw [Scan.adapterNr?_linkName]
  refine Act.yields_ask (shows.linked node hnode) (Act.yields_ask (shows.named node hnode) fun world => ?_)
  have hchip := shows.chip node hnode world
  generalize (machine (.canonical (node.dir.join "mux_device")) world).1 = answer at hchip ⊢
  -- Whether there is a chip or not, it is the one of the node's place.
  cases answer
  all_goals
    dsimp only [Act.bind, Except.toOption] at hchip ⊢
    rw [hchip, laidOut.parentOf_eq hnode]
    refine Act.Yields.bind (yields_channelOf laidOut shows hnode) fun channel hchannel => ?_
    subst hchannel
    exact fun _ _ _ => ⟨_, rfl, rfl⟩

/-! ## All adapters -/

/-- What ought to be found behind a link. -/
def behindLink? (nodes : List Node) (entry : String) : Option Adapter := do
  let nr ← adapterNr? entry
  (nodes.find? (·.nr == nr)).map Node.adapter

theorem behindLink?_linkName (laidOut : LaidOut nodes) (hnode : node ∈ nodes) :
    behindLink? nodes (linkName node.nr) = some node.adapter := by
  rw [behindLink?, Scan.adapterNr?_linkName, Option.bind_eq_bind, Option.bind_some,
    find?_key_eq_some laidOut.distinct hnode, Option.map_some]

theorem behindLink?_eq_none {entry : String} (hentry : adapterNr? entry = none) :
    behindLink? nodes entry = none := by
  rw [behindLink?, hentry]
  rfl

theorem yields_surveyAdapter (laidOut : LaidOut nodes) (shows : Shows machine settings nodes)
    {entry : String} (hentry : ∀ nr, adapterNr? entry = some nr → ∃ node ∈ nodes, linkName node.nr = entry) :
    (Scan.surveyAdapter settings settings.devicesDir entry : Act σ (Option Adapter)).Yields machine
      fun found => found.map Adapter.bare = behindLink? nodes entry := by
  unfold Scan.surveyAdapter
  cases hnr : adapterNr? entry with
  | none =>
    rw [behindLink?_eq_none hnr, Scan.readAdapter, hnr]
    exact fun _ => rfl
  | some nr =>
    obtain ⟨node, hnode, rfl⟩ := hentry nr hnr
    rw [behindLink?_linkName laidOut hnode]
    refine Act.Yields.bind (yields_readAdapter laidOut shows hnode) fun read hread => ?_
    obtain ⟨adapter, rfl, hadapter⟩ := hread
    exact congrArg some hadapter

/-- The links lead to the nodes, and what else is listed leads to nothing. -/
theorem behindLinks_perm (laidOut : LaidOut nodes) {names : List String}
    (hnames : (names.filter fun name => (adapterNr? name).isSome).Perm
      (nodes.map fun node => linkName node.nr)) :
    ((names.filter Scan.isAdapterEntry).filterMap (behindLink? nodes)).Perm
      (nodes.map Node.adapter) := by
  have hfilter : (names.filter Scan.isAdapterEntry).filterMap (behindLink? nodes) =
      (names.filter fun name => (adapterNr? name).isSome).filterMap (behindLink? nodes) := by
    rw [List.filterMap_filter, List.filterMap_filter]
    apply List.filterMap_congr
    intro name _
    cases hnr : adapterNr? name with
    | none => simp [behindLink?_eq_none hnr]
    | some nr => rw [Scan.isAdapterEntry_of_adapterNr? hnr, Option.isSome_some]
  have hlinks : (nodes.map fun node => linkName node.nr).filterMap (behindLink? nodes) =
      nodes.map Node.adapter := by
    rw [List.filterMap_map, ← List.filterMap_eq_map]
    exact List.filterMap_congr fun node hnode => behindLink?_linkName laidOut hnode
  rw [hfilter, ← hlinks]
  exact hnames.filterMap _

theorem yields_surveyAdapters (laidOut : LaidOut nodes) (shows : Shows machine settings nodes)
    {names : List String} (hnames : (names.filter fun name => (adapterNr? name).isSome).Perm
      (nodes.map fun node => linkName node.nr)) :
    (Act.filterMap (Scan.surveyAdapter settings settings.devicesDir)
      (names.filter Scan.isAdapterEntry) : Act σ (List Adapter)).Yields machine
        fun found => SameDeclarations found (nodes.map Node.adapter) := by
  have hlinks : ∀ entry ∈ names.filter Scan.isAdapterEntry, ∀ nr, adapterNr? entry = some nr →
      ∃ node ∈ nodes, linkName node.nr = entry := by
    intro entry hentry nr hnr
    have hmem : entry ∈ names.filter fun name => (adapterNr? name).isSome :=
      List.mem_filter.mpr ⟨(List.mem_filter.mp hentry).1, by rw [hnr, Option.isSome_some]⟩
    exact List.mem_map.mp (hnames.mem_iff.mp hmem)
  refine (Act.yields_filterMap fun entry hentry =>
    yields_surveyAdapter laidOut shows (hlinks entry hentry)).mono fun found hfound => ?_
  rw [SameDeclarations, hfound, List.map_map]
  exact behindLinks_perm laidOut hnames

/-! ## The forest of the adapters -/

section Found

open Forest (adapterOf nrOf ordinalOf lineagePath DistinctNrs Lineage Rooted)

variable {found : List Adapter} {id : AdapterId} {text : String}

theorem exists_adapterOf (same : SameDeclarations found (nodes.map Node.adapter)) (hnode : node ∈ nodes) :
    ∃ id < found.length, (adapterOf found.toArray id).bare = node.adapter.bare := by
  obtain ⟨adapter, hadapter, heq⟩ := same.symm.exists_bare_eq (List.mem_map_of_mem hnode)
  obtain ⟨id, hid, rfl⟩ := List.getElem_of_mem hadapter
  refine ⟨id, hid, ?_⟩
  rwa [Forest.adapterOf_of_getElem? (List.getElem?_eq_getElem hid)]

theorem exists_node (same : SameDeclarations found (nodes.map Node.adapter)) (hid : id < found.length) :
    ∃ node ∈ nodes, (adapterOf found.toArray id).bare = node.adapter.bare := by
  obtain ⟨adapter, hadapter, heq⟩ :=
    same.exists_bare_eq (List.mem_of_getElem? (Forest.getElem?_of_lt hid))
  obtain ⟨node, hnode, rfl⟩ := List.mem_map.mp hadapter
  exact ⟨node, hnode, heq.symm⟩

theorem distinctNrs_of_same (laidOut : LaidOut nodes)
    (same : SameDeclarations found (nodes.map Node.adapter)) : DistinctNrs found.toArray := by
  have hnrs := same.nrs_perm
  rw [List.map_map] at hnrs
  rw [DistinctNrs, Forest.map_nrOf_range]
  exact hnrs.nodup_iff.mpr laidOut.distinct

theorem ordinalOf_eq (same : SameDeclarations found (nodes.map Node.adapter))
    (h : (adapterOf found.toArray id).bare = node.adapter.bare) :
    ordinalOf found.toArray id = ordinal nodes node := by
  rw [Forest.ordinalOf_eq_earlierSiblings, same.earlierSiblings_eq h, Forest.earlierSiblings,
    List.countP_map]
  rfl

theorem segment_eq (same : SameDeclarations found (nodes.map Node.adapter))
    (h : (adapterOf found.toArray id).bare = node.adapter.bare) :
    Forest.segment (adapterOf found.toArray id) (ordinalOf found.toArray id) = segment nodes node := by
  obtain ⟨hnr, -, hchannel⟩ := Adapter.bare_eq_iff.mp h
  rw [Forest.segment, segment, ordinalOf_eq same h, hchannel, hnr]
  rfl

/-- The path to a node is the one that its adapter has. -/
theorem exists_lineage (same : SameDeclarations found (nodes.map Node.adapter))
    (path : PathTo nodes node text) :
    ∃ id above, (adapterOf found.toArray id).bare = node.adapter.bare ∧
      Lineage found.toArray id above ∧ lineagePath found.toArray (id :: above) = text := by
  induction path with
  | root hnode hroot =>
    obtain ⟨id, hid, hbare⟩ := exists_adapterOf same hnode
    obtain ⟨hnr, hparent, -⟩ := Adapter.bare_eq_iff.mp hbare
    exact ⟨id, [], hbare, .root hid (hparent.trans hroot), congrArg toString hnr⟩
  | child hnode hdeclared _ ih =>
    obtain ⟨parent, above, hparentBare, hlineage, rfl⟩ := ih
    obtain ⟨id, hid, hbare⟩ := exists_adapterOf same hnode
    have hparentNr := (Adapter.bare_eq_iff.mp hparentBare).1
    have hparent := (Adapter.bare_eq_iff.mp hbare).2.1
    have hangs : Forest.HangsOff found.toArray id parent :=
      ⟨hid, hlineage.lt_size, hparent.trans (hdeclared.trans (congrArg _ hparentNr.symm))⟩
    refine ⟨id, parent :: above, hbare, .child hangs hlineage, ?_⟩
    rw [Forest.lineagePath_cons id (List.cons_ne_nil _ _), ← segment_eq same hbare]
    rfl

theorem rooted_of_same (laidOut : LaidOut nodes)
    (same : SameDeclarations found (nodes.map Node.adapter)) (hid : id < found.length) :
    Rooted found.toArray id := by
  obtain ⟨node, hnode, hbare⟩ := exists_node same hid
  obtain ⟨text, path⟩ := laidOut.exists_pathTo hnode
  obtain ⟨other, above, hother, hlineage, -⟩ := exists_lineage same path
  have hnr := (Adapter.bare_eq_iff.mp (hbare.trans hother.symm)).1
  obtain rfl := (distinctNrs_of_same laidOut same).inj hid hlineage.lt_size hnr
  exact ⟨above, hlineage⟩

end Found

/-! ## Chips -/

theorem yields_readChip (path : FilePath) (address : UInt16) (bus : BusDescriptor) (id : AdapterId) :
    (Scan.readChip path address bus id : Act σ (Except Scan.SkipReason Chip)).Yields machine
      fun _ => True := by
  unfold Scan.readChip
  refine Act.yields_ask_of_forall fun target => ?_
  cases target with
  | error failure => trivial
  | ok location =>
    refine Act.yields_ask_of_forall fun name => ?_
    cases name with
    | none => trivial
    | some name =>
      dsimp only [Act.bind]
      split
      · exact fun _ => trivial
      · exact fun _ _ _ => trivial

theorem yields_surveyChip (dir : FilePath) (bus : BusDescriptor) (id : AdapterId) (entry : String) :
    (Scan.surveyChip dir bus id entry : Act σ (Option Chip)).Yields machine fun _ => True := by
  unfold Scan.surveyChip
  split
  · trivial
  refine (yields_readChip _ _ bus id).bind fun read _ => ?_
  cases read with
  | ok chip => trivial
  | error reason => exact fun _ => trivial

/-- Whatever chips are found, they move nobody. -/
theorem yields_attachChips (steady : ∀ dir world, (machine (.entries dir) world).1 ≠ .aborted)
    (ids : List AdapterId) (forest : Forest) :
    (Scan.attachChips ids forest : Act σ Forest).Yields machine fun final => final.plain = forest.plain := by
  induction ids generalizing forest with
  | nil => rfl
  | cons id rest ih =>
    have hchips : (Scan.surveyChips forest id : Act σ (List Chip)).Yields machine fun _ => True := by
      refine (Act.yields_entries_of_forall (steady _)).bind fun listed _ => ?_
      cases listed with
      | error failure => exact fun _ => trivial
      | ok names => exact Act.yields_filterMap_of_forall fun entry => yields_surveyChip _ _ id entry
    refine hchips.bind fun chips _ => (ih _).mono fun final hfinal => ?_
    exact hfinal.trans (Forest.plain_setChips forest id chips)

/-! ## Whole scans -/

/-- What is found is furnished as the forest that is built from it. -/
theorem yields_furnish (laidOut : LaidOut nodes) (shows : Shows machine settings nodes)
    {found : List Adapter} (same : SameDeclarations found (nodes.map Node.adapter)) :
    (Scan.furnish settings found : Op σ Forest).Yields machine
      fun forest => ∃ origin, Forest.BuiltFrom found origin ∧ forest.plain = origin.plain := by
  obtain ⟨origin, hbuild⟩ := Forest.exists_build_of_rooted (distinctNrs_of_same laidOut same)
    (fun id hid => rooted_of_same laidOut same hid) settings.orphans
  unfold Scan.furnish
  cases hconstruct : Forest.construct found settings.orphans with
  | error fault =>
    rw [Forest.build, hconstruct] at hbuild
    cases hbuild
  | ok built =>
    have hbuilt := Forest.builtFrom_of_construct hconstruct
    refine (Op.yields_ofAct (Act.yields_reportAll _)).andThen fun _ _ => ?_
    refine (Op.yields_ofAct (yields_attachChips shows.steady _ _)).andThen fun forest hforest => ?_
    refine (Op.yields_query (P := fun _ => True) fun _ => trivial).andThen fun _ _ => ?_
    exact Op.yields_pure ⟨_, hbuilt, hforest⟩

theorem yields_checkMount (shows : Shows machine settings nodes) :
    (Scan.checkMount settings.sysfsRoot settings.verifySysfs : Op σ Unit).Yields machine
      fun _ => True := by
  unfold Scan.checkMount
  refine (Op.yields_query (P := fun answer : Bool => answer = true) shows.mounted).andThen
    fun directory hdirectory => ?_
  subst hdirectory
  simp only [Bool.not_true, Bool.false_eq_true, if_false]
  split
  next hverify =>
    refine (Op.yields_query (P := fun answer : Bool => answer = true)
      (shows.verified hverify)).andThen fun sysfs hsysfs => ?_
    subst hsysfs
    exact Op.yields_pure trivial
  next => exact Op.yields_pure trivial

theorem yields_scan (laidOut : LaidOut nodes) (shows : Shows machine settings nodes) :
    (Scan.scan settings : Op σ Forest).Yields machine fun forest =>
      ∃ found origin, SameDeclarations found (nodes.map Node.adapter) ∧
        Forest.BuiltFrom found origin ∧ forest.plain = origin.plain := by
  obtain ⟨names, hlisted, hnames⟩ := shows.listed
  rw [Scan.scan_eq]
  refine (yields_checkMount shows).andThen fun _ _ => ?_
  refine (Op.yields_ofAct (Act.yields_entries hlisted)).andThen fun answer hanswer => ?_
  subst hanswer
  refine (Op.yields_pure (P := (· = names)) rfl).andThen fun _ hlisted => ?_
  subst hlisted
  refine (Op.yields_ofAct (yields_surveyAdapters laidOut shows hnames)).andThen fun found same => ?_
  exact (yields_furnish laidOut shows same).mono fun outcome ⟨forest, houtcome, origin, hforest⟩ =>
    ⟨forest, houtcome, found, origin, same, hforest⟩

/-- The adapters of the forest are the nodes, each with the parent and the output number of its place.  A
path leads to every node, and if it is short enough, the node has this path in the forest and its place below
its parent. -/
structure Recovers (nodes : List Node) (forest : Forest) : Prop where
  declared : SameDeclarations forest.adapters.toList (nodes.map Node.adapter)
  led : ∀ node ∈ nodes, ∃ text, PathTo nodes node text
  placed : ∀ node text, PathTo nodes node text → text.utf8ByteSize ≤ Forest.maxPathLength →
    ∃ id, forest.lookup? node.nr = some id ∧ forest.path id = text ∧
      forest.placedBelow id = node.place.parent

theorem sameDeclarations_of_plain_eq {forest other : Forest} (h : forest.plain = other.plain) :
    SameDeclarations forest.adapters.toList other.adapters.toList := by
  have hbare (forest : Forest) : forest.plain.adapters.toList.map Adapter.bare =
      forest.adapters.toList.map Adapter.bare := by
    rw [Forest.plain, Array.toList_map, List.map_map]
    rfl
  rw [SameDeclarations, ← hbare, h, hbare]

theorem recovers_of_builtFrom (laidOut : LaidOut nodes) {found : List Adapter} {origin forest : Forest}
    (same : SameDeclarations found (nodes.map Node.adapter)) (hbuilt : Forest.BuiltFrom found origin)
    (hplain : forest.plain = origin.plain) : Recovers nodes forest where
  declared := by
    have hdeclared := sameDeclarations_of_plain_eq hplain
    rw [hbuilt.adapters_eq] at hdeclared
    exact hdeclared.trans same
  led := fun _ => laidOut.exists_pathTo
  placed := by
    intro node text path hfits
    obtain ⟨id, above, hbare, hlineage, rfl⟩ := exists_lineage same path
    obtain ⟨hnr, hparent, -⟩ := Adapter.bare_eq_iff.mp hbare
    refine ⟨id, ?_, ?_, ?_⟩
    · have hindex : forest.plain.index = origin.plain.index := congrArg Forest.index hplain
      have hlookup : origin.lookup? node.nr = some id :=
        (hbuilt.lookup?_eq_some_iff _ id).mpr ⟨(hbuilt.placed_iff id).mpr ⟨above, hlineage, hfits⟩, hnr⟩
      exact (congrArg (KernelIndex.lookup? · node.nr) hindex).trans hlookup
    · rw [Forest.path_eq_of_plain_eq hplain, hbuilt.path_eq hlineage hfits]
    · rw [Forest.placedBelow_eq_of_plain_eq hplain, hbuilt.placedBelow_eq hlineage hfits]
      exact hparent

/-- An adapter with a channel of each kind, the second of which has a child. -/
def shelf : List Node :=
  [⟨0, "shelf", .root, ⟨"/sys/devices/i2c-0"⟩⟩,
    ⟨3, "i2c-0-mux (chan_id 1)", .legacy 0 1, ⟨"/sys/devices/i2c-0/i2c-3"⟩⟩,
    ⟨5, "upper", .behind 0 ⟨"/sys/devices/i2c-0/0-0070"⟩ 2, ⟨"/sys/devices/i2c-0/0-0070/i2c-5"⟩⟩,
    ⟨7, "lower", .child 5, ⟨"/sys/devices/i2c-0/0-0070/i2c-5/i2c-7"⟩⟩]

def shelfLinks : List (String × FilePath) :=
  [("/sys/bus/i2c/devices/i2c-0", ⟨"/sys/devices/i2c-0"⟩),
    ("/sys/bus/i2c/devices/i2c-3", ⟨"/sys/devices/i2c-0/i2c-3"⟩),
    ("/sys/bus/i2c/devices/i2c-5", ⟨"/sys/devices/i2c-0/0-0070/i2c-5"⟩),
    ("/sys/bus/i2c/devices/i2c-7", ⟨"/sys/devices/i2c-0/0-0070/i2c-5/i2c-7"⟩),
    ("/sys/devices/i2c-0/0-0070/i2c-5/mux_device", ⟨"/sys/devices/i2c-0/0-0070"⟩),
    ("/sys/devices/i2c-0/0-0070/channel-2", ⟨"/sys/devices/i2c-0/0-0070/i2c-5"⟩)]

def shelfEntries (dir : FilePath) : List String :=
  if dir.text = "/sys/bus/i2c/devices" then ["i2c-0", "i2c-3", "i2c-5", "i2c-7", "0-0070"]
  else if dir.text = "/sys/devices/i2c-0/0-0070" then ["channel-2", "i2c-5", "name"]
  else []

/-- A machine that shows the shelf. -/
def shelfMachine (query : Query) (files : FilePath → Option FileIdentity) :
    query.Answer × (FilePath → Option FileIdentity) :=
  match query with
  | .entries dir => (.names (shelfEntries dir), files)
  | .canonical path => ((shelfLinks.lookup path.text).elim (.error (.refused .noEntry)) .ok, files)
  | .readAttribute dir _ => ((shelf.find? (·.dir = dir)).map Node.name, files)
  | query => Context.benchMachine query files

theorem laidOut_shelf : LaidOut shelf where
  distinct := by decide
  sits := by
    have htop : shelf[0] ∈ shelf := List.getElem_mem _
    have hupper : shelf[2] ∈ shelf := List.getElem_mem _
    simp only [shelf, List.forall_mem_cons]
    refine ⟨⟨⟨"/sys/devices"⟩, ?_, ?_⟩, ⟨⟨"/sys/devices/i2c-0"⟩, ?_, _, htop, rfl, rfl⟩,
      ⟨⟨"/sys/devices/i2c-0/0-0070"⟩, ?_, rfl, _, htop, rfl, _,
        Scan.plainName_directoryName 0 0x70, Scan.adapterNr?_directoryName 0 0x70, ?_⟩,
      ⟨⟨"/sys/devices/i2c-0/0-0070/i2c-5"⟩, ?_, _, hupper, rfl, rfl⟩, nofun⟩
    all_goals with_unfolding_all rfl
  named := by
    simp only [shelf, List.forall_mem_cons]
    exact ⟨Scan.not_tellsOutput rfl, ⟨0, by with_unfolding_all rfl⟩, Scan.not_tellsOutput rfl,
      Scan.not_tellsOutput rfl, nofun⟩

theorem shows_shelf : Shows shelfMachine {} shelf where
  mounted := fun _ => rfl
  verified := fun _ _ => rfl
  listed := by
    refine ⟨_, fun _ => rfl, ?_⟩
    with_unfolding_all exact List.Perm.refl _
  linked := by
    simp only [shelf, List.forall_mem_cons]
    refine ⟨?_, ?_, ?_, ?_, nofun⟩
    all_goals
      intro files
      with_unfolding_all rfl
  named := by
    simp only [shelf, List.forall_mem_cons]
    refine ⟨?_, ?_, ?_, ?_, nofun⟩
    all_goals
      intro files
      with_unfolding_all rfl
  chip := by
    simp only [shelf, List.forall_mem_cons]
    refine ⟨?_, ?_, ?_, ?_, nofun⟩
    all_goals
      intro files
      with_unfolding_all rfl
  channel := by
    simp only [shelf, List.forall_mem_cons]
    refine ⟨nofun, nofun, ?_, nofun, nofun⟩
    intro parent chip output hplace
    obtain ⟨rfl, rfl, rfl⟩ := Place.behind.inj hplace
    refine ⟨["channel-2", "i2c-5", "name"], fun _ => by with_unfolding_all rfl, List.mem_cons_self,
      fun _ => by with_unfolding_all rfl, ?_⟩
    -- The chip has no other channel links.
    intro link hlink hchannel hother
    obtain rfl | rfl | rfl : link = "channel-2" ∨ link = "i2c-5" ∨ link = "name" := by simpa using hlink
    · exact absurd (by with_unfolding_all rfl) hother
    all_goals cases hchannel
  steady := fun _ _ => nofun

end Sysfs
end I2cTopology
