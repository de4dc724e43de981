import I2cTopology.Proofs.Context.Flags

/-!
# Where entries come from

Every entry of a context was declared by a line of configuration.  Nothing but the flags of an entry is ever
changed afterwards, so what reading a line guarantees can be relied on at any time: the name is one word, and
the address has ten bits.

* `ExpectedChip.Declared`: the entry was declared by a line.
* `History.declared`: the entries of a context were.
-/

namespace I2cTopology

namespace ExpectedChip

/-- The entry was declared by a line. Its flags may have been set since. -/
def Declared (entry : ExpectedChip) : Prop :=
  ∃ line origin, parseLine line origin = .ok (some entry.unflagged)

variable {entry other : ExpectedChip}

/-- A line sets no flags. -/
theorem unflagged_of_parseLine {line : List Char} {origin : Origin}
    (h : parseLine line origin = .ok (some entry)) : entry.unflagged = entry := by
  rw [parseLine_eq_ok_some_iff, parseWord_eq_ok_iff] at h
  obtain ⟨_, _, _, _, _, -, -, -, rfl⟩ := h
  rfl

theorem declared_of_parseLine {line : List Char} {origin : Origin}
    (h : parseLine line origin = .ok (some entry)) : entry.Declared :=
  ⟨line, origin, (unflagged_of_parseLine h).symm ▸ h⟩

theorem Declared.of_unflagged_eq (h : entry.Declared) (hsame : other.unflagged = entry.unflagged) :
    other.Declared := by
  obtain ⟨line, origin, hline⟩ := h
  exact ⟨line, origin, hsame ▸ hline⟩

/-- The name of a declared entry is one word. -/
theorem Declared.wordChar_of_mem_name (h : entry.Declared) {name : String}
    (hname : entry.name = some name) {c : Char} (hc : c ∈ name.toList) : Text.WordChar c := by
  obtain ⟨line, origin, hline⟩ := h
  apply wordChar_of_mem_display hline
  have hname : entry.unflagged.name = some name := hname
  rw [toList_display, hname]
  exact List.mem_append_left _ hc

theorem Declared.address_le (h : entry.Declared) {address : UInt16}
    (haddress : entry.address = some address) : address ≤ maxAddress := by
  obtain ⟨line, origin, hline⟩ := h
  rw [parseLine_eq_ok_some_iff, parseWord_eq_ok_iff] at hline
  obtain ⟨_, _, _, _, number, -, -, hnumber, heq⟩ := hline
  obtain rfl : number = some address := (congrArg ExpectedChip.address heq).symm.trans haddress
  exact le_maxAddress_of_addressSelector hnumber

theorem Declared.readable (h : entry.Declared) : entry.bus.Readable := by
  obtain ⟨line, origin, hline⟩ := h
  have hreadable : entry.unflagged.bus.Readable := readable_of_parseLine hline
  exact hreadable

end ExpectedChip

namespace Context

variable {scope : Scope} {before after context : Context} {talk : List Exchange}

theorem Move.declared (move : Move scope talk before after)
    (h : ∀ entry ∈ before.config, entry.Declared) : ∀ entry ∈ after.config, entry.Declared := by
  -- A reconciliation changes nothing but flags.
  have hreconciled (forest : Forest) {entries : List ExpectedChip}
      (hentries : ∀ entry ∈ entries, entry.Declared) :
      ∀ entry ∈ forest.reconcile entries, entry.Declared := by
    intro entry hentry
    obtain ⟨origin, horigin, rfl⟩ := List.mem_map.mp hentry
    exact (hentries origin horigin).of_unflagged_eq (forest.unflagged_reconcileEntry origin)
  cases move with
  | cleanedUp => exact fun _ hentry => absurd hentry List.not_mem_nil
  | installed _ hdeclared =>
    refine hreconciled _ fun entry hentry => ?_
    obtain ⟨line, origin, hline⟩ := hdeclared entry hentry
    exact ExpectedChip.declared_of_parseLine hline
  | rescanned rescan =>
    cases rescan with
    | succeeded => exact hreconciled _ h
    | _ => exact h
  | marked =>
    intro entry hentry
    obtain hold | ⟨other, hother, rfl⟩ := Forest.mem_markMatched hentry
    · exact h entry hold
    · exact (h other (List.mem_of_getElem? hother)).of_unflagged_eq rfl
  | attached attached => exact attached.alike.2.1 ▸ h
  | _ => exact h

/-- **Declared entries.**  Every entry of a context was declared by a line. -/
theorem History.declared {settings : Settings} {steps : List Step}
    (history : History settings steps context) : ∀ entry ∈ context.config, entry.Declared := by
  induction history with
  | start => exact fun _ hentry => absurd hentry List.not_mem_nil
  | @step _ before _ call _ _ _ _ run ih =>
    obtain ⟨talk, -, dialogue⟩ := Act.runs_iff_dialogue.mp run.runs
    exact (call.traced before _ _ _ dialogue).2.preserves (T := fun _ => True)
      (fun _ => ⟨trivial, trivial⟩) (fun move _ => move.declared) trivial ih

end Context
end I2cTopology
