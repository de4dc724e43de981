import I2cTopology.FilePath
import I2cTopology.Proofs.PathText

/-!
# Names within paths

A plain name that is joined to a path becomes its last component.  Whatever the path is, relative or
absolute, with separators at its end or without, its own components stay what they were.

* `PlainName`: the names that directories have.
* `components_join`: the components of a longer path.
-/

namespace I2cTopology
namespace FilePath

variable {base : FilePath} {name : String}

/-- The text is the name of something in a directory. -/
structure PlainName (name : String) : Prop where
  slash_free : '/' ∉ name.toList
  ne_empty : name ≠ ""
  ne_here : name ≠ "."
  ne_up : name ≠ ".."

namespace PlainName

theorem toList_ne_nil (h : PlainName name) : name.toList ≠ [] :=
  fun hnil => h.ne_empty (String.toList_inj.mp hnil)

theorem head?_ne (h : PlainName name) : name.toList.head? ≠ some '/' :=
  fun hhead => h.slash_free (List.mem_of_head? hhead)

theorem componentOf?_eq (h : PlainName name) : componentOf? name.toList = some (.name name) := by
  have hhere : name.toList ≠ ['.'] := fun heq => h.ne_here (String.toList_inj.mp heq)
  have hup : name.toList ≠ ['.', '.'] := fun heq => h.ne_up (String.toList_inj.mp heq)
  rw [componentOf?, if_neg (by simp [h.toList_ne_nil, hhere]), if_neg hup, String.ofList_toList]

end PlainName

theorem toList_join (h : PlainName name) :
    (base.join name).text.toList =
      if base.text.toList = [] ∨ base.text.toList.getLast? = some '/' then
        base.text.toList ++ name.toList
      else base.text.toList ++ '/' :: name.toList := by
  have hempty : base.text.isEmpty = decide (base.text.toList = []) := by
    rw [Bool.eq_iff_iff, String.isEmpty_iff, decide_eq_true_eq, String.toList_eq_nil_iff]
  rw [join, if_neg (by simp [h.head?_ne])]
  simp only [hempty, Bool.or_eq_true, decide_eq_true_eq, beq_iff_eq]
  split
  · rw [String.toList_append]
  · simp

/-- The pieces of a longer path are those of the path, except for an empty one at its end, and the name. -/
theorem pieces_join (base : FilePath) (h : PlainName name) :
    base.text.toList = [] ∧ Text.pieces '/' (base.join name).text.toList = [name.toList] ∨
      ∃ front, front ≠ [] ∧ Text.pieces '/' (base.join name).text.toList = front ++ [name.toList] ∧
        (Text.pieces '/' base.text.toList = front ∨
          Text.pieces '/' base.text.toList = front ++ [[]]) := by
  have hname := Text.pieces_of_not_mem h.slash_free
  rw [toList_join h]
  by_cases hempty : base.text.toList = []
  · left
    rw [if_pos (.inl hempty), hempty, List.nil_append, hname]
    exact ⟨rfl, rfl⟩
  right
  by_cases hlast : base.text.toList.getLast? = some '/'
  · obtain ⟨front, hfront⟩ := List.getLast?_eq_some_iff.mp hlast
    refine ⟨Text.pieces '/' front, Text.pieces_ne_nil _ _, ?_, .inr ?_⟩
    · rw [if_pos (.inr hlast), hfront, List.append_assoc, List.singleton_append,
        Text.pieces_append_separator, hname]
    · rw [hfront, Text.pieces_append_separator]
      rfl
  · refine ⟨Text.pieces '/' base.text.toList, Text.pieces_ne_nil _ _, ?_, .inl rfl⟩
    rw [if_neg (not_or.mpr ⟨hempty, hlast⟩), Text.pieces_append_separator, hname]

theorem isAbsolute_join (base : FilePath) (h : PlainName name) :
    (base.join name).isAbsolute = base.isAbsolute := by
  have hhead : (base.join name).text.toList.head? = some '/' ↔ base.text.toList.head? = some '/' := by
    rw [toList_join h]
    cases hbase : base.text.toList with
    | nil => simpa using h.head?_ne
    | cons c rest => split <;> rfl
  rw [isAbsolute, isAbsolute, Bool.eq_iff_iff, beq_iff_eq, beq_iff_eq]
  exact hhead

/-- **Longer paths.**  A plain name that is joined to a path is one more component. -/
theorem components_join (h : PlainName name) :
    (base.join name).components = base.components ++ [.name name] := by
  have habsolute := isAbsolute_join base h
  have hlast : [name.toList].filterMap componentOf? = [.name name] := by
    rw [List.filterMap_cons_some h.componentOf?_eq, List.filterMap_nil]
  rw [components, components, habsolute]
  obtain ⟨hempty, hpieces⟩ | ⟨front, hfront, hpieces, hbase⟩ := pieces_join base h
  · have hrelative : base.isAbsolute = false := by rw [isAbsolute, hempty]; rfl
    have hhere : name.toList ≠ ['.'] := fun heq => h.ne_here (String.toList_inj.mp heq)
    simp only [hpieces, hempty, hrelative, hlast]
    simp [hhere, Text.pieces, componentOf?]
  · obtain ⟨piece, rest, rfl⟩ := List.exists_cons_of_ne_nil hfront
    -- An empty piece at the end stands for no component, and it is not the first one.
    have hnamed : (Text.pieces '/' base.text.toList).filterMap componentOf? =
        (piece :: rest).filterMap componentOf? := by
      obtain hsame | hmore := hbase
      · rw [hsame]
      · rw [hmore, List.filterMap_append]
        simp [componentOf?]
    have hhead : (Text.pieces '/' base.text.toList).head? = some piece := by
      obtain hsame | hmore := hbase
      · rw [hsame, List.head?_cons]
      · rw [hmore, List.cons_append, List.head?_cons]
    have hjoined : (piece :: rest ++ [name.toList]).filterMap componentOf? =
        (piece :: rest).filterMap componentOf? ++ [.name name] := by
      rw [List.filterMap_append, hlast]
    have hfirst : (piece :: rest ++ [name.toList]).head? = some piece := rfl
    simp only [hpieces, hnamed, hhead, hjoined, hfirst]
    split
    · rfl
    · split <;> rfl

theorem fileName?_join (h : PlainName name) : (base.join name).fileName? = some name := by
  rw [fileName?, components_join h, List.getLast?_concat]
  rfl

theorem parentName?_join (h : PlainName name) : (base.join name).parentName? = base.fileName? := by
  rw [parentName?, components_join h, List.dropLast_concat, fileName?]

/-- What is in a directory has a longer path than the directory. -/
theorem length_lt_join (base : FilePath) (h : PlainName name) :
    base.text.toList.length < (base.join name).text.toList.length := by
  have hpos := List.length_pos_iff.mpr h.toList_ne_nil
  rw [toList_join h]
  split
  · rw [List.length_append]
    omega
  · rw [List.length_append, List.length_cons]
    omega

end FilePath
end I2cTopology
