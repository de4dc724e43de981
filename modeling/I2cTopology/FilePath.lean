import I2cTopology.Text.Pieces

/-!
# File paths

A file path is kept as it was written. Its components are what the separators leave: repeated
separators count once, and `.` names nothing unless the path begins with it.
-/

namespace I2cTopology

/-- The location of a file, as written. -/
structure FilePath where
  text : String
  deriving DecidableEq, Repr, Inhabited

namespace FilePath

/-- One component of a path. -/
inductive Component where
  | root
  | here
  | up
  | name (text : String)
  deriving DecidableEq, Repr

/-- Does the path start at the root directory? -/
def isAbsolute (path : FilePath) : Bool :=
  path.text.toList.head? == some '/'

/-- The path of `part` as seen from `base`. An absolute part stands alone. -/
def join (base : FilePath) (part : String) : FilePath :=
  if part.toList.head? == some '/' then ⟨part⟩
  else if base.text.isEmpty || base.text.toList.getLast? == some '/' then ⟨base.text ++ part⟩
  else ⟨base.text ++ "/" ++ part⟩

/-- The component that a piece after the first one stands for. -/
def componentOf? (piece : List Char) : Option Component :=
  if piece = [] ∨ piece = ['.'] then none
  else if piece = ['.', '.'] then some .up
  else some (.name (String.ofList piece))

/-- The components of a path. -/
def components (path : FilePath) : List Component :=
  let pieces := Text.pieces '/' path.text.toList
  let named := pieces.filterMap componentOf?
  if path.isAbsolute then .root :: named
  else if pieces.head? = some ['.'] then .here :: named
  else named

/-- How a component is written. The root directory is written by the separator after it. -/
def Component.text : Component → String
  | root => ""
  | here => "."
  | up => ".."
  | name text => text

/-- The path with the given components. -/
def ofComponents (components : List Component) : FilePath :=
  if components = [.root] then ⟨"/"⟩
  else ⟨String.intercalate "/" (components.map Component.text)⟩

/-- The directories that a path is written under, from the innermost one. A relative path is at last
written under the empty path, an absolute one under the root directory. -/
def parents (path : FilePath) : List FilePath :=
  let components := path.components
  let fronts := (List.range components.length).reverse.map components.take
  (fronts.filter fun front => !(path.isAbsolute && front.isEmpty)).map ofComponents

/-- Do the paths have the same components? -/
def sameAs (a b : FilePath) : Bool :=
  a.components == b.components

/-- The name that the last component gives. -/
def nameOf? : Option Component → Option String
  | some (.name text) => some text
  | _ => none

/-- The last component, where it is a name. -/
def fileName? (path : FilePath) : Option String :=
  nameOf? path.components.getLast?

/-- The last component of the path's parent, where it is a name. -/
def parentName? (path : FilePath) : Option String :=
  nameOf? path.components.dropLast.getLast?

end FilePath
end I2cTopology
