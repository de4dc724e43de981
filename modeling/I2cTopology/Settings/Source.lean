import I2cTopology.Settings.Document
import I2cTopology.System.Op

/-!
# Settings files
-/

namespace I2cTopology
namespace Settings

variable {σ : Type}

/-- The settings in a file. -/
def load (path : FilePath) : Op σ Settings := do
  let text ← Op.ofFile s!"reading settings {path.text}" (← Op.query (.text path))
  match parse? text with
  | some settings => return settings
  | none => throw (.settings path)

end Settings
end I2cTopology
