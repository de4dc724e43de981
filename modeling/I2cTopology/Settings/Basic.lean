import I2cTopology.FilePath
import I2cTopology.Forest.Basic

/-!
# Settings

Where adapters and configuration are looked for, and how strictly the forest is built. Every setting
has a default that fits a stock system.
-/

namespace I2cTopology

/-- The settings of a discovery. -/
structure Settings where
  /-- The mount point of sysfs. -/
  sysfsRoot : FilePath := ⟨"/sys"⟩
  /-- The directory of the device files. -/
  deviceRoot : FilePath := ⟨"/dev"⟩
  /-- The default configuration file. -/
  configFile : FilePath := ⟨"/etc/i2cdiscov.conf"⟩
  /-- The default directory of further configuration files. -/
  configDir : FilePath := ⟨"/etc/i2cdiscov.d"⟩
  /-- The kernel module that provides the device files. -/
  kernelModule : String := "i2c_dev"
  /-- Must the mount point carry a sysfs file system? -/
  verifySysfs : Bool := true
  orphans : OrphanPolicy := .warn
  deriving DecidableEq, Repr, Inhabited

namespace Settings

/-- The settings for a sysfs tree at another place, which need not be a real one. -/
def withSysfsRoot (settings : Settings) (root : FilePath) : Settings :=
  { settings with sysfsRoot := root, verifySysfs := false }

/-- The directory that links to every adapter and every chip. -/
def devicesDir (settings : Settings) : FilePath :=
  settings.sysfsRoot.join "bus/i2c/devices"

/-- The directory that exists once the module for the device files is loaded. -/
def deviceClassDir (settings : Settings) : FilePath :=
  settings.sysfsRoot.join "class/i2c-dev"

/-- The device file of an adapter. -/
def deviceFile (settings : Settings) (nr : UInt32) : FilePath :=
  settings.deviceRoot.join s!"i2c-{nr}"

end Settings
end I2cTopology
