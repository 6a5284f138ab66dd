/-
Module: SassRenderLint.Config.Modules
Layer: Config
Purpose: Where config modules come from: finding the root of a package, finding the module that a
  specifier names, and loading it. All three act on the surroundings, of type `ω`, and may answer
  differently from call to call; only loading can be suspended.
Program names: ModuleSystem is PackageLocator and ModuleLoader in one, with packageRoot for
  find_package_root, resolveFrom for resolve_from, and load.
Main exports: ModuleSystem, ModuleSystem.loadFields
-/
import SassRenderLint.Config.Source

namespace SassRenderLint

/-- Where config modules come from. -/
structure ModuleSystem (ω : Type) where
  /-- The directory of the package that a directory belongs to. -/
  packageRoot : Path → ω → Option Path × ω
  /-- The module that a specifier names, seen from a directory. -/
  resolveFrom : Path → String → ω → Except ConfigError Path × ω
  /-- What the module at a path provides. -/
  load : Path → Routine ω (Except ConfigError (ConfigSource ω))

namespace ModuleSystem

variable {ω : Type}

/-- The options of the module at a path. -/
def loadFields (modules : ModuleSystem ω) (path : Path) : Routine ω (Except ConfigError Fields) :=
  (modules.load path).bind fun
    | .error e => .done (.error e)
    | .ok source => source.resolve path

end ModuleSystem

end SassRenderLint
