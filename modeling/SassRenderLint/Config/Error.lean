/-
Module: SassRenderLint.Config.Error
Layer: Config
Purpose: Why the options of a config module cannot be had.
Program names: ConfigError is ConfigResolutionError.
Main exports: ConfigError, ConfigError.message
-/
import SassRenderLint.Path.Basic

namespace SassRenderLint

/-- Why the options of a config module cannot be had. -/
inductive ConfigError where
  /-- No file answers to the specifier. -/
  | moduleNotFound (specifier : String) (base : Path)
  /-- The file cannot be read. -/
  | read (path : Path) (message : String)
  /-- The text of the file is malformed. -/
  | parse (path : Path) (message : String)
  /-- The extension of the file is not known. -/
  | unsupportedFormat (path : Path)
  /-- The module's factory failed. -/
  | factory (message : String)
  /-- The module provides something else than an object. -/
  | notAnObject (path : Path) (kind : String)
deriving DecidableEq, Repr, Inhabited

def ConfigError.message : ConfigError → String
  | .moduleNotFound specifier base => "Cannot find module '" ++ specifier ++ "' from '" ++ base.shown ++ "'"
  | .read path message => "Failed to read config module '" ++ path.shown ++ "': " ++ message
  | .parse path message => "Failed to parse config module '" ++ path.shown ++ "': " ++ message
  | .unsupportedFormat path => "Unsupported config module format: '" ++ path.shown ++ "'"
  | .factory message => "Config factory failed: " ++ message
  | .notAnObject path kind => "Config module '" ++ path.shown ++ "' must provide an object, got " ++ kind

end SassRenderLint
