/-
Module: SassRenderLint.Config.Source
Layer: Config
Purpose: What a config module provides: options as they stand, or a factory that makes them, at once or
  with suspensions. Factories act on the surroundings, of type `ω`.
Program names: ConfigSource is ConfigSource, with factory for SyncFactory and asyncFactory for
  AsyncFactory; objectOf is the end of resolve.
Main exports: ConfigSource, ConfigSource.resolve, ConfigSource.shown
-/
import SassRenderLint.Config.Error
import SassRenderLint.Json.Shown
import SassRenderLint.Routine.Basic

namespace SassRenderLint

/-- What a config module provides. -/
inductive ConfigSource (ω : Type) where
  | inline (value : Json)
  | factory (make : ω → Except ConfigError Json × ω)
  | asyncFactory (make : Routine ω (Except ConfigError Json))

namespace ConfigSource

variable {ω : Type}

/-- Options are an object. `origin` is the module they come from. -/
def objectOf (origin : Path) : Json → Except ConfigError Fields
  | .obj fields => .ok fields
  | other => .error (.notAnObject origin other.kindName)

/-- The value that the source stands for. -/
def value : ConfigSource ω → Routine ω (Except ConfigError Json)
  | .inline value => .done (.ok value)
  | .factory make => .modifyGet make
  | .asyncFactory make => make

/-- The options that the source stands for. -/
def resolve (source : ConfigSource ω) (origin : Path) : Routine ω (Except ConfigError Fields) :=
  source.value.bind fun made => .done (made.bind (objectOf origin))

/-- The text of a source. Factories cannot be looked into. -/
def shown : ConfigSource ω → String
  | .inline value => "Inline(" ++ value.shown ++ ")"
  | .factory _ => "Factory(..)"
  | .asyncFactory _ => "AsyncFactory(..)"

end ConfigSource

end SassRenderLint
