/-
Module: SassRenderLint.Script.Modules
Layer: Script
Purpose: Config modules that answer from a script. Specifiers are looked up in a list; each load of a
  path takes the next answer prepared for it, and the last one again and again.
Main exports: Script.Source, Script.Modules, Script.Modules.system
-/
import SassRenderLint.Config.Modules
import SassRenderLint.Script.Stage

namespace SassRenderLint

namespace Script

/-- What a module is to provide. -/
inductive Source where
  | inline (value : Json)
  | factory (made : Except ConfigError Json)
  | asyncFactory (made : Except ConfigError Json) (suspensions : Nat)

namespace Source

/-- A source that does what the script says. -/
def perform : Source → ConfigSource Stage
  | .inline value => .inline value
  | .factory made => .factory fun s => (made, s.note .factory)
  | .asyncFactory made suspensions =>
    .asyncFactory ((Routine.update (Stage.note .asyncFactory)).bind fun _ =>
      (suspend "async_factory" suspensions).bind fun _ => .done made)

end Source

/-- The answers prepared for modules. -/
structure Modules where
  /-- The root of every package. -/
  root : Option Path
  /-- Where specifiers lead. -/
  specifiers : List (String × Path)
  /-- What the loads of each path give, in order. -/
  sources : List (String × List (Except ConfigError Source))

namespace Modules

/-- The answer to a load of a path when it was loaded `earlier` times before. -/
def answer (m : Modules) (path : Path) (earlier : Nat) : Except ConfigError Source :=
  match m.sources.lookup path.shown with
  | none => .error (.read path "no such stub")
  | some answers => (answers[earlier]?.or answers.getLast?).getD (.error (.read path "no such stub"))

/-- Where a specifier leads from a directory. -/
def lead (m : Modules) (base : Path) (specifier : String) : Except ConfigError Path :=
  match m.specifiers.lookup specifier with
  | some path => .ok (base.join path)
  | none => .error (.moduleNotFound specifier base)

/-- Modules that answer from the script. -/
def system (m : Modules) : ModuleSystem Stage where
  packageRoot start s := (m.root, s.note (.packageRoot start))
  resolveFrom base specifier s := (m.lead base specifier, s.note (.resolveFrom base specifier))
  load path := .modifyGet fun s =>
    ((m.answer path (s.loadsOf path.shown)).map Source.perform, (s.note (.load path)).countLoad path.shown)

end Modules

end Script

end SassRenderLint
