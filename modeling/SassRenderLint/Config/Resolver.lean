/-
Module: SassRenderLint.Config.Resolver
Layer: Config
Purpose: The compiler options for a target. Options that stand in the rule's own options are taken as
  they are; a specifier is looked up from the package root and imported. Locations are remembered by
  working directory and specifier, imports by location; paths that are the same place are one key.
  Failures are not remembered.
Program names: Resolver with ConfigTables is OptionsResolver, location is config_location, importModule
  is import_config, baseOptions is base_options, resolve is resolve, fallbackBase is fallback_base.
Main exports: Resolver, ConfigTables, ConfigState, Resolver.location, Resolver.importModule,
  Resolver.baseOptions, Resolver.resolve
-/
import SassRenderLint.Config.Modules
import SassRenderLint.Memo.Basic
import SassRenderLint.Path.Quoted
import SassRenderLint.Render.CompilerOptions
import SassRenderLint.Rule.Options
import SassRenderLint.Rule.Target

namespace SassRenderLint

/-- Looks options up from a working directory. -/
structure Resolver (ω : Type) where
  cwd : Path
  modules : ModuleSystem ω

/-- What a resolver remembers. -/
structure ConfigTables where
  locations : Memo (List Component × String) Path
  imports : Memo (List Component) Fields

namespace ConfigTables

def empty : ConfigTables := ⟨.empty, .empty⟩

instance : Inhabited ConfigTables := ⟨empty⟩

end ConfigTables

/-- The surroundings, and what a resolver remembers. -/
structure ConfigState (ω : Type) where
  env : ω
  tables : ConfigTables

namespace ConfigState

variable {ω : Type}

def envSlot : Slot (ConfigState ω) ω where
  get s := s.env
  set env s := { s with env := env }

def locationsSlot : Slot (ConfigState ω) (Memo (List Component × String) Path) where
  get s := s.tables.locations
  set locations s := { s with tables := { s.tables with locations := locations } }

def importsSlot : Slot (ConfigState ω) (Memo (List Component) Fields) where
  get s := s.tables.imports
  set imports s := { s with tables := { s.tables with imports := imports } }

end ConfigState

/-- The compiler options for a target, and the file to which what it compiles belongs. -/
structure ResolvedOptions where
  options : CompilerOptions
  attributedFile : Option String
deriving DecidableEq, Repr, Inhabited

namespace Resolver

variable {ω : Type}

/-- Where lookups start when there is no package: the directory above, if there is one. -/
def fallbackBase (cwd : Path) : Path := cwd.parent?.getD cwd

/-- Asks for the module that a specifier names. -/
def locate (r : Resolver ω) (specifier : String) (env : ω) : Except ConfigError Path × ω :=
  let (root, env) := r.modules.packageRoot r.cwd env
  r.modules.resolveFrom (root.getD (fallbackBase r.cwd)) specifier env

/-- The module that a specifier names. -/
def location (r : Resolver ω) (specifier : String) : Routine (ConfigState ω) (Except ConfigError Path) :=
  Memo.tryLookup ConfigState.locationsSlot (r.cwd.components, specifier)
    ((Routine.modifyGet (r.locate specifier)).zoom ConfigState.envSlot)

/-- The options of the module at a path. -/
def importModule (r : Resolver ω) (path : Path) : Routine (ConfigState ω) (Except ConfigError Fields) :=
  Memo.tryLookup ConfigState.importsSlot path.components ((r.modules.loadFields path).zoom ConfigState.envSlot)

/-- The options that a setting stands for. -/
def baseOptions (r : Resolver ω) : CompilerConfig → Routine (ConfigState ω) (Except ConfigError Fields)
  | .inline fields => .done (.ok fields)
  | .fromModule specifier =>
    (r.location specifier).bind fun
      | .error e => .done (.error e)
      | .ok path => r.importModule path

/-- What is compiled for a target: a style file itself, and the text of anything else. -/
def inputFor (target : Target) (content : String) : CompileInput :=
  match target with
  | .path path => if target.isStyleFile then .file path else .content content
  | .stdin => .content content

/-- The compiler options for a target. -/
def resolve (r : Resolver ω) (target : Target) (content : String) (config : CompilerConfig) :
    Routine (ConfigState ω) (Except ConfigError ResolvedOptions) :=
  (r.baseOptions config).bind fun base =>
    .done (base.map fun fields => ⟨⟨fields, inputFor target content⟩, target.path?.map Path.shown⟩)

def shown (r : Resolver ω) (tables : ConfigTables) : String :=
  "OptionsResolver \x7b cwd: " ++ r.cwd.quoted ++ ", locations: " ++ tables.locations.shown ++ ", imports: "
    ++ tables.imports.shown ++ " \x7d"

end Resolver

end SassRenderLint
