/-
Module: SassRenderLint.Config.Files
Layer: Config
Purpose: Config modules that are files. A package root is the nearest directory that holds a marker
  file. A specifier names the first file among the path itself, the path with a known extension, and
  an index file with a known extension. A file is read before its extension is looked at.
Program names: nearestPackage is find_package_root and findModule is resolve_from of FsPackageLocator,
  candidates is module_candidates, extensions is MODULE_EXTENSIONS, loadFile is load of FsModuleLoader.
Main exports: FileAccess, ModuleSystem.ofFiles, ModuleSystem.candidates, ModuleSystem.loadFile
-/
import SassRenderLint.Config.Modules
import SassRenderLint.Json.Reader
import SassRenderLint.Toml.Document

namespace SassRenderLint

/-- What is asked of files. -/
structure FileAccess where
  /-- Whether there is a file at a path. -/
  isFile : Path → Bool
  /-- The text of the file at a path, or why it cannot be had. -/
  read : Path → Except String String

namespace ModuleSystem

def defaultMarkers : List String := ["package.json"]

/-- The nearest directory among a directory and those above it that holds a marker file. -/
def nearestPackage (files : FileAccess) (markers : List String) (start : Path) : Option Path :=
  start.ancestors.find? fun directory => markers.any fun marker => files.isFile (directory.join (.ofString marker))

def extensions : List String := ["json", "toml"]

/-- Where a module is looked for, in order. -/
def candidates (requested : Path) : List Path :=
  requested :: (extensions.map fun extension => requested.append ("." ++ extension))
    ++ extensions.map fun extension => requested.join (.ofString ("index." ++ extension))

/-- The first candidate that is a file. -/
def findModule (files : FileAccess) (base : Path) (specifier : String) : Except ConfigError Path :=
  match (candidates (base.join (.ofString specifier))).find? files.isFile with
  | some path => .ok path
  | none => .error (.moduleNotFound specifier base)

/-- The value that a text stands for, read as the extension of its path says. -/
def parseFile (path : Path) (text : String) : Except ConfigError Json :=
  if path.hasExtension "json" then
    match Json.read? text with
    | some value => .ok value
    | none => .error (.parse path "malformed JSON")
  else if path.hasExtension "toml" then
    match Toml.read? text with
    | some fields => .ok (.obj fields)
    | none => .error (.parse path "malformed TOML")
  else .error (.unsupportedFormat path)

/-- Reads a config module. -/
def loadFile (files : FileAccess) (path : Path) : Except ConfigError Json :=
  match files.read path with
  | .error message => .error (.read path message)
  | .ok text => parseFile path text

/-- Config modules that are files. They leave their surroundings alone. -/
def ofFiles {ω : Type} (files : FileAccess) (markers : List String) : ModuleSystem ω where
  packageRoot start env := (nearestPackage files markers start, env)
  resolveFrom base specifier env := (findModule files base specifier, env)
  load path := .done ((loadFile files path).map .inline)

end ModuleSystem

end SassRenderLint
