import JsonSeek.Settings.Source

/-!
# Sessions

Settings are loaded when they are first needed and then kept until they are reset, whatever
happens to the environment and to the configuration file in the meantime.
-/

namespace JsonSeek.Settings

/-- The surroundings of a program: variables, the home folder, and files by their paths. -/
structure Surroundings where
  environment : Environment
  home : String
  files : List (String × List UInt8)

/-- Gives a key a value, or takes its value away. -/
def setEntry {β : Type} (key : String) (value : Option β) (entries : List (String × β)) :
    List (String × β) :=
  let others := entries.filter fun entry => entry.1 != key
  match value with
  | none => others
  | some v => (key, v) :: others

namespace Surroundings

/-- Sets a variable, or removes it. -/
def setVariable (s : Surroundings) (name : String) (value : Option String) : Surroundings :=
  { s with environment := setEntry name value s.environment }

/-- Writes a file, or removes it. -/
def setFile (s : Surroundings) (path : String) (content : Option (List UInt8)) : Surroundings :=
  { s with files := setEntry path content s.files }

/-- The start of a path from the root, which one or two slashes stand for; empty for any other path.
-/
def rootOf : List Char → String
  | '/' :: '/' :: '/' :: _ => "/"
  | '/' :: '/' :: _ => "//"
  | '/' :: _ => "/"
  | _ => ""

/-- The place below a folder that is reached by the given steps. Empty parts and single dots in the
name of the folder are left out. -/
def below (folder : String) (steps : List String) : String :=
  let parts := (folder.toList.splitOn '/').map String.ofList
  rootOf folder.toList ++
    String.intercalate "/" ((parts.filter fun part => part != "" && part != ".") ++ steps)

/-- The place of the configuration file within a folder for configurations. -/
def fileIn (folder : String) : String := below folder ["jsonscope", "config.toml"]

/-- The home folder, which can be named by a variable. A name of nothing but slashes is the root. -/
def homeFolder (s : Surroundings) : String :=
  let name := (s.environment.lookup "HOME").getD s.home
  if name.toList.all (· == '/') then "/" else name

/-- The place of the configuration file. The folder for configurations can be named by a variable.
-/
def configPath (s : Surroundings) : String :=
  match s.environment.lookup "XDG_CONFIG_HOME" with
  | none | some "" => below s.homeFolder [".config", "jsonscope", "config.toml"]
  | some folder => fileIn folder

/-- The settings that the surroundings give. -/
def load (s : Surroundings) : Except Fault Settings :=
  Settings.load s.environment (s.files.lookup s.configPath)

end Surroundings

/-- Surroundings together with the settings that were loaded, if any were. -/
structure Session where
  surroundings : Surroundings
  loaded : Option Settings := none

namespace Session

/-- The settings of a session, which are loaded if none were. If that fails, nothing is kept. -/
def get (s : Session) : Except Fault Settings × Session :=
  match s.loaded with
  | some settings => (.ok settings, s)
  | none =>
    match s.surroundings.load with
    | .ok settings => (.ok settings, { s with loaded := some settings })
    | .error fault => (.error fault, s)

/-- Forgets the settings that were loaded. -/
def reset (s : Session) : Session := { s with loaded := none }

end Session

end JsonSeek.Settings
