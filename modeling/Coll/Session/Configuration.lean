import Coll.Session.Surroundings

/-!
Where the settings of a run come from.
-/

namespace Coll.Session

open Logging (Event)
open Storage (Lookup)

/-- Where a configuration file is looked for if none is named, in this order. -/
def configurationPaths (home configuration : Option String) : List String :=
  let file := "collc.toml"
  let below (directory : String) := Storage.Path.join (Storage.Path.join directory "collc") file
  let ofHome := home.map (Storage.Path.join · ".config")
  let ofSystem :=
    match configuration with
    | some directory => if Storage.Path.isAbsolute directory then some directory else ofHome
    | none => ofHome
  file :: (ofHome.toList ++ ofSystem.toList).map below

def readSettings (storage : Lookup) (path : String) : Except RunFailure Settings :=
  if !storage.holds path then .error (.noConfiguration path)
  else
    match storage.text path with
    | .error failure => .error (.unreadableConfiguration failure)
    | .ok text =>
      match Settings.parse? text.toList with
      | none => .error .malformedConfiguration
      | some settings => .ok settings

/-- The settings in force, and the file that they come from. Without a file all of them have
their defaults. -/
def loadSettings (surroundings : Surroundings) (named : Option String) :
    Except RunFailure (Settings × Option String) := do
  let path := named.or
    ((configurationPaths surroundings.home surroundings.configuration).find?
      surroundings.storage.holds)
  match path with
  | none => return ({}, none)
  | some path => return (← readSettings surroundings.storage path, some path)

/-- What is told when the settings come from a file. -/
def settingsEvent (path : String) : Event where
  level := .debug
  component := .configuration
  message := "loaded configuration"
  fields := [("path", path)]

end Coll.Session
