import SqlAdvice.Files.Folder
import SqlAdvice.Settings.Load

/-!
# Settings of a session

A session loads its settings when they are first asked for and keeps them until it is told to forget
them, whatever happens to the variables and files meanwhile. A failed loading leaves nothing behind,
so the next question loads again.
-/

namespace SqlAdvice.Settings

/-- The surroundings of a session, and the settings it keeps. -/
structure Session where
  vars : Variables := {}
  folder : Folder := {}
  kept : Option Settings := none

namespace Session

/-- What can happen to a session between two questions for its settings. -/
inductive Change where
  | setVariable (name value : String)
  | unsetVariable (name : String)
  | writeFile (path : Path) (bytes : List UInt8)
  | removeFile (path : Path)
  | forget

/-- The session after a change. -/
def apply (s : Session) : Change → Session
  | .setVariable name value => { s with vars := s.vars.set name value }
  | .unsetVariable name => { s with vars := s.vars.unset name }
  | .writeFile path bytes => { s with folder := s.folder.write path bytes }
  | .removeFile path => { s with folder := s.folder.remove path }
  | .forget => { s with kept := none }

/-- Loads the settings from the surroundings as they are. -/
def loadNow (s : Session) : Logged SettingsFault Settings :=
  Settings.load s.folder.place s.vars

/-- The settings of the session, and the session that keeps them. -/
def settings (s : Session) : Logged SettingsFault Settings × Session :=
  match s.kept with
  | some settings => (pure settings, s)
  | none =>
    let loaded := s.loadNow
    (loaded, { s with kept := loaded.outcome.toOption })

end Session

end SqlAdvice.Settings
