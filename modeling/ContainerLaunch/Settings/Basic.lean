import ContainerLaunch.Error
import ContainerLaunch.Text.Blank
/-!
# Settings

Each setting is taken from a keyword, else from its variable in the process environment, else from a
default. `Settings.validate` refuses settings under which nothing could be launched safely.
-/

namespace ContainerLaunch

/-- The variables of a process. -/
abbrev Variables := List (String × String)

namespace Variables

/-- The value of a variable. -/
def get? (vars : Variables) (name : String) : Option String := vars.lookup name

/-- Takes a variable away. -/
def unset (vars : Variables) (name : String) : Variables := vars.filter fun v => v.1 != name

/-- Gives a variable a value. -/
def set (vars : Variables) (name value : String) : Variables := (name, value) :: vars.unset name

end Variables

/-- The settings of a launcher. -/
structure Settings where
  dockerUrl : String
  client : String
  imageVariable : String
  authMode : String
  helperPath : String
  strategy : String
  watchEvents : Bool
  verifyDaemon : Bool
  deriving DecidableEq, Repr, Inhabited

/-- Settings given as keywords. -/
structure Overrides where
  dockerUrl : Option String := none
  client : Option String := none
  imageVariable : Option String := none
  authMode : Option String := none
  helperPath : Option String := none
  strategy : Option String := none
  watchEvents : Option Bool := none
  verifyDaemon : Option Bool := none
  deriving DecidableEq, Repr, Inhabited

namespace Settings

def defaultUrl : String := "unix:///var/run/docker.sock"
def defaultImageVariable : String := "yarn.nodemanager.docker-container-executor.image-name"
def defaultHelperPath : String := "/usr/local/bin/container-executor"
def supportedAuthMode : String := "simple"

/-- The words that switch a setting on. -/
def truthyWords : List String := ["1", "true", "yes", "on"]

/-- Whether a variable switches a setting on; upper and lower case are the same, and blanks around the
word do not count. The words hold only letters whose case is a matter of ASCII. -/
def isTruthyText (text : String) : Bool :=
  truthyWords.contains (String.ofList ((Text.trim text).toList.map Char.toLower))

/-- The switch set by a variable, with a default for one that is not set. -/
def switch (value : Option String) (default : Bool) : Bool := (value.map isTruthyText).getD default

/-- A keyword, or the variable if there is none, or the default. -/
def pick (keyword inherited : Option String) (default : String) : String :=
  (keyword.or inherited).getD default

/-- As `pick`, but an empty keyword is no keyword. -/
def pickNonempty (keyword inherited : Option String) (default : String) : String :=
  pick (keyword.filter (!·.isEmpty)) inherited default

/-- The settings from keywords and variables. -/
def resolve (given : Overrides) (vars : Variables) : Settings where
  dockerUrl := pick given.dockerUrl (vars.get? "DOCKEREXEC_DOCKER_URL") defaultUrl
  client := pickNonempty given.client (vars.get? "DOCKEREXEC_CLIENT") "docker"
  imageVariable := pickNonempty given.imageVariable (vars.get? "DOCKEREXEC_IMAGE_ENV_VAR")
    defaultImageVariable
  authMode := pickNonempty given.authMode (vars.get? "DOCKEREXEC_AUTH_MODE") supportedAuthMode
  helperPath := pickNonempty given.helperPath (vars.get? "DOCKEREXEC_HELPER_PATH") defaultHelperPath
  strategy := pickNonempty given.strategy (vars.get? "DOCKEREXEC_STRATEGY") "create_start"
  watchEvents := given.watchEvents.getD (switch (vars.get? "DOCKEREXEC_WATCH_EVENTS") true)
  verifyDaemon := given.verifyDaemon.getD (switch (vars.get? "DOCKEREXEC_VERIFY_DAEMON") false)

/-- Refuses settings under which no launch could be attempted safely: access is controlled by the
privileged helper alone, so only the simplest mode of authentication will do. -/
def validate (s : Settings) : Except ConfigError Unit :=
  if s.authMode ≠ supportedAuthMode then .error (.unsupportedAuthMode s.authMode)
  else if Text.isBlankText s.dockerUrl then .error .missingUrl
  else if s.strategy ∉ strategyNames then .error (.unknownStrategy s.strategy)
  else if s.client ∉ clientNames then .error (.unknownClient s.client)
  else .ok ()

/-! ## Assignments -/

/-- A setting together with a new value for it. -/
inductive Assignment where
  | dockerUrl (value : String)
  | client (value : String)
  | imageVariable (value : String)
  | authMode (value : String)
  | helperPath (value : String)
  | strategy (value : String)
  | watchEvents (value : Bool)
  | verifyDaemon (value : Bool)
  deriving DecidableEq, Repr

/-- The settings with one of them changed. -/
def assign (s : Settings) : Assignment → Settings
  | .dockerUrl v => { s with dockerUrl := v }
  | .client v => { s with client := v }
  | .imageVariable v => { s with imageVariable := v }
  | .authMode v => { s with authMode := v }
  | .helperPath v => { s with helperPath := v }
  | .strategy v => { s with strategy := v }
  | .watchEvents v => { s with watchEvents := v }
  | .verifyDaemon v => { s with verifyDaemon := v }

end Settings

end ContainerLaunch
