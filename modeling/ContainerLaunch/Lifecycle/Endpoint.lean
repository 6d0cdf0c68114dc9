import ContainerLaunch.Error
import ContainerLaunch.Lifecycle.Address
import ContainerLaunch.Text.Blank
/-!
# Endpoints

Where the daemon's event stream is asked for: on a socket of the local machine, or under a base URL.
-/

namespace ContainerLaunch.Lifecycle

/-- Where a daemon listens. -/
inductive Endpoint where
  | socket (path : String)
  | remote (baseUrl : String)
  deriving DecidableEq, Repr

/-- What requests to a daemon go over. -/
inductive Carrier where
  | socket (path : String)
  | network
  deriving DecidableEq, Repr

/-- Why a daemon URL gives no endpoint. -/
inductive EndpointError where
  | config (e : ConfigError)
  | url (e : UrlError)
  | address (e : AddressError)
  deriving DecidableEq, Repr

/-- The wording of an endpoint error. -/
def EndpointError.message : EndpointError → String
  | .config e => e.report.message
  | .url e => e.message
  | .address e => e.message

namespace Endpoint

/-- The endpoint of a daemon URL. -/
def ofUrl (text : String) : Except EndpointError Endpoint :=
  match Url.parse text with
  | .error e => .error (.url e)
  | .ok url =>
    if url.scheme = "unix" then .ok (.socket url.path)
    else if url.scheme = "tcp" then .ok (.remote ("http://" ++ url.authority))
    else if url.scheme = "http" ∨ url.scheme = "https" then
      .ok (.remote (String.ofList (Text.dropTrailing '/' text.toList)))
    else .error (.config (.unsupportedUrl text))

/-- The base of the requests. On a socket the host has no meaning. -/
def baseUrl : Endpoint → String
  | .socket _ => "http://docker"
  | .remote baseUrl => baseUrl

/-- The path of the socket. -/
def socketPath? : Endpoint → Option String
  | .socket path => some path
  | .remote _ => none

/-- What requests go over if nothing else is given: a socket if there is a path to it, else the network. -/
def carrier (e : Endpoint) : Carrier :=
  match e.socketPath? with
  | some path => if path.isEmpty then .network else .socket path
  | none => .network

/-- The address that requests go below. -/
def address (e : Endpoint) : Except AddressError Address := do
  (← Address.ofText e.baseUrl.toList).asBase

end Endpoint

end ContainerLaunch.Lifecycle
