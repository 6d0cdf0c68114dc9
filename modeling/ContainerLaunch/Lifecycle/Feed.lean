import ContainerLaunch.Json.Reader
import ContainerLaunch.Lifecycle.Endpoint
import ContainerLaunch.Lifecycle.Payload
import ContainerLaunch.Log
import ContainerLaunch.Text.Blank
import ContainerLaunch.Text.Lines
import ContainerLaunch.Text.Utf8
/-!
# The feed of notices about one container

The daemon says nothing while a container is idle, so a read gives up after a while, and the feed asks
again for everything since the last notice, or since it began if there was none. Every other end of a
reply ends the feed. Closing the feed only marks it: whoever reads it stops at the next line and
closes the connection; if nobody ever read it, it is closed at once.

The outside is a list of replies, one for each request. A reply is the lines of its body and how the
body ended. `Session.step` is one step of whoever reads the feed: sending one request, or dealing with
one line or with the end of a body. The feed may be closed between any two steps.
-/

namespace ContainerLaunch.Lifecycle

/-- How a connection fails. -/
inductive TransportError where
  | readTimeout
  | other (name : String)
  deriving DecidableEq, Repr

namespace TransportError

/-- The error of a name. -/
def ofName (name : String) : TransportError :=
  if name = "ReadTimeout" then .readTimeout else .other name

/-- The name of an error. -/
def name : TransportError → String
  | .readTimeout => "ReadTimeout"
  | .other name => name

end TransportError

/-- How a body ends: `none` is its regular end. -/
abbrev Ending := Option TransportError

/-- The answer to one request. -/
inductive Reply where
  | refused (e : TransportError)
  | answered (status : Int) (lines : List String) (ending : Ending)
  deriving DecidableEq, Repr

namespace Reply

/-- The reply with a body of bytes. A line that is not ended counts only if the body ends regularly. -/
def ofBytes (status : Int) (body : List UInt8) (ending : Ending) : Reply :=
  .answered status
    (if ending.isNone then Text.lines (Text.Utf8.decode body)
     else Text.endedLines (Text.Utf8.decodeSoFar body))
    ending

/-- An empty reply. -/
def empty : Reply := .answered 200 [] none

end Reply

/-- Why a feed breaks off. -/
inductive FeedError where
  | transport (e : TransportError)
  | status (code : Int)
  | connectionClosed
  | payload (e : PayloadError)
  | address (e : AddressError)
  | excess (e : Json.Excess)
  deriving DecidableEq, Repr

/-- A feed: whose notices it brings, the address that it asks below, and how far its life has come. -/
structure Feed where
  containerId : String
  base : Address
  closed : Bool := false
  begun : Bool := false
  connectionClosed : Bool := false
  deriving DecidableEq, Repr

/-- Where whoever reads a feed stands: about to send a request, or in the middle of a body. Both know
when they began and from when on they ask for notices. -/
inductive Reader where
  | fresh
  | asking (begunAt : Binary64) (since : Option Binary64)
  | reading (begunAt : Binary64) (since : Option Binary64) (lines : List String) (ending : Ending)
  | finished
  deriving DecidableEq, Repr

namespace Feed

/-- The feed of notices about a container from the daemon at a URL. -/
def ofUrl (url containerId : String) : Except EndpointError Feed := do
  let endpoint ← Endpoint.ofUrl url
  match endpoint.address with
  | .ok base => return { containerId, base }
  | .error e => throw (.address e)

/-- Closes the feed. -/
def close (f : Feed) : Feed :=
  { f with closed := true, connectionClosed := f.connectionClosed || !f.begun }

/-! ## Requests -/

/-- What a request asks for: notices about containers, and only about this one. -/
def filters (f : Feed) : String :=
  Json.ascii (.obj [("type", .arr [.str "container"]), ("container", .arr [.str f.containerId])])

/-- The time of a request in the decimal form that the daemon takes. -/
def sinceText (since : Binary64) : String := since.toFixed 9

/-- The query of a request. -/
def query (f : Feed) (since : Option Binary64) : List Char :=
  let filters := "filters=".toList ++ Text.Percent.formEncode f.filters.toList
  match since with
  | none => filters
  | some t => filters ++ "&since=".toList ++ Text.Percent.formEncode (sinceText t).toList

/-- Where a request goes. -/
def target (f : Feed) (since : Option Binary64) : Except AddressError Target := do
  (← (← f.base.below "events".toList).withQuery (f.query since)).target

/-- Whether a status says that the request succeeded. -/
def isSuccess (status : Int) : Bool := 200 ≤ status && status ≤ 299

/-! ## Lines -/

/-- The notice in a line. Blank lines and lines that are not JSON are skipped. -/
def readLine (line : String) : Except FeedError (Option Notice) × List LogRecord :=
  if Text.isBlankText line then (.ok none, [])
  else
    match Json.parse line with
    | .error .malformed =>
      (.ok none, [.debug .watch ("Skipping malformed event line: " ++ Text.quoted line)])
    | .error (.excess e) => (.error (.excess e), [])
    | .ok payload =>
      match Payload.notice? payload with
      | .error e => (.error (.payload e), [])
      | .ok notice => (.ok notice, [])

end Feed

/-! ## Steps -/

/-- What a reader is given. -/
inductive Arrival where
  | notice (n : Notice)
  | stop
  | failed (e : FeedError)
  deriving DecidableEq, Repr

/-- Whether nothing comes after an arrival. -/
def Arrival.isLast : Arrival → Bool
  | .notice _ => false
  | _ => true

/-- A feed that is read: where its reader stands, and the replies that are still to come. -/
structure Session where
  feed : Feed
  reader : Reader := .fresh
  replies : List Reply := []
  deriving DecidableEq, Repr

/-- What a step comes to: what arrives, where the session stands then, the `since` of each request
that was sent, and what was logged. -/
structure Progress where
  arrival? : Option Arrival := none
  session : Session
  requests : List (Option Binary64) := []
  logs : List LogRecord := []
  deriving DecidableEq

namespace Session

/-- The session with its reader somewhere else. -/
def moveTo (s : Session) (reader : Reader) : Progress := { session := { s with reader } }

/-- Whoever stops reading, for whatever reason, closes the connection. -/
def finish (s : Session) (arrival : Arrival) : Progress where
  arrival? := some arrival
  session := { s with feed := { s.feed with connectionClosed := true }, reader := .finished }

/-- Asks again after a read that gave up: from the last notice on, or from the beginning. -/
def askAgain (s : Session) (begunAt : Binary64) (since : Option Binary64) : Progress :=
  s.moveTo (.asking begunAt (some (since.getD begunAt)))

/-- Deals with the reply to a request. -/
def receive (s : Session) (begunAt : Binary64) (since : Option Binary64) : Reply → Progress
  | .refused .readTimeout => s.askAgain begunAt since
  | .refused e => s.finish (.failed (.transport e))
  | .answered status lines ending =>
    if Feed.isSuccess status then s.moveTo (.reading begunAt since lines ending)
    else s.finish (.failed (.status status))

/-- Why no request can be sent. The address comes first. -/
def obstacle? (s : Session) (since : Option Binary64) : Option FeedError :=
  match s.feed.target since with
  | .error e => some (.address e)
  | .ok _ => if s.feed.connectionClosed then some .connectionClosed else none

/-- Takes the next reply in. After the last one everything is answered by an empty body, which ends the
feed. -/
def takeReply (s : Session) (begunAt : Binary64) (since : Option Binary64) : Progress :=
  match s.replies with
  | [] => { s.finish .stop with requests := [since] }
  | reply :: rest =>
    { ({ s with replies := rest } : Session).receive begunAt since reply with requests := [since] }

/-- Sends a request, unless the feed is closed. -/
def ask (s : Session) (begunAt : Binary64) (since : Option Binary64) : Progress :=
  if s.feed.closed then s.finish .stop
  else
    match s.obstacle? since with
    | some e => s.finish (.failed e)
    | none => s.takeReply begunAt since

/-- Deals with the end of a body. -/
def endBody (s : Session) (begunAt : Binary64) (since : Option Binary64) : Ending → Progress
  | none => s.finish .stop
  | some .readTimeout => s.askAgain begunAt since
  | some e => s.finish (.failed (.transport e))

/-- Deals with a line. -/
def readLine (s : Session) (begunAt : Binary64) (since : Option Binary64) (line : String)
    (rest : List String) (ending : Ending) : Progress :=
  match Feed.readLine line with
  | (.error e, logs) => { s.finish (.failed e) with logs }
  | (.ok none, logs) => { s.moveTo (.reading begunAt since rest ending) with logs }
  | (.ok (some n), logs) =>
    { s.moveTo (.reading begunAt (some n.time) rest ending) with arrival? := some (.notice n), logs }

/-- One step of the reader. A closed feed stops at the next line or request. -/
def step (s : Session) (now : Binary64) : Progress :=
  match s.reader with
  | .fresh => { s with feed := { s.feed with begun := true } : Session }.moveTo (.asking now none)
  | .asking begunAt since => s.ask begunAt since
  | .reading begunAt since [] ending => s.endBody begunAt since ending
  | .reading begunAt since (line :: rest) ending =>
    if s.feed.closed then s.finish .stop else s.readLine begunAt since line rest ending
  | .finished => { arrival? := some .stop, session := s }

/-- Closes the feed between two steps. -/
def close (s : Session) : Session := { s with feed := s.feed.close }

/-- Begins to read anew. A reader that is left in the middle closes the connection. -/
def restart (s : Session) : Session :=
  match s.reader with
  | .fresh | .finished => { s with reader := .fresh }
  | _ => { s with feed := { s.feed with connectionClosed := true }, reader := .fresh }

end Session

end ContainerLaunch.Lifecycle
