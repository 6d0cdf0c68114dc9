import ContainerLaunch.Error
import ContainerLaunch.Log
import ContainerLaunch.Script.Basic
import ContainerLaunch.Text.Points
/-!
# Delivering a script

A launch script is written to a sink in one piece, flushed, and the sink is closed whatever happened
before. `Delivery` records the calls. A script is encoded before it is written, and not written at all if it has
no encoding. A sink that cannot be closed is only logged, so that it never hides an earlier failure.
-/

namespace ContainerLaunch

/-- How a sink answers each of its calls. -/
structure Sink where
  writeFailure : Option Failure := none
  flushFailure : Option Failure := none
  closeFailure : Option Failure := none
  deriving DecidableEq, Repr, Inhabited

/-- A call of a sink. -/
inductive SinkCall where
  | write (bytes : List UInt8)
  | flush
  | close
  deriving DecidableEq, Repr

namespace Sink

/-- What the sink holds after some calls: a write that fails stores nothing. -/
def stored (sink : Sink) (calls : List SinkCall) : List UInt8 :=
  if sink.writeFailure.isSome then []
  else calls.flatMap fun call => match call with
    | .write bytes => bytes
    | _ => []

end Sink

/-- Why a script did not arrive. -/
inductive DeliveryError where
  | build (e : ScriptError)
  | encode (e : Text.EncodeError)
  | sink (f : Failure)
  deriving DecidableEq, Repr

/-- Writes a text and flushes the sink. A text without an encoding does not get to the sink. -/
def Sink.put (sink : Sink) (text : Text.Points) : List SinkCall × Option DeliveryError :=
  match text.encode with
  | .error e => ([], some (.encode e))
  | .ok bytes =>
    match sink.writeFailure with
    | some f => ([.write bytes], some (.sink f))
    | none => ([.write bytes, .flush], sink.flushFailure.map .sink)

/-- What was done to deliver a script. -/
structure Delivery where
  calls : List SinkCall
  result : Except DeliveryError Unit
  logs : List LogRecord

namespace Script

/-- The text of the script as its code points. -/
def points (s : Script) : Text.Points := .ofString s.render

/-- Writes the script and flushes the sink. -/
def writeTo (s : Script) (sink : Sink) : List SinkCall × Option DeliveryError := sink.put s.points

/-- Writes the text of a script, if it could be built, and closes the sink. -/
def deliver (built : Except ScriptError Text.Points) (sink : Sink) : Delivery :=
  let (calls, result, logs) : List SinkCall × Except DeliveryError Unit × List LogRecord :=
    match built with
    | .error e => ([], .error (.build e), [])
    | .ok text =>
      match sink.put text with
      | (calls, some e) => (calls, .error e, [])
      | (calls, none) => (calls, .ok (), [.debug .script ("Script: " ++ text.shown)])
  let calls := calls ++ [.close]
  match sink.closeFailure with
  | none => { calls, result, logs }
  | some f =>
    if f.isOrdinary then
      { calls, result,
        logs := logs ++
          [.warning .script ("Failed to close launch script stream: " ++ f.message)] }
    else { calls, result := .error (.sink f), logs }

end Script

end ContainerLaunch
