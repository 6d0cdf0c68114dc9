import ContainerLaunch.Helper.Child
import ContainerLaunch.Helper.Command
/-!
# Orders to the helper

An order is a task for a container together with the call that carries it out.
-/

namespace ContainerLaunch.Helper

/-- An order. -/
structure Order where
  task : Task
  containerId : String
  call : Call
  deriving DecidableEq, Repr, Inhabited

/-- The order of a task; the child gets exactly the environment of the request. -/
def order (setup : Setup) (task : Task) (r : Request) (plan : Plan) : Order where
  task
  containerId := r.containerId
  call := { argv := argv setup task r plan, environment := r.environment }

namespace Order

/-- What is logged before an order is carried out. -/
def callLog (o : Order) : List LogRecord :=
  [.debug .helper ("command: " ++ String.intercalate " " o.call.argv)]

/-- What is logged about the result of an order. -/
def resultLog (o : Order) (r : Result) : List LogRecord :=
  r.callLog o.containerId ++
    match o.task with
    | .remove => r.removalLog o.containerId
    | _ => []

/-- What the result of an order counts as: removing what is gone already succeeds. -/
def settle (o : Order) (r : Result) : Result :=
  match o.task with
  | .remove => r.settleRemoval
  | _ => r

end Order

end ContainerLaunch.Helper
