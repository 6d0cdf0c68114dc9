import ContainerLaunch.Client
import ContainerLaunch.Request
/-!
# Commands of the privileged helper

The launcher can neither touch the container's directories nor run the daemon client as the submitting
user. Every operation goes through a helper with more rights, which takes a fixed positional part and
then the client's command.
-/

namespace ContainerLaunch.Helper

/-- The operations of the helper. -/
inductive Operation where
  | run | create | manage | remove
  deriving DecidableEq, Repr, Inhabited

namespace Operation

/-- The operations. -/
def all : List Operation := [.run, .create, .manage, .remove]

/-- The code by which the helper knows an operation. -/
def code : Operation → Int
  | .run => 4
  | .create => 5
  | .manage => 6
  | .remove => 7

/-- The operation of a code. -/
def ofCode? (code : Int) : Option Operation := all.find? fun op => op.code == code

/-- The operation of a loosely typed code. -/
def ofValue? (code : Json) : Option Operation := code.integer?.bind ofCode?

/-- The message about a value that is no code. -/
def unknownMessage (code : Json) : String := code.shown ++ " is not a valid HelperCommand"

/-- The long name of an operation. -/
def name : Operation → String
  | .run => "RUN_DOCKER_CONTAINER"
  | .create => "CREATE_DOCKER_CONTAINER"
  | .manage => "MANAGE_DOCKER_CONTAINER"
  | .remove => "REMOVE_DOCKER_CONTAINER"

end Operation

/-- The positional part of a helper's command. -/
def positional (helper : String) (op : Operation) (r : Request) : List String :=
  [helper, r.user, r.user, toString op.code, r.appId, r.containerId, r.workDir, r.scriptPath,
    r.tokensPath, String.intercalate "," r.localDirs, String.intercalate "," r.logDirs]

/-- The options of `create` and `run`, then the image and what runs in it. -/
def containerOptions (r : Request) (plan : Plan) : List String :=
  ["--net", "host", "--name", r.containerId, "--user", r.user, "--workdir", r.workDir] ++
    Mount.passwdArgs ++ Mount.allArgs plan.localMounts ++ Mount.allArgs plan.logMounts ++
    [plan.image, "bash", plan.launchScript]

/-- What the helper is asked to do for a container. -/
inductive Task where
  | create | run | start | remove
  deriving DecidableEq, Repr, Inhabited

namespace Task

/-- The operation that a task belongs to. -/
def operation : Task → Operation
  | .create => .create
  | .run => .run
  | .start => .manage
  | .remove => .remove

/-- The client's verb and what follows it. -/
def clientArgs (r : Request) (plan : Plan) : Task → List String
  | .create => "create" :: containerOptions r plan
  | .run => "run" :: "--rm" :: containerOptions r plan
  | .start => ["start", "-a", r.containerId]
  | .remove => ["rm", r.containerId]

end Task

/-- The helper program and the client that it runs. -/
structure Setup where
  helperPath : String
  client : Client
  deriving DecidableEq, Repr, Inhabited

/-- The whole command of a task. -/
def argv (setup : Setup) (task : Task) (r : Request) (plan : Plan) : List String :=
  positional setup.helperPath task.operation r ++ setup.client.argv plan.dockerUrl ++
    task.clientArgs r plan

end ContainerLaunch.Helper
