import ContainerLaunch.Helper.Command
/-!
# What the daemon's client makes of its arguments

The client reads the tokens after `create` and `run` one by one. A token in option position that begins
with a hyphen is an option, and most options take the next token as their value, whatever that looks
like. The first other token is the image, and all that follows it is the command of the container.

Values of options are safe, so the container's id, user and directories may be any texts. The image is
not the value of an option, and its grammar admits a hyphen in front: the client is told what was meant
exactly if the image does not begin with one (`readTokens_image_iff`).
-/

namespace ContainerLaunch.Helper

/-- Whether a token in option position is an option. -/
def isOption (token : String) : Bool := token.toList.head? == some '-'

/-- What the client makes of the options in front of the image. -/
structure Options where
  autoRemove : Bool := false
  network : Option String := none
  name : Option String := none
  user : Option String := none
  workDir : Option String := none
  volumes : List String := []
  deriving DecidableEq, Repr

/-- What the client is told to make a container of. -/
structure Directive where
  options : Options
  image : String
  command : List String
  deriving DecidableEq, Repr

/-- Takes in an option that comes with a value. An option that the client does not know is an error. -/
def Options.set (o : Options) (option value : String) : Option Options :=
  if option = "--net" then some { o with network := some value }
  else if option = "--name" then some { o with name := some value }
  else if option = "--user" then some { o with user := some value }
  else if option = "--workdir" then some { o with workDir := some value }
  else if option = "-v" then some { o with volumes := o.volumes ++ [value] }
  else none

/-- Reads tokens from option position on. -/
def readTokens (o : Options) : List String → Option Directive
  | [] => none
  | token :: rest =>
    if isOption token then
      if token = "--rm" then readTokens { o with autoRemove := true } rest
      else match rest with
        | [] => none
        | value :: rest => (o.set token value).bind fun o => readTokens o rest
    else some ⟨o, token, rest⟩

/-- What the client is meant to be told: the directories of the request are mounted after the host's
table of users. -/
def intended (r : Request) (plan : Plan) (autoRemove : Bool) : Directive where
  options :=
    { autoRemove
      network := some "host"
      name := some r.containerId
      user := some r.user
      workDir := some r.workDir
      volumes := "/etc/passwd:/etc/passwd:ro" :: (r.localDirs ++ r.logDirs).map fun d => d ++ ":" ++ d }
  image := plan.image
  command := ["bash", plan.launchScript]

section ReadTokens
variable {o : Options} {tokens : List String}

theorem readTokens_value {o' : Options} {option value : String} (ho : isOption option)
    (hrm : option ≠ "--rm") (h : o.set option value = some o') :
    readTokens o (option :: value :: tokens) = readTokens o' tokens := by
  simp [readTokens, ho, hrm, h]

theorem readTokens_mounts (mounts : List Mount) :
    readTokens o (Mount.allArgs mounts ++ tokens) =
      readTokens { o with volumes := o.volumes ++ mounts.map fun m => m.path ++ ":" ++ m.path } tokens := by
  induction mounts generalizing o with
  | nil => simp [Mount.allArgs]
  | cons m mounts ih =>
    rw [Mount.allArgs, List.flatMap_cons, Mount.args, List.append_assoc, List.cons_append,
      List.singleton_append, readTokens_value (by decide) (by decide) rfl]
    exact (ih (o := { o with volumes := _ })).trans (by simp [Mount.hostPath, Mount.containerPath])

theorem not_isOption_of_readTokens {d : Directive} (h : readTokens o tokens = some d) :
    isOption d.image = false := by
  fun_induction readTokens o tokens with
  | case1 => cases h
  | case2 o rest _ ih => exact ih h
  | case3 => cases h
  | case4 o token value rest hopt hrm ih =>
    obtain ⟨o', -, hrest⟩ := Option.bind_eq_some_iff.1 h
    exact ih o' hrest
  | case5 o token rest hopt =>
    cases h
    simpa using hopt

theorem mounts_of_resolve {r : Request} {plan : Plan} {url : String} (h : Plan.resolve r url = .ok plan) :
    plan.localMounts = Mount.ofPaths r.localDirs ∧ plan.logMounts = Mount.ofPaths r.logDirs := by
  unfold Plan.resolve at h
  cases himage : Image.validate r.imageReference with
  | error e => rw [himage] at h; cases h
  | ok image =>
    rw [himage] at h
    cases h
    exact ⟨rfl, rfl⟩

theorem readTokens_containerOptions {r : Request} {plan : Plan} {url : String} (autoRemove : Bool)
    (h : Plan.resolve r url = .ok plan) :
    readTokens { autoRemove } (containerOptions r plan) =
      readTokens (intended r plan autoRemove).options [plan.image, "bash", plan.launchScript] := by
  obtain ⟨hlocal, hlog⟩ := mounts_of_resolve h
  rw [containerOptions, Mount.passwdArgs, hlocal, hlog]
  simp only [List.cons_append, List.nil_append, List.append_assoc]
  rw [readTokens_value (by decide) (by decide) rfl, readTokens_value (by decide) (by decide) rfl,
    readTokens_value (by decide) (by decide) rfl, readTokens_value (by decide) (by decide) rfl,
    readTokens_value (by decide) (by decide) rfl, readTokens_mounts, readTokens_mounts]
  simp [intended, Mount.ofPaths, Function.comp_def]

end ReadTokens

/-- What the client makes of the tokens after its verb, the fifteenth token of the command. -/
def clientReads (setup : Setup) (task : Task) (r : Request) (plan : Plan) : Option Directive :=
  readTokens {} ((argv setup task r plan).drop 15)

section ClientReads
variable {r : Request} {plan : Plan} {url : String}

theorem clientReads_create (setup : Setup) (h : Plan.resolve r url = .ok plan) :
    clientReads setup .create r plan =
      readTokens (intended r plan false).options [plan.image, "bash", plan.launchScript] :=
  readTokens_containerOptions false h

theorem clientReads_run (setup : Setup) (h : Plan.resolve r url = .ok plan) :
    clientReads setup .run r plan =
      readTokens (intended r plan true).options [plan.image, "bash", plan.launchScript] := by
  show readTokens {} ("--rm" :: containerOptions r plan) = _
  rw [← readTokens_containerOptions true h]
  rfl

/-- At the image, the reading is as intended unless the image is read as an option. -/
theorem readTokens_image_iff (autoRemove : Bool) :
    readTokens (intended r plan autoRemove).options [plan.image, "bash", plan.launchScript] =
      some (intended r plan autoRemove) ↔ isOption plan.image = false := by
  constructor
  · intro h
    exact not_isOption_of_readTokens h
  · intro h
    rw [readTokens, h]
    rfl

/-- The client is told what was meant, for `create` and for `run`, exactly if the image is not read as
an option. -/
theorem clientReads_eq_intended_iff (setup : Setup) (h : Plan.resolve r url = .ok plan) :
    (argv setup .create r plan)[14]? = some "create" ∧ (argv setup .run r plan)[14]? = some "run" ∧
    (clientReads setup .create r plan = some (intended r plan false) ↔ isOption plan.image = false) ∧
    (clientReads setup .run r plan = some (intended r plan true) ↔ isOption plan.image = false) := by
  rw [clientReads_create setup h, clientReads_run setup h]
  exact ⟨rfl, rfl, readTokens_image_iff false, readTokens_image_iff true⟩

end ClientReads

section Examples

/-- A request for an image, with values that look like options. -/
def requestFor (image : String) : Request where
  containerId := "--privileged"
  user := "-v"
  appId := "app1"
  workDir := "/w/c1"
  localDirs := ["-d1", "/d2"]
  logDirs := ["/logs"]
  scriptPath := "/p/launch.sh"
  tokensPath := "/p/tokens"
  imageReference := some image

def planFor (image : String) : Plan where
  image
  dockerUrl := "tcp://d:1"
  localMounts := [⟨"-d1"⟩, ⟨"/d2"⟩]
  logMounts := [⟨"/logs"⟩]
  launchScript := "/w/c1/launch_container.sh"

theorem clientReads_eq_intended_iff_repository :
    Plan.resolve (requestFor "repo/worker:1.2") "tcp://d:1" = .ok (planFor "repo/worker:1.2") ∧
    (clientReads ⟨"/h", .podman⟩ .run (requestFor "repo/worker:1.2") (planFor "repo/worker:1.2") =
      some (intended (requestFor "repo/worker:1.2") (planFor "repo/worker:1.2") true)) := by
  have h : Plan.resolve (requestFor "repo/worker:1.2") "tcp://d:1" = .ok (planFor "repo/worker:1.2") := by
    rfl
  exact ⟨h, (clientReads_eq_intended_iff ⟨"/h", .podman⟩ h).2.2.2.2 (by decide)⟩

/-- An accepted image may be an option: with `--rm` the client takes `bash` for the image and the launch
script for its command. -/
theorem clientReads_image_rm :
    Plan.resolve (requestFor "--rm") "tcp://d:1" = .ok (planFor "--rm") ∧
    clientReads ⟨"/h", .docker⟩ .create (requestFor "--rm") (planFor "--rm") =
      some ⟨(intended (requestFor "--rm") (planFor "--rm") true).options, "bash",
        ["/w/c1/launch_container.sh"]⟩ ∧
    clientReads ⟨"/h", .docker⟩ .create (requestFor "--rm") (planFor "--rm") ≠
      some (intended (requestFor "--rm") (planFor "--rm") false) := by
  have hplan : Plan.resolve (requestFor "--rm") "tcp://d:1" = .ok (planFor "--rm") := by
    rfl
  have hread : clientReads ⟨"/h", .docker⟩ .create (requestFor "--rm") (planFor "--rm") =
      some ⟨(intended (requestFor "--rm") (planFor "--rm") true).options, "bash",
        ["/w/c1/launch_container.sh"]⟩ := by
    rw [clientReads_create _ hplan]
    decide
  refine ⟨hplan, hread, ?_⟩
  rw [hread]
  decide

end Examples

end ContainerLaunch.Helper
