import ContainerLaunch.Proofs.Settings.Faults
/-!
# Keywords before variables

Every setting has a keyword, a variable of its own and a default. `value_resolve` says which of them it comes from: the
keyword goes first, unless it is one that is overlooked. Five of the settings overlook an empty keyword; what is put
in its place may then be valid where the keyword is not.
-/

namespace ContainerLaunch

namespace Settings

/-- The settings by name. -/
inductive Field where
  | dockerUrl
  | client
  | imageVariable
  | authMode
  | helperPath
  | strategy
  | watchEvents
  | verifyDaemon
  deriving DecidableEq, Repr

namespace Field

/-- What a setting holds. -/
abbrev Value : Field → Type
  | .watchEvents | .verifyDaemon => Bool
  | _ => String

/-- The name of the variable of a setting. -/
def source : Field → String
  | .dockerUrl => "DOCKEREXEC_DOCKER_URL"
  | .client => "DOCKEREXEC_CLIENT"
  | .imageVariable => "DOCKEREXEC_IMAGE_ENV_VAR"
  | .authMode => "DOCKEREXEC_AUTH_MODE"
  | .helperPath => "DOCKEREXEC_HELPER_PATH"
  | .strategy => "DOCKEREXEC_STRATEGY"
  | .watchEvents => "DOCKEREXEC_WATCH_EVENTS"
  | .verifyDaemon => "DOCKEREXEC_VERIFY_DAEMON"

theorem source_injective : Function.Injective source := by
  intro f g h
  cases f <;> cases g <;> first | rfl | exact absurd h (by decide)

/-- What a setting is without a keyword, from the text of its variable if that is set. -/
def inherited : (f : Field) → Option String → f.Value
  | .dockerUrl, text => text.getD defaultUrl
  | .client, text => text.getD "docker"
  | .imageVariable, text => text.getD defaultImageVariable
  | .authMode, text => text.getD supportedAuthMode
  | .helperPath, text => text.getD defaultHelperPath
  | .strategy, text => text.getD "create_start"
  | .watchEvents, text => switch text true
  | .verifyDaemon, text => switch text false

/-- Whether a keyword counts as none. -/
def overlooks : (f : Field) → f.Value → Bool
  | .client, v => v == ""
  | .imageVariable, v => v == ""
  | .authMode, v => v == ""
  | .helperPath, v => v == ""
  | .strategy, v => v == ""
  | .dockerUrl, _ => false
  | .watchEvents, _ => false
  | .verifyDaemon, _ => false

/-- Nothing can be said against a launch with this value. -/
def Supports : (f : Field) → f.Value → Prop
  | .dockerUrl, v => ∃ c ∈ v.toList, Text.isBlank c = false
  | .client, v => v ∈ ["docker", "podman"]
  | .authMode, v => v = "simple"
  | .strategy, v => v ∈ ["create_start", "run"]
  | .imageVariable, _ => True
  | .helperPath, _ => True
  | .watchEvents, _ => True
  | .verifyDaemon, _ => True

end Field

/-- The value of a setting. -/
def value (s : Settings) : (f : Field) → f.Value
  | .dockerUrl => s.dockerUrl
  | .client => s.client
  | .imageVariable => s.imageVariable
  | .authMode => s.authMode
  | .helperPath => s.helperPath
  | .strategy => s.strategy
  | .watchEvents => s.watchEvents
  | .verifyDaemon => s.verifyDaemon

end Settings

namespace Overrides

open Settings (Field)

/-- The keyword for a setting. -/
def value? (given : Overrides) : (f : Field) → Option f.Value
  | .dockerUrl => given.dockerUrl
  | .client => given.client
  | .imageVariable => given.imageVariable
  | .authMode => given.authMode
  | .helperPath => given.helperPath
  | .strategy => given.strategy
  | .watchEvents => given.watchEvents
  | .verifyDaemon => given.verifyDaemon

/-- The keyword for a setting, if it counts. -/
def heeded? (given : Overrides) (f : Field) : Option f.Value := (given.value? f).filter (!f.overlooks ·)

variable {given : Overrides} {f : Field} {v : f.Value}

theorem heeded?_of_none (h : given.value? f = none) : given.heeded? f = none := by
  rw [heeded?, h]
  rfl

theorem heeded?_of_overlooks (h : given.value? f = some v) (hv : f.overlooks v = true) : given.heeded? f = none := by
  rw [heeded?, h, Option.filter_some, hv]
  rfl

theorem heeded?_of_not_overlooks (h : given.value? f = some v) (hv : f.overlooks v = false) :
    given.heeded? f = some v := by
  rw [heeded?, h, Option.filter_some, hv]
  rfl

theorem heeded?_eq_value? (h : ∀ v, f.overlooks v = false) : given.heeded? f = given.value? f := by
  cases hv : given.value? f with
  | none => exact heeded?_of_none hv
  | some v => exact heeded?_of_not_overlooks hv (h v)

end Overrides

namespace Settings

theorem pick_eq_getD (keyword inherited : Option String) (default : String) :
    pick keyword inherited default = keyword.getD (inherited.getD default) := by
  cases keyword <;> rfl

theorem pickNonempty_eq_getD (keyword inherited : Option String) (default : String) :
    pickNonempty keyword inherited default = (keyword.filter fun v => !(v == "")).getD (inherited.getD default) := by
  have h : (fun v : String => !v.isEmpty) = fun v => !(v == "") :=
    funext fun v => by rw [Bool.eq_iff_iff]; simp
  rw [pickNonempty, pick_eq_getD, h]

/-- A setting is its keyword, or what it is without one. -/
theorem value_resolve (given : Overrides) (vars : Variables) (f : Field) :
    (resolve given vars).value f = (given.heeded? f).getD (f.inherited (vars.get? f.source)) := by
  cases f with
  | dockerUrl =>
    rw [Overrides.heeded?_eq_value? fun _ => rfl]
    exact pick_eq_getD ..
  | client => exact pickNonempty_eq_getD ..
  | imageVariable => exact pickNonempty_eq_getD ..
  | authMode => exact pickNonempty_eq_getD ..
  | helperPath => exact pickNonempty_eq_getD ..
  | strategy => exact pickNonempty_eq_getD ..
  | watchEvents | verifyDaemon =>
    rw [Overrides.heeded?_eq_value? fun _ => rfl]
    rfl

theorem exists_fault_iff {s : Settings} : (∃ e, s.Fault e) ↔ ∃ f : Field, ¬ f.Supports (s.value f) := by
  constructor
  · rintro ⟨_, h | h | h | h⟩
    · exact ⟨.authMode, h⟩
    · exact ⟨.dockerUrl, fun ⟨c, hc, hb⟩ => absurd (hb.symm.trans (h c hc)) Bool.false_ne_true⟩
    · exact ⟨.strategy, h⟩
    · exact ⟨.client, h⟩
  · rintro ⟨f, h⟩
    cases f with
    | dockerUrl => exact ⟨_, .url fun c hc => Bool.of_not_eq_false fun hb => h ⟨c, hc, hb⟩⟩
    | client => exact ⟨_, .client h⟩
    | authMode => exact ⟨_, .authMode h⟩
    | strategy => exact ⟨_, .strategy h⟩
    | imageVariable | helperPath | watchEvents | verifyDaemon => exact absurd trivial h

theorem validate_eq_ok_iff_supports {s : Settings} : s.validate = .ok () ↔ ∀ f : Field, f.Supports (s.value f) := by
  rw [validate_eq_ok_iff, ← not_exists, exists_fault_iff, not_exists]
  exact forall_congr' fun f => Classical.not_not

/-- What keywords and variables have to say in settings. -/
structure Precedence (given : Overrides) (vars : Variables) : Prop where
  /-- A keyword goes first, whatever the variables are, unless it is overlooked. -/
  heeded : ∀ {f v}, given.value? f = some v → f.overlooks v = false → (resolve given vars).value f = v
  /-- One that is overlooked is as good as none. -/
  overlooked : ∀ {f v}, given.value? f = some v → f.overlooks v = true →
    (resolve given vars).value f = f.inherited (vars.get? f.source)
  absent : ∀ {f}, given.value? f = none → (resolve given vars).value f = f.inherited (vars.get? f.source)
  sources : Function.Injective Field.source
  /-- A setting depends on its own variable alone. -/
  own : ∀ {f vars'}, vars'.get? (Field.source f) = vars.get? f.source →
    (resolve given vars').value f = (resolve given vars).value f
  /-- A keyword that is not supported is never replaced by anything that is, unless it is overlooked. -/
  refused : ∀ {f v}, given.value? f = some v → f.overlooks v = false → ¬ f.Supports v →
    ∃ e, (resolve given vars).validate = .error e ∧ (resolve given vars).Fault e
  valid_iff : (resolve given vars).validate = .ok () ↔ ∀ f : Field, f.Supports ((resolve given vars).value f)

theorem precedence_resolve (given : Overrides) (vars : Variables) : Precedence given vars := by
  have heeded {f : Field} {v : f.Value} (h : given.value? f = some v) (hv : f.overlooks v = false) :
      (resolve given vars).value f = v := by
    rw [value_resolve, Overrides.heeded?_of_not_overlooks h hv]
    rfl
  refine ⟨heeded, ?_, ?_, Field.source_injective, ?_, ?_, validate_eq_ok_iff_supports⟩
  · intro f v h hv
    rw [value_resolve, Overrides.heeded?_of_overlooks h hv]
    rfl
  · intro f h
    rw [value_resolve, Overrides.heeded?_of_none h]
    rfl
  · intro f vars' h
    rw [value_resolve, value_resolve, h]
  · intro f v h hv hs
    have hfault : ∃ f : Field, ¬ f.Supports ((resolve given vars).value f) := ⟨f, by rwa [heeded h hv]⟩
    obtain ⟨e, he⟩ := exists_validate_eq_error_iff.2 (exists_fault_iff.2 hfault)
    exact ⟨e, he, fault_of_validate he⟩

/-- An empty mode of authentication is not supported, but it is overlooked, and the default is valid. -/
theorem not_heeded_authMode : (resolve { authMode := some "" } []).value .authMode = "simple" ∧
    (resolve { authMode := some "" } []).validate = .ok () ∧
    ¬ ∀ (given : Overrides) (vars : Variables) (f : Field) (v : f.Value), given.value? f = some v →
      (resolve given vars).value f = v ∧ (¬ f.Supports v → ∃ e, (resolve given vars).validate = .error e) := by
  have hvalue : (resolve { authMode := some "" } []).value .authMode = "simple" := by decide
  have hvalid : (resolve { authMode := some "" } []).validate = .ok () := by
    refine validate_eq_ok_iff_supports.2 fun f => ?_
    cases f with
    | dockerUrl => exact ⟨'u', by decide, by decide⟩
    | authMode => exact hvalue
    | client | strategy => exact List.mem_cons_self
    | imageVariable | helperPath | watchEvents | verifyDaemon => trivial
  refine ⟨hvalue, hvalid, fun h => ?_⟩
  obtain ⟨e, he⟩ := (h { authMode := some "" } [] .authMode "" rfl).2 (show "" ≠ "simple" by decide)
  cases hvalid.symm.trans he

end Settings

end ContainerLaunch
