import ContainerLaunch.Settings.Basic
/-!
# What may be wrong with settings

A `Fault` is a reason not to launch anything. Settings are valid if they have none (`validate_eq_ok_iff`), and what
is reported of others is one of their faults (`fault_of_validate`).
-/

namespace ContainerLaunch.Settings

/-- What can be wrong with settings. -/
inductive Fault (s : Settings) : ConfigError → Prop where
  | authMode (h : s.authMode ≠ "simple") : Fault s (.unsupportedAuthMode s.authMode)
  | url (h : ∀ c ∈ s.dockerUrl.toList, Text.isBlank c = true) : Fault s .missingUrl
  | strategy (h : s.strategy ∉ ["create_start", "run"]) : Fault s (.unknownStrategy s.strategy)
  | client (h : s.client ∉ ["docker", "podman"]) : Fault s (.unknownClient s.client)

section
variable {s : Settings} {e : ConfigError}

theorem isBlankText_iff {text : String} :
    Text.isBlankText text = true ↔ ∀ c ∈ text.toList, Text.isBlank c = true := List.all_eq_true

theorem fault_of_validate (h : s.validate = .error e) : s.Fault e := by
  unfold validate at h
  split at h
  · next hm =>
    cases h
    exact .authMode hm
  · split at h
    · next hu =>
      cases h
      exact .url (isBlankText_iff.1 hu)
    · split at h
      · next hs =>
        cases h
        exact .strategy hs
      · split at h
        · next hc =>
          cases h
          exact .client hc
        · cases h

theorem not_fault_of_validate (h : s.validate = .ok ()) : ¬ s.Fault e := by
  unfold validate at h
  split at h
  · cases h
  · next hm =>
    split at h
    · cases h
    · next hu =>
      split at h
      · cases h
      · next hs =>
        split at h
        · cases h
        · next hc =>
          rintro (h | h | h | h)
          · exact hm h
          · exact hu (isBlankText_iff.2 h)
          · exact hs h
          · exact hc h

theorem validate_eq_ok_iff : s.validate = .ok () ↔ ∀ e, ¬ s.Fault e := by
  refine ⟨fun h e => not_fault_of_validate h, fun h => ?_⟩
  cases hv : s.validate with
  | ok _ => rfl
  | error e => exact absurd (fault_of_validate hv) (h e)

theorem exists_validate_eq_error_iff : (∃ e, s.validate = .error e) ↔ ∃ e, s.Fault e := by
  constructor
  · rintro ⟨e, h⟩
    exact ⟨e, fault_of_validate h⟩
  · rintro ⟨e, h⟩
    cases hv : s.validate with
    | ok _ => exact absurd h (not_fault_of_validate hv)
    | error e' => exact ⟨e', rfl⟩

end

end ContainerLaunch.Settings
