import ContainerLaunch.Settings.Program
import Mathlib.Data.List.Induction
/-!
# Instances of settings

What becomes of an instance of settings in a program: it is made by the first use after a reset
(`settings?_step_of_none`), is shared and altered until the next one (`shared_after`), and then neither
(`parted_after`).
-/

namespace ContainerLaunch.Settings

namespace Action

/-- Whether the shared settings are used. -/
def uses : Action → Bool
  | .set _ _ | .unset _ | .reset => false
  | .get | .launcher | .assign _ => true

/-- What an action makes of the variables. -/
def alter (vars : Variables) : Action → Variables
  | .set name value => vars.set name value
  | .unset name => vars.unset name
  | _ => vars

/-- What an action makes of the settings that are shared. -/
def apply (s : Settings) : Action → Settings
  | .assign a => s.assign a
  | _ => s

end Action

namespace Program

/-- A program that has not used any settings. -/
def start (vars : Variables) : Program := { vars }

/-- The program after actions. -/
def after (p : Program) (acts : List Action) : Program := acts.foldl (fun p a => (p.step a).2) p

/-- The instance that an action uses. -/
def used? (p : Program) (a : Action) : Option Nat := (p.step a).1

/-- The settings that an instance holds now. -/
def settings? (p : Program) (n : Nat) : Option Settings := p.cache.settings? n

/-- The instance that is shared now. -/
def current? (p : Program) : Option Nat := p.cache.current

variable {p : Program} {a : Action} {acts : List Action} {n m : Nat} {s : Settings}

@[simp] theorem after_nil : p.after [] = p := rfl

@[simp] theorem after_cons : p.after (a :: acts) = (p.step a).2.after acts := rfl

@[simp] theorem after_append (acts acts' : List Action) : p.after (acts ++ acts') = (p.after acts).after acts' :=
  List.foldl_append

/-! ## One use -/

theorem use_of_current (h : p.current? = some n) : p.use = (n, p) := by
  obtain ⟨vars, ⟨instances, current⟩, launchers⟩ := p
  obtain rfl : current = some n := h
  rfl

theorem use_of_none (h : p.current? = none) : p.use = (p.cache.instances.size,
    { p with cache := ⟨p.cache.instances.push (resolve {} p.vars), some p.cache.instances.size⟩ }) := by
  obtain ⟨vars, ⟨instances, current⟩, launchers⟩ := p
  obtain rfl : current = none := h
  rfl

theorem lt_size_of_settings? (h : p.settings? n = some s) : n < p.cache.instances.size :=
  (Array.getElem?_eq_some_iff.1 h).1

theorem current?_use : p.use.2.current? = some p.use.1 := by
  cases h : p.current? with
  | some n => rw [use_of_current h, h]
  | none => rw [use_of_none h]; rfl

theorem settings?_use (h : p.settings? n = some s) : p.use.2.settings? n = some s := by
  cases hc : p.current? with
  | some m => rwa [use_of_current hc]
  | none =>
    rw [use_of_none hc]
    exact (Array.getElem?_push_lt ..).trans ((Array.getElem?_eq_getElem (lt_size_of_settings? h)).symm.trans h)

theorem use_eq_iff (h : p.settings? n = some s) : p.use.1 = n ↔ p.current? = some n := by
  cases hc : p.current? with
  | some m => rw [use_of_current hc, Option.some.injEq]
  | none =>
    rw [use_of_none hc]
    exact iff_of_false (Nat.ne_of_gt (lt_size_of_settings? h)) nofun

theorem settings?_use_of_none (h : p.current? = none) : p.settings? p.use.1 = none ∧
    p.use.2.settings? p.use.1 = some (resolve {} p.vars) := by
  rw [use_of_none h]
  exact ⟨Array.getElem?_eq_none (Nat.le_refl _), Array.getElem?_push_size⟩

/-! ## One step -/

theorem used?_eq : p.used? a = if a.uses then some p.use.1 else none := by cases a <;> rfl

theorem used?_of_some (h : p.used? a = some n) : a.uses = true ∧ p.use.1 = n := by
  rw [used?_eq] at h
  split at h
  · next hu => exact ⟨hu, Option.some.inj h⟩
  · cases h

theorem vars_step : (p.step a).2.vars = a.alter p.vars := by
  cases hc : p.current? <;> cases a <;> simp [step, use_of_current, use_of_none, hc, Action.alter]

theorem current?_step : (p.step a).2.current? =
    if a.uses then some p.use.1 else if a = .reset then none else p.current? := by
  cases a with
  | set | unset | reset => rfl
  | get | launcher | assign => exact current?_use

theorem settings?_step_of_uses (ha : a.uses = true) (h : p.use.2.settings? n = some s) :
    (p.step a).2.settings? n = some (if p.use.1 = n then a.apply s else s) := by
  cases a with
  | set | unset | reset => cases ha
  | get | launcher => exact h.trans (congrArg some (ite_self s).symm)
  | assign x =>
    have hs : p.use.2.cache.instances[n]? = some s := h
    change (p.use.2.cache.instances.modify p.use.1 (·.assign x))[n]? = _
    rw [Array.getElem?_modify, hs]
    split <;> rfl

theorem settings?_step (h : p.settings? n = some s) :
    (p.step a).2.settings? n = some (if p.current? = some n then a.apply s else s) := by
  cases ha : a.uses with
  | true =>
    simp only [settings?_step_of_uses ha (settings?_use h), use_eq_iff h]
  | false =>
    cases a with
    | set | unset | reset => exact h.trans (congrArg some (ite_self s).symm)
    | get | launcher | assign => cases ha

/-- The first use makes a new instance, from what the variables are then. -/
theorem settings?_step_of_none (hc : p.current? = none) (h : p.used? a = some n) :
    p.settings? n = none ∧ (p.step a).2.settings? n = some (a.apply (resolve {} p.vars)) := by
  obtain ⟨ha, rfl⟩ := used?_of_some h
  obtain ⟨hnew, hs⟩ := settings?_use_of_none hc
  refine ⟨hnew, ?_⟩
  rw [settings?_step_of_uses ha hs, if_pos rfl]

theorem current?_step_of_ne_reset (hc : p.current? = some n) (ha : a ≠ .reset) : (p.step a).2.current? = some n := by
  rw [current?_step, use_of_current hc, if_neg ha, hc, ite_self]

theorem current?_step_ne (h : p.settings? n = some s) (hc : p.current? ≠ some n) :
    (p.step a).2.current? ≠ some n := by
  rw [current?_step]
  split
  · exact fun hn => hc ((use_eq_iff h).1 (Option.some.inj hn))
  · split
    · exact nofun
    · exact hc

/-! ## Many steps -/

theorem vars_after : (p.after acts).vars = acts.foldl Action.alter p.vars := by
  induction acts generalizing p with
  | nil => rfl
  | cons a acts ih => rw [after_cons, ih, vars_step, List.foldl_cons]

theorem settings?_after (acts : List Action) (h : p.settings? n = some s) :
    ∃ t, (p.after acts).settings? n = some t := by
  induction acts generalizing p s with
  | nil => exact ⟨s, h⟩
  | cons a acts ih => exact ih (settings?_step h)

/-- What becomes of the shared instance until the next reset. -/
theorem shared_after (hc : p.current? = some n) (h : p.settings? n = some s) (hr : .reset ∉ acts) :
    (p.after acts).current? = some n ∧ (p.after acts).settings? n = some (acts.foldl Action.apply s) := by
  induction acts generalizing p s with
  | nil => exact ⟨hc, h⟩
  | cons a acts ih =>
    obtain ⟨ha, hr⟩ := List.ne_and_not_mem_of_not_mem_cons hr
    have hs := settings?_step (a := a) h
    rw [if_pos hc] at hs
    exact ih (current?_step_of_ne_reset hc (Ne.symm ha)) hs hr

/-- An instance that is no longer shared stays as it is, and is never shared again. -/
theorem parted_after (hc : p.current? ≠ some n) (h : p.settings? n = some s) :
    (p.after acts).current? ≠ some n ∧ (p.after acts).settings? n = some s := by
  induction acts generalizing p with
  | nil => exact ⟨hc, h⟩
  | cons a acts ih =>
    have hs := settings?_step (a := a) h
    rw [if_neg hc] at hs
    exact ih (current?_step_ne h hc) hs

theorem parted_of_reset (acts : List Action) (h : p.settings? n = some s) :
    ((p.step .reset).2.after acts).current? ≠ some n ∧ ((p.step .reset).2.after acts).settings? n = some s := by
  have hs : (p.step .reset).2.settings? n = some s := h
  refine parted_after (fun hn => ?_) hs
  cases show none = some n from hn

/-- Instances are known by number: what is shared or held is one of them. -/
structure Sound (p : Program) : Prop where
  current : ∀ {n}, p.current? = some n → ∃ s, p.settings? n = some s
  launchers : ∀ {n}, n ∈ p.launchers → ∃ s, p.settings? n = some s

theorem launchers_step : (p.step a).2.launchers = p.launchers ++ if a = .launcher then [p.use.1] else [] := by
  have huse : p.use.2.launchers = p.launchers := by
    cases hc : p.current? with
    | some n => rw [use_of_current hc]
    | none => rw [use_of_none hc]
  cases a with
  | set | unset | reset => exact (List.append_nil _).symm
  | get | assign => exact huse.trans (List.append_nil _).symm
  | launcher => exact congrArg (· ++ [p.use.1]) huse

theorem exists_settings?_use (hp : p.Sound) : ∃ s, p.use.2.settings? p.use.1 = some s := by
  cases hc : p.current? with
  | some n =>
    rw [use_of_current hc]
    exact hp.current hc
  | none => exact ⟨_, (settings?_use_of_none hc).2⟩

theorem Sound.start (vars : Variables) : (start vars).Sound where
  current h := by cases h
  launchers h := by cases h

theorem Sound.step (hp : p.Sound) (a : Action) : (p.step a).2.Sound := by
  have hkeep {n} : (∃ s, p.settings? n = some s) → ∃ s, (p.step a).2.settings? n = some s :=
    fun ⟨s, h⟩ => ⟨_, settings?_step h⟩
  have huse (ha : a.uses = true) : ∃ s, (p.step a).2.settings? p.use.1 = some s :=
    (exists_settings?_use hp).elim fun s h => ⟨_, settings?_step_of_uses ha h⟩
  refine ⟨fun {n} hn => ?_, fun {n} hn => ?_⟩
  · rw [current?_step] at hn
    split at hn
    · next ha =>
      cases hn
      exact huse ha
    · split at hn
      · cases hn
      · exact hkeep (hp.current hn)
  · rw [launchers_step] at hn
    rcases List.mem_append.1 hn with hn | hn
    · exact hkeep (hp.launchers hn)
    · split at hn
      · next ha =>
        rw [List.mem_singleton.1 hn]
        exact huse (ha ▸ rfl)
      · cases hn

theorem Sound.after (hp : p.Sound) (acts : List Action) : (p.after acts).Sound := by
  induction acts generalizing p with
  | nil => exact hp
  | cons a acts ih => exact ih (hp.step a)

theorem sound_start (vars : Variables) (acts : List Action) : ((start vars).after acts).Sound :=
  (Sound.start vars).after acts

/-! ## Histories -/

/-- No settings were used since the last reset. -/
def Idle (acts : List Action) : Prop :=
  ∀ early late, acts = early ++ late → .reset ∉ late → ∀ a ∈ late, a.uses = false

theorem current?_of_idle {vars : Variables} (h : Idle acts) : ((start vars).after acts).current? = none := by
  induction acts using List.reverseRecOn with
  | nil => rfl
  | append_singleton acts a ih =>
    rw [after_append, after_cons, after_nil, current?_step]
    by_cases ha : a = .reset
    · rw [ha]
      rfl
    · have hlast : .reset ∉ [a] := fun hr => ha (List.mem_singleton.1 hr).symm
      rw [h acts [a] rfl hlast a (List.mem_singleton_self a), if_neg ha]
      refine ih fun early late he hr b hb => ?_
      refine h early (late ++ [a]) (by rw [he, List.append_assoc]) ?_ b (List.mem_append_left _ hb)
      exact fun hr' => (List.mem_append.1 hr').elim hr hlast

/-- What is made after a reset is another instance; and what is shared before one is never shared again. -/
theorem used?_eq_iff {b : Action} (hp : p.Sound) (ha : p.used? a = some n)
    (hb : ((p.step a).2.after acts).used? b = some m) : n = m ↔ .reset ∉ acts := by
  obtain ⟨hu, rfl⟩ := used?_of_some ha
  obtain ⟨-, rfl⟩ := used?_of_some hb
  have hcur : (p.step a).2.current? = some p.use.1 := by rw [current?_step, if_pos hu]
  obtain ⟨s, hs⟩ := (hp.step a).current hcur
  constructor
  · intro heq hr
    obtain ⟨early, late, rfl⟩ := List.append_of_mem hr
    obtain ⟨t, ht⟩ := settings?_after early hs
    rw [after_append, after_cons] at heq
    obtain ⟨hne, hkept⟩ := parted_of_reset late ht
    exact hne ((use_eq_iff hkept).1 heq.symm)
  · intro hr
    rw [use_of_current (shared_after hcur hs hr).1]

/-- What becomes of the instance that is made by the first use after a reset. -/
theorem settings?_after_of_none {rest last : List Action} (hc : p.current? = none) (ha : p.used? a = some n)
    (hr : .reset ∉ rest) (hlast : last = [] ∨ ∃ later, last = .reset :: later) :
    (p.after (a :: rest ++ last)).settings? n = some ((a :: rest).foldl Action.apply (resolve {} p.vars)) := by
  have hs := (settings?_step_of_none hc ha).2
  obtain ⟨hu, rfl⟩ := used?_of_some ha
  have hcur : (p.step a).2.current? = some p.use.1 := by rw [current?_step, if_pos hu]
  obtain ⟨-, hs⟩ := shared_after hcur hs hr
  rw [List.cons_append, after_cons, after_append]
  obtain rfl | ⟨later, rfl⟩ := hlast
  · exact hs
  · exact (parted_of_reset later hs).2

theorem launchers_after (p : Program) (acts : List Action) :
    ∃ more, (p.after acts).launchers = p.launchers ++ more ∧ more.length = acts.count .launcher := by
  induction acts generalizing p with
  | nil => exact ⟨[], (List.append_nil _).symm, rfl⟩
  | cons a acts ih =>
    obtain ⟨more, hmore, hlength⟩ := ih (p.step a).2
    rw [launchers_step, List.append_assoc] at hmore
    refine ⟨_, hmore, ?_⟩
    rw [List.length_append, hlength, List.count_cons, Nat.add_comm]
    by_cases ha : a = .launcher <;> simp [ha]

/-- A launcher keeps the instance that it was built with. -/
theorem launchers_getElem? {vars : Variables} {before later : List Action}
    (h : ((start vars).after before).used? .launcher = some n) :
    ((start vars).after (before ++ .launcher :: later)).launchers[before.count .launcher]? = some n := by
  obtain ⟨-, rfl⟩ := used?_of_some h
  obtain ⟨first, hfirst, hlength⟩ := launchers_after (start vars) before
  rw [after_append, after_cons]
  obtain ⟨more, hmore, -⟩ := launchers_after (((start vars).after before).step .launcher).2 later
  rw [hmore, launchers_step, if_pos rfl, hfirst, ← hlength]
  simp [start]

end Program

end ContainerLaunch.Settings
