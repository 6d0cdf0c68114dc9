import ContainerLaunch.Proofs.Settings.Sharing
/-!
# One slot

The settings of a program refine a store with a single slot (`Store`): what a launcher holds is what is in the slot, or
was in it at some reset and has not changed since. The program implements each step of the store (`store_step`), and so
a whole history of steps (`store_after`).
-/

namespace ContainerLaunch.Settings

/-- A store with one slot. A launcher has no settings of its own as long as it looks into the slot; each content of
the slot has a number. -/
@[ext]
structure Store where
  vars : Variables
  slot : Option (Nat × Settings) := none
  next : Nat := 0
  launchers : List (Option (Nat × Settings)) := []

namespace Store

/-- What is in the slot, which is filled if it is empty. -/
def use (s : Store) : (Nat × Settings) × Store :=
  match s.slot with
  | some x => (x, s)
  | none =>
    let x := (s.next, resolve {} s.vars)
    (x, { s with slot := some x, next := s.next + 1 })

/-- What each launcher holds. -/
def held (s : Store) : List (Option (Nat × Settings)) := s.launchers.map (·.or s.slot)

/-- What is seen by an action, and the store afterwards. -/
def step (s : Store) : Action → Option (Nat × Settings) × Store
  | .set name value => (none, { s with vars := s.vars.set name value })
  | .unset name => (none, { s with vars := s.vars.unset name })
  | .reset => (none, { s with slot := none, launchers := s.held })
  | .get =>
    let (x, s) := s.use
    (some x, s)
  | .launcher =>
    let (x, s) := s.use
    (some x, { s with launchers := s.launchers ++ [none] })
  | .assign a =>
    let ((n, t), s) := s.use
    (some (n, t.assign a), { s with slot := some (n, t.assign a) })

/-- The store after actions. -/
def after (s : Store) (acts : List Action) : Store := acts.foldl (fun s a => (s.step a).2) s

theorem after_cons {s : Store} {a : Action} {acts : List Action} : s.after (a :: acts) = (s.step a).2.after acts := rfl

/-- A store in which nothing is held yet. -/
def start (vars : Variables) : Store := { vars }

end Store

namespace Program

variable {p : Program} {a : Action} {acts : List Action} {n m : Nat} {s : Settings}

/-- An instance by its number, with its settings. -/
def instance? (p : Program) (n : Nat) : Option (Nat × Settings) := (p.settings? n).map (n, ·)

/-- The store that a program implements. -/
def store (p : Program) : Store where
  vars := p.vars
  slot := p.current?.bind p.instance?
  next := p.cache.instances.size
  launchers := p.launchers.map fun n => if p.current? = some n then none else p.instance? n

/-- What is seen by an action. -/
def seen? (p : Program) (a : Action) : Option (Nat × Settings) := (p.used? a).bind (p.step a).2.instance?

theorem held_store (hp : p.Sound) : p.store.held = p.launchers.map p.instance? := by
  unfold Store.held store
  rw [List.map_map]
  refine List.map_congr_left fun n hn => ?_
  obtain ⟨s, hs⟩ := hp.launchers hn
  by_cases hc : p.current? = some n <;> simp [hc, instance?, hs]

/-- The slot is filled by the first use after a reset, and only looked at by the others. -/
theorem use_store (hp : p.Sound) :
    ∃ s, p.use.2.settings? p.use.1 = some s ∧ p.store.use = ((p.use.1, s), p.use.2.store) := by
  unfold Store.use
  cases hc : p.current? with
  | some n =>
    obtain ⟨s, hs⟩ := hp.current hc
    have hslot : p.store.slot = some (n, s) := by simp [store, hc, instance?, hs]
    rw [hslot, use_of_current hc]
    exact ⟨s, hs, rfl⟩
  | none =>
    have hslot : p.store.slot = none := by simp [store, hc]
    obtain ⟨-, hs⟩ := settings?_use_of_none hc
    have hcur : p.use.2.current? = some p.use.1 := current?_use
    have hnumber : p.use.1 = p.store.next := by rw [use_of_none hc]; rfl
    have hvars : p.use.2.store.vars = p.store.vars := by rw [use_of_none hc]; rfl
    have hfilled : p.use.2.store.slot = some (p.use.1, resolve {} p.vars) := by simp [store, hcur, instance?, hs]
    have hnext : p.use.2.store.next = p.store.next + 1 := by rw [use_of_none hc]; exact Array.size_push ..
    have hlaunchers : p.use.2.store.launchers = p.store.launchers := by
      unfold store
      rw [show p.use.2.launchers = p.launchers by rw [use_of_none hc]]
      refine List.map_congr_left fun n hn => ?_
      obtain ⟨t, ht⟩ := hp.launchers hn
      have hne : p.use.1 ≠ n := fun h => by simp [(use_eq_iff ht).1 h] at hc
      simp [hcur, hc, hne, instance?, ht, settings?_use ht]
    rw [hslot]
    refine ⟨_, hs, Prod.ext (Prod.ext hnumber.symm rfl) (Store.ext hvars.symm ?_ hnext.symm hlaunchers.symm)⟩
    rw [hfilled, hnumber]
    rfl

theorem store_assign {x : Assignment} (hc : p.current? = some n) (hs : p.settings? n = some s) :
    store { p with cache := p.cache.assign n x } = { p.store with slot := some (n, s.assign x) } := by
  have hsettings (m : Nat) : settings? { p with cache := p.cache.assign n x } m =
      if n = m then (p.settings? m).map (·.assign x) else p.settings? m := Array.getElem?_modify ..
  have hcur : current? { p with cache := p.cache.assign n x } = some n := hc
  refine Store.ext rfl ?_ (Array.size_modify ..) (List.map_congr_left fun m _ => ?_)
  · simp [store, hcur, instance?, hsettings, hs]
  · by_cases h : n = m
    · subst h
      simp [hcur, hc]
    · simp [hcur, hc, instance?, hsettings, h]

/-- A program does what the store does, and the same is seen. -/
theorem store_step (hp : p.Sound) (a : Action) : p.store.step a = (p.seen? a, (p.step a).2.store) := by
  have hcur : p.use.2.current? = some p.use.1 := current?_use
  obtain ⟨s, hs, huse⟩ := use_store hp
  have hseen : p.use.2.instance? p.use.1 = some (p.use.1, s) := by rw [instance?, hs]; rfl
  cases a with
  | set | unset => rfl
  | reset => exact Prod.ext rfl (Store.ext rfl rfl rfl (held_store hp))
  | get =>
    change (some p.store.use.1, p.store.use.2) = _
    rw [huse]
    exact Prod.ext hseen.symm rfl
  | launcher =>
    change (some p.store.use.1, { p.store.use.2 with launchers := p.store.use.2.launchers ++ [none] }) = _
    rw [huse]
    refine Prod.ext hseen.symm (Store.ext rfl rfl rfl ?_)
    have hlast : [none] = [p.use.1].map fun n => if p.use.2.current? = some n then none else p.use.2.instance? n := by
      simp [hcur]
    exact (congrArg (p.use.2.store.launchers ++ ·) hlast).trans List.map_append.symm
  | assign x =>
    change (some (p.store.use.1.1, p.store.use.1.2.assign x),
      { p.store.use.2 with slot := some (p.store.use.1.1, p.store.use.1.2.assign x) }) = _
    rw [huse]
    refine Prod.ext ?_ (store_assign hcur hs).symm
    have hnew : (p.step (.assign x)).2.settings? p.use.1 = some (s.assign x) := by
      rw [settings?_step_of_uses rfl hs, if_pos rfl]
      rfl
    exact (congrArg (Option.map (p.use.1, ·)) hnew).symm

theorem store_after (hp : p.Sound) : (p.after acts).store = p.store.after acts := by
  induction acts generalizing p with
  | nil => rfl
  | cons a acts ih =>
    rw [after_cons, ih (hp.step a), Store.after_cons, store_step hp]

theorem store_start (vars : Variables) (acts : List Action) :
    ((start vars).after acts).store = (Store.start vars).after acts := store_after (Sound.start vars)

/-! ## What it comes to -/

/-- Whatever is done by a program that has these variables at first. -/
structure OneSlot (vars : Variables) : Prop where
  /-- What is seen, and what launchers hold, is as with one slot. -/
  seen : ∀ acts a, ((start vars).after acts).seen? a = (((Store.start vars).after acts).step a).1
  held : ∀ acts, ((start vars).after acts).launchers.map ((start vars).after acts).instance? =
    ((Store.start vars).after acts).held
  used : ∀ acts a, (((start vars).after acts).used? a).isSome = a.uses
  environment : ∀ acts, ((start vars).after acts).vars = acts.foldl Action.alter vars
  /-- Two uses share an instance if and only if there is no reset between them. -/
  shared_iff : ∀ {before a between b n m}, ((start vars).after before).used? a = some n →
    ((start vars).after (before ++ a :: between)).used? b = some m → (n = m ↔ .reset ∉ between)
  /-- The first use since a reset makes a new instance. -/
  new : ∀ {before first n}, Idle before → ((start vars).after before).used? first = some n →
    ((start vars).after before).settings? n = none
  /-- What it is made from, and what it is from the next reset on, whatever is done then. -/
  content : ∀ {before first rest last n}, Idle before → ((start vars).after before).used? first = some n →
    .reset ∉ rest → (last = [] ∨ ∃ later, last = .reset :: later) →
    ((start vars).after (before ++ (first :: rest ++ last))).settings? n =
      some ((first :: rest).foldl Action.apply (resolve {} ((start vars).after before).vars))
  /-- Nothing changes an instance but an assignment, and only the one that is shared. -/
  altered : ∀ {acts a n s}, ((start vars).after acts).settings? n = some s →
    ((start vars).after (acts ++ [a])).settings? n =
      some (if ((start vars).after acts).current? = some n then a.apply s else s)
  /-- A launcher keeps the instance that it was built with. -/
  kept : ∀ {before later n}, ((start vars).after before).used? .launcher = some n →
    ((start vars).after (before ++ .launcher :: later)).launchers[before.count .launcher]? = some n
  launchers : ∀ acts, ((start vars).after acts).launchers.length = acts.count .launcher

theorem oneSlot_start (vars : Variables) : OneSlot vars where
  seen acts a := by rw [← store_start, store_step (sound_start vars acts)]
  held acts := by rw [← store_start, held_store (sound_start vars acts)]
  used acts a := by rw [used?_eq]; cases a.uses <;> rfl
  environment _ := vars_after
  shared_iff ha hb := used?_eq_iff (sound_start vars _) ha (by rwa [after_append, after_cons] at hb)
  new hidle h := (settings?_step_of_none (current?_of_idle hidle) h).1
  content hidle h hr hlast := by
    rw [after_append]
    exact settings?_after_of_none (current?_of_idle hidle) h hr hlast
  altered h := by
    rw [after_append]
    exact settings?_step h
  kept := launchers_getElem?
  launchers acts := by
    obtain ⟨more, hmore, hlength⟩ := launchers_after (start vars) acts
    rw [hmore, List.length_append, hlength]
    exact Nat.zero_add _

/-- A launcher sees what is assigned before the next reset, and nothing that is assigned later. -/
example : (((start []).after [.launcher, .assign (.client "podman"), .reset, .assign (.client "x")]).settings? 0).map
    (·.client) = some "podman" := by decide

end Program

end ContainerLaunch.Settings
