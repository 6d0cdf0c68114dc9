import ContainerLaunch.Proofs.Cleanup.Watcher
import Mathlib.Logic.Function.Basic
/-!
# What launches do on the roster that they share

A `Deed` is an action that was done, and what it told; records have the latest deed first. Launches are
numbered, and listeners are nobody in particular.

`Standing.Step` is how a launch goes about it: it enrols a watcher, puts it in charge, closes the one that
lost its place, and in the end takes out of charge whoever is in charge of its container and closes its own
watcher. If the listener cannot be started, it gives up and leaves its watcher in charge. `Recorded id deeds st` says that the deeds are those of launches that do so, with the standings `st`
after them, and that each was told what the earlier ones make true. `InForce` adds the roster that they
leave; every action keeps it (`InForce.act`, `InForce.listen`).
-/

namespace ContainerLaunch.Cleanup

/-! ## Deeds -/

namespace Roster.Action

def registers : Roster.Action → Bool
  | .register _ => true
  | _ => false

def deregisters : Roster.Action → Bool
  | .deregister _ => true
  | _ => false

end Roster.Action

/-- Who did what, and what was told about it. Listeners are nobody. -/
structure Deed where
  who : Option Nat
  action : Roster.Action
  reply : action.Reply

/-- Launch `i` enrolled the watcher `t`. -/
def Owns (deeds : List Deed) (i : Nat) (t : Ticket) : Prop :=
  ∃ containerId source, ⟨some i, .enrol containerId source, t⟩ ∈ deeds

theorem owns_cons {deeds : List Deed} {i : Nat} {t : Ticket} {d : Deed} :
    Owns (d :: deeds) i t ↔ (∃ containerId source, ⟨some i, .enrol containerId source, t⟩ = d) ∨ Owns deeds i t := by
  simp only [Owns, List.mem_cons, exists_or]

theorem Owns.append {recent earlier : List Deed} {i : Nat} {t : Ticket} {d : Deed} (h : Owns earlier i t) :
    Owns (recent ++ d :: earlier) i t := by
  obtain ⟨containerId, source, h⟩ := h
  exact ⟨containerId, source, List.mem_append_right _ (List.mem_cons_of_mem _ h)⟩

namespace Deed

/-- The deed closes a watcher or takes it out of charge. -/
def Ends (t : Ticket) : Deed → Prop
  | ⟨_, .close t', _⟩ => t' = t
  | ⟨_, .deregister _, found⟩ => found = some t
  | _ => False

/-- Launch `i` did it, and it is of a kind. -/
def isBy (i : Nat) (kind : Roster.Action → Bool) (d : Deed) : Bool := d.who == some i && kind d.action

/-- Who is in charge of a container after a deed that decides it. Launch `i` is about the container `id i`. -/
def decides? (id : Nat → String) (containerId : String) : Deed → Option (Option Ticket)
  | ⟨some i, .register t, _⟩ => if id i = containerId then some (some t) else none
  | ⟨_, .deregister containerId', _⟩ => if containerId' = containerId then some none else none
  | _ => none

end Deed

/-- The launch has put a watcher in charge and has not taken it out of charge. -/
def watching (deeds : List Deed) (i : Nat) : Bool :=
  deeds.any (·.isBy i (·.registers)) && !deeds.any (·.isBy i (·.deregisters))

/-- Who is in charge of a container. The latest deed that decides it counts. -/
def charge (id : Nat → String) (containerId : String) (deeds : List Deed) : Option Ticket :=
  (deeds.findSome? (Deed.decides? id containerId)).join

/-! ## Standings -/

/-- How a launch stands with the roster. -/
inductive Standing where
  | unwatched
  | enrolled (t : Ticket)
  | displacing (t displaced : Ticket)
  | inCharge (t : Ticket)
  | released (t : Ticket)
  | gone (t : Ticket)
  /-- The watcher was left in charge because its listener could not be started. -/
  | stranded (t : Ticket)

namespace Standing

/-- The watcher that the launch has taken up. -/
def ticket? : Standing → Option Ticket
  | .unwatched => none
  | .enrolled t | .displacing t _ | .inCharge t | .released t | .gone t | .stranded t => some t

/-- The watcher that the launch has put in charge and not taken out of charge. -/
def charge? : Standing → Option Ticket
  | .displacing t _ | .inCharge t | .stranded t => some t
  | _ => none

def hasRegistered : Standing → Bool
  | .unwatched | .enrolled _ => false
  | _ => true

def hasDeregistered : Standing → Bool
  | .released _ | .gone _ => true
  | _ => false

/-- The launch has given up, with its watcher still in charge. -/
def IsStranded : Standing → Prop
  | .stranded _ => True
  | _ => False

/-- A launch may end here: it has no watcher, or has let it go, or has given up. -/
def IsOver : Standing → Prop
  | .unwatched | .gone _ | .stranded _ => True
  | _ => False

/-- What a launch does next. -/
inductive Step (id : String) : Standing → (a : Roster.Action) → a.Reply → Standing → Prop where
  | enrol (source : Source) (t : Ticket) : Step id .unwatched (.enrol id source) t (.enrolled t)
  | register (t : Ticket) : Step id (.enrolled t) (.register t) none (.inCharge t)
  | replace (t displaced : Ticket) :
    Step id (.enrolled t) (.register t) (some displaced) (.displacing t displaced)
  | close (t displaced : Ticket) : Step id (.displacing t displaced) (.close displaced) () (.inCharge t)
  | start (t : Ticket) : Step id (.inCharge t) (.start t) () (.inCharge t)
  | giveUp (t : Ticket) : Step id (.inCharge t) (.leave t) () (.stranded t)
  | markRemoved (t : Ticket) : Step id (.inCharge t) (.markRemoved t) () (.inCharge t)
  | deregister (t : Ticket) (found : Option Ticket) : Step id (.inCharge t) (.deregister id) found (.released t)
  | leave (t : Ticket) : Step id (.released t) (.close t) () (.gone t)

theorem Step.ne_unwatched {id : String} {s s' : Standing} {a : Roster.Action} {reply : a.Reply}
    (h : Step id s a reply s') : s' ≠ .unwatched := by
  cases h <;> exact Standing.noConfusion

end Standing

/-! ## Records -/

open Function (update)

/-- What launch `i` is told is what the earlier deeds make true. -/
def Due (id : Nat → String) (st : Nat → Standing) (earlier : List Deed) (i : Nat) :
    (a : Roster.Action) → a.Reply → Prop
  | .enrol .., t => ∀ j, (st j).ticket? ≠ some t
  | .register t, displaced => displaced = (charge id (id i) earlier).filter (· != t)
  | .deregister containerId, found => found = charge id containerId earlier
  | _, _ => True

/-- The deeds are those of launches that go about it step by step, each told what the earlier deeds make true, and of
listeners. -/
inductive Recorded (id : Nat → String) : List Deed → (Nat → Standing) → Prop where
  | nil : Recorded id [] fun _ => .unwatched
  | launch {deeds st i a reply s} (h : Recorded id deeds st) (hs : (st i).Step (id i) a reply s)
    (hd : Due id st deeds i a reply) : Recorded id (⟨some i, a, reply⟩ :: deeds) (update st i s)
  | listener {deeds st a reply} (h : Recorded id deeds st) (ha : a.IsListening) :
    Recorded id (⟨none, a, reply⟩ :: deeds) st

section Charge
variable {id : Nat → String} {containerId : String} {d : Deed} {deeds recent : List Deed} {t : Ticket} {i : Nat}

theorem charge_cons_of_none (h : d.decides? id containerId = none) :
    charge id containerId (d :: deeds) = charge id containerId deeds := by
  rw [charge, List.findSome?_cons, h]
  rfl

theorem charge_cons_of_some {c : Option Ticket} (h : d.decides? id containerId = some c) :
    charge id containerId (d :: deeds) = c := by
  rw [charge, List.findSome?_cons, h]
  rfl

theorem charge_append_of_none (h : ∀ d ∈ recent, d.decides? id containerId = none) :
    charge id containerId (recent ++ deeds) = charge id containerId deeds := by
  rw [charge, List.findSome?_append, List.findSome?_eq_none_iff.2 h]
  rfl

theorem decides?_register_self {displaced : Option Ticket} (h : id i = containerId) :
    Deed.decides? id containerId ⟨some i, .register t, displaced⟩ = some (some t) := if_pos h

theorem decides?_register_of_ne {displaced : Option Ticket} (h : id i ≠ containerId) :
    Deed.decides? id containerId ⟨some i, .register t, displaced⟩ = none := if_neg h

theorem decides?_deregister_self {who found} :
    Deed.decides? id containerId ⟨who, .deregister containerId, found⟩ = some none := by
  cases who <;> exact if_pos rfl

theorem decides?_deregister_of_ne {who found} {containerId' : String} (h : containerId' ≠ containerId) :
    Deed.decides? id containerId ⟨who, .deregister containerId', found⟩ = none := by
  cases who <;> exact if_neg h

/-- A deed of a launch leaves the charge of a container as it is, or makes it that of the launch. -/
theorem charge_of_step (containerId : String) (deeds : List Deed) {x s : Standing} {a : Roster.Action}
    {reply : a.Reply} (hs : x.Step (id i) a reply s) :
    charge id containerId (⟨some i, a, reply⟩ :: deeds) = charge id containerId deeds ∧
        (id i = containerId → s.charge? = x.charge?) ∨
      id i = containerId ∧ charge id containerId (⟨some i, a, reply⟩ :: deeds) = s.charge? := by
  by_cases hid : id i = containerId
  · subst hid
    cases hs with
    | register t => exact .inr ⟨rfl, charge_cons_of_some (decides?_register_self rfl)⟩
    | replace t displaced => exact .inr ⟨rfl, charge_cons_of_some (decides?_register_self rfl)⟩
    | deregister t found => exact .inr ⟨rfl, charge_cons_of_some decides?_deregister_self⟩
    | _ => exact .inl ⟨rfl, fun _ => rfl⟩
  · refine .inl ⟨?_, fun h => absurd h hid⟩
    cases hs with
    | register t => exact charge_cons_of_none (decides?_register_of_ne hid)
    | replace t displaced => exact charge_cons_of_none (decides?_register_of_ne hid)
    | deregister t found => exact charge_cons_of_none (decides?_deregister_of_ne hid)
    | _ => rfl

theorem charge_of_listening {a : Roster.Action} {reply : a.Reply} (ha : a.IsListening) :
    charge id containerId (⟨none, a, reply⟩ :: deeds) = charge id containerId deeds := by
  cases a <;> first | rfl | cases ha

end Charge

/-- No two launches that have had to do with the roster are about one container. -/
def Apart (id : Nat → String) (st : Nat → Standing) : Prop :=
  ∀ i j, st i ≠ .unwatched → st j ≠ .unwatched → id i = id j → i = j

theorem Apart.of_update {id : Nat → String} {st : Nat → Standing} {i : Nat} {a : Roster.Action} {reply : a.Reply}
    {s : Standing} (h : Apart id (update st i s)) (hs : (st i).Step (id i) a reply s) : Apart id st := by
  have hkept : ∀ j, st j ≠ .unwatched → update st i s j ≠ .unwatched := by
    intro j hj
    by_cases hij : j = i
    · rw [hij, Function.update_self]
      exact hs.ne_unwatched
    · rwa [Function.update_of_ne hij]
  exact fun j k hj hk => h j k (hkept j hj) (hkept k hk)

theorem hasRegistered_of_charge? {s : Standing} {t : Ticket} (h : s.charge? = some t) : s.hasRegistered := by
  cases s with
  | displacing t' displaced => rfl
  | inCharge t' => rfl
  | stranded t' => rfl
  | _ => cases h

theorem ne_unwatched_of_charge? {s : Standing} {t : Ticket} (h : s.charge? = some t) : s ≠ .unwatched := by
  rintro rfl
  cases h

namespace Recorded
variable {id : Nat → String} {containerId : String} {deeds : List Deed} {st : Nat → Standing}
  {t t' displaced : Ticket} {i j : Nat} {who : Option Nat}

/-- The owner of a watcher is the launch that stands with it. -/
theorem owns_iff (h : Recorded id deeds st) : Owns deeds i t ↔ (st i).ticket? = some t := by
  induction h with
  | nil => exact ⟨fun ⟨_, _, h⟩ => absurd h List.not_mem_nil, fun h => by cases h⟩
  | listener h ha ih =>
    rw [owns_cons, ih, or_iff_right]
    rintro ⟨_, _, h⟩
    cases h
  | @launch deeds st j a reply s h hs hd ih =>
    rw [owns_cons, ih]
    by_cases hj : i = j
    · subst hj
      rw [Function.update_self]
      generalize hst : st i = x at hs ⊢
      cases hs with
      | enrol source t' =>
        constructor
        · rintro (⟨_, _, h⟩ | h)
          · cases h
            rfl
          · cases h
        · intro h
          cases h
          exact .inl ⟨_, _, rfl⟩
      | _ =>
        refine or_iff_right ?_
        rintro ⟨_, _, h⟩
        cases h
    · rw [Function.update_of_ne hj, or_iff_right]
      rintro ⟨_, _, h⟩
      cases h
      exact hj rfl

theorem owner_unique (h : Recorded id deeds st) (hi : Owns deeds i t) (hj : Owns deeds j t) : i = j := by
  rw [h.owns_iff] at hi hj
  induction h with
  | nil => cases hi
  | listener h ha ih => exact ih hi hj
  | @launch deeds st k a reply s h hs hd ih =>
    -- Only an enrolment changes who stands with which watcher, and its ticket is new.
    have hticket : s.ticket? = (st k).ticket? ∨ ∀ j t, s.ticket? = some t → (st j).ticket? ≠ some t := by
      generalize hst : st k = x at hs ⊢
      cases hs with
      | enrol source t' =>
        refine .inr fun j t ht => ?_
        cases ht
        exact hd j
      | _ => exact .inl rfl
    rcases hticket with hticket | hnew
    · have hst : ∀ l, (Function.update st k s l).ticket? = (st l).ticket? := by
        intro l
        by_cases hl : l = k
        · rw [hl, Function.update_self, hticket]
        · rw [Function.update_of_ne hl]
      rw [hst] at hi hj
      exact ih hi hj
    · by_cases hik : i = k <;> by_cases hjk : j = k
      · exact hik.trans hjk.symm
      · rw [hik, Function.update_self] at hi
        rw [Function.update_of_ne hjk] at hj
        exact absurd hj (hnew j t hi)
      · rw [hjk, Function.update_self] at hj
        rw [Function.update_of_ne hik] at hi
        exact absurd hi (hnew i t hj)
      · rw [Function.update_of_ne hik] at hi
        rw [Function.update_of_ne hjk] at hj
        exact ih hi hj

theorem any_isBy (h : Recorded id deeds st) {kind : Roster.Action → Bool} {q : Standing → Bool}
    (hq : q .unwatched = false)
    (hstep : ∀ x a (reply : a.Reply) s, x.Step (id i) a reply s → q s = (kind a || q x)) :
    deeds.any (·.isBy i kind) = q (st i) := by
  induction h with
  | nil => exact hq.symm
  | listener h ha ih => exact ih
  | @launch deeds st j a reply s h hs hd ih =>
    rw [List.any_cons, ih]
    by_cases hij : i = j
    · subst hij
      rw [Function.update_self, hstep _ _ _ _ hs, Deed.isBy, beq_self_eq_true, Bool.true_and]
    · have hne : (some j == some i) = false := by simpa using Ne.symm hij
      rw [Function.update_of_ne hij, Deed.isBy, hne, Bool.false_and, Bool.false_or]

theorem any_registers (h : Recorded id deeds st) :
    deeds.any (·.isBy i (·.registers)) = (st i).hasRegistered :=
  h.any_isBy rfl fun _ _ _ _ hs => by cases hs <;> rfl

theorem any_deregisters (h : Recorded id deeds st) :
    deeds.any (·.isBy i (·.deregisters)) = (st i).hasDeregistered :=
  h.any_isBy rfl fun _ _ _ _ hs => by cases hs <;> rfl

theorem watching_eq (h : Recorded id deeds st) : watching deeds i = (st i).charge?.isSome := by
  rw [watching, h.any_registers, h.any_deregisters]
  cases st i <;> rfl

theorem owns_of_charge? (h : Recorded id deeds st) (hc : (st i).charge? = some t) : Owns deeds i t := by
  rw [h.owns_iff]
  revert hc
  cases st i with
  | displacing t' displaced => exact fun hc => hc
  | inCharge t' => exact fun hc => hc
  | stranded t' => exact fun hc => hc
  | _ => exact fun hc => nomatch hc

/-- Whoever is in charge of a container was put in charge by a launch about it. -/
theorem exists_of_charge (h : Recorded id deeds st) (hc : charge id containerId deeds = some t) :
    ∃ i, id i = containerId ∧ Owns deeds i t ∧ deeds.any (·.isBy i (·.registers)) := by
  induction h with
  | nil => cases hc
  | listener h ha ih =>
    obtain ⟨i, hi, ht, hr⟩ := ih (charge_of_listening ha ▸ hc)
    exact ⟨i, hi, owns_cons.2 (.inr ht), hr⟩
  | @launch deeds st j a reply s h hs hd ih =>
    rcases charge_of_step containerId deeds hs with ⟨hsame, -⟩ | ⟨hid, hnew⟩
    · obtain ⟨i, hi, ht, hr⟩ := ih (hsame ▸ hc)
      exact ⟨i, hi, owns_cons.2 (.inr ht), List.any_cons ▸ Bool.or_eq_true_iff.2 (.inr hr)⟩
    · have hcharge : (update st j s j).charge? = some t := by rw [Function.update_self, ← hnew, hc]
      refine ⟨j, hid, (h.launch hs hd).owns_of_charge? hcharge, ?_⟩
      rw [(h.launch hs hd).any_registers]
      exact hasRegistered_of_charge? hcharge

/-- With a container for each launch, who is in charge of it is what its launch has put in charge. -/
theorem charge_eq_some_iff (h : Recorded id deeds st) (ha : Apart id st) :
    charge id containerId deeds = some t ↔ ∃ i, id i = containerId ∧ (st i).charge? = some t := by
  induction h with
  | nil => exact ⟨fun h => (by cases h), fun ⟨_, _, h⟩ => (by cases h)⟩
  | listener h hl ih => rw [charge_of_listening hl, ih ha]
  | @launch deeds st j a reply s h hs hd ih =>
    rcases charge_of_step containerId deeds hs with ⟨hsame, hkept⟩ | ⟨hid, hnew⟩
    · rw [hsame, ih (ha.of_update hs)]
      refine exists_congr fun i => and_congr_right fun hi => ?_
      by_cases hij : i = j
      · subst hij
        rw [Function.update_self, hkept hi]
      · rw [Function.update_of_ne hij]
    · rw [hnew]
      constructor
      · exact fun ht => ⟨j, hid, by rw [Function.update_self, ht]⟩
      · rintro ⟨i, hi, ht⟩
        have hij : i = j := by
          refine ha i j (ne_unwatched_of_charge? ht) ?_ (hi.trans hid.symm)
          rw [Function.update_self]
          exact hs.ne_unwatched
        rwa [hij, Function.update_self] at ht

theorem mem_of_displacing (h : Recorded id deeds st) (hi : st i = .displacing t displaced) :
    ⟨some i, .register t, some displaced⟩ ∈ deeds := by
  induction h with
  | nil => cases hi
  | listener h ha ih => exact List.mem_cons_of_mem _ (ih hi)
  | @launch deeds st j a reply s h hs hd ih =>
    by_cases hij : i = j
    · subst hij
      rw [Function.update_self] at hi
      subst hi
      generalize st i = x at hs
      cases hs
      exact List.mem_cons_self
    · rw [Function.update_of_ne hij] at hi
      exact List.mem_cons_of_mem _ (ih hi)

theorem of_append {recent : List Deed} (h : Recorded id (recent ++ deeds) st) :
    ∃ st, Recorded id deeds st := by
  induction recent generalizing st with
  | nil => exact ⟨st, h⟩
  | cons d recent ih =>
    cases h with
    | launch h hs hd => exact ih h
    | listener h ha => exact ih h

theorem exists_earlier {d : Deed} (h : Recorded id deeds st) (hd : d ∈ deeds) :
    ∃ recent earlier st, deeds = recent ++ d :: earlier ∧ Recorded id (d :: earlier) st := by
  obtain ⟨recent, earlier, rfl⟩ := List.append_of_mem hd
  obtain ⟨st, h⟩ := h.of_append
  exact ⟨recent, earlier, st, rfl, h⟩

/-- A watcher is closed by its launch, or by one that took its place. Listeners close none. -/
theorem exists_closer (h : Recorded id deeds st) (hc : ⟨who, .close t, ()⟩ ∈ deeds) :
    ∃ i, who = some i ∧ (Owns deeds i t ∨ ∃ t', ⟨some i, .register t', some t⟩ ∈ deeds) := by
  obtain ⟨recent, earlier, st', rfl, h'⟩ := h.exists_earlier hc
  cases h' with
  | listener _ ha => cases ha
  | @launch _ st i _ _ s he hs hd =>
    refine ⟨i, rfl, ?_⟩
    generalize hst : st i = x at hs
    cases hs with
    | close t' => exact .inr ⟨t', List.mem_append_right _ (List.mem_cons_of_mem _ (he.mem_of_displacing hst))⟩
    | leave => exact .inl (Owns.append (he.owns_iff.2 (congrArg _ hst)))

/-- Whoever takes a watcher's place has one of its own for the same container. The one that loses its place was
put in charge before. -/
theorem exists_displaced (h : Recorded id deeds st) (hr : ⟨some i, .register t, some displaced⟩ ∈ deeds) :
    displaced ≠ t ∧ Owns deeds i t ∧
      ∃ j, id j = id i ∧ Owns deeds j displaced ∧ deeds.any (·.isBy j (·.registers)) := by
  obtain ⟨recent, earlier, st', rfl, h'⟩ := h.exists_earlier hr
  cases h' with
  | @launch _ st i _ _ s he hs hd =>
    obtain ⟨hc, hne⟩ := Option.filter_eq_some_iff.1 (Eq.symm hd)
    obtain ⟨j, hj, ho, hany⟩ := he.exists_of_charge hc
    generalize hst : st i = x at hs
    cases hs
    refine ⟨by simpa using hne, .append (he.owns_iff.2 (congrArg _ hst)), j, hj, .append ho, ?_⟩
    rw [List.any_append, List.any_cons, hany, Bool.or_true, Bool.or_true]

end Recorded

end ContainerLaunch.Cleanup
