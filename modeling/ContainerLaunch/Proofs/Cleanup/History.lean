import ContainerLaunch.Proofs.Cleanup.Watcher
import ContainerLaunch.Proofs.Helper.Verdict
/-!
# The history of a watcher

An `Event` is what happens to one watcher: a notice is taken in by one of those who handle notices for it
(they are numbered), a removal goes its course, someone else says that the container was removed. Histories
have the latest event first.

What the helper answers to a removal is an event of its own. What comes of an answer later, when the removal ends,
is no event: it is read off the answer (`Removed`, `Aware`).

`Lawful o id events p` says that the events may follow each other, and `p` who holds the lock after them, and
how far that one has come. A removal is checked for, called for, answered and ended under the lock (`trail_of`);
nothing else waits for it. What holds of all lawful histories is read off here, and `Proofs/Launch/Vigil` shows that
watchers have no others.
-/

namespace ContainerLaunch.Cleanup

open Lifecycle (Notice)

/-- What happens to a watcher. A removal begins with a notice that finds the container not yet removed, and when it
has ended, the lock is free again. -/
inductive Event where
  | marked
  | taken (who : Nat) (n : Notice) (begun : Bool)
  | called (who : Nat) (o : Helper.Order)
  | answered (who : Nat) (answer : Except Failure Helper.Result)
  | ended (who : Nat)

/-- The events of a removal, the latest first. -/
def course (o : Helper.Order) (who : Nat) (n : Notice) (answer : Except Failure Helper.Result) : List Event :=
  [.ended who, .answered who answer, .called who o, .taken who n true]

/-- The event is one of the removal by `who`. -/
def Event.isOf (who : Nat) : Event → Bool
  | .taken who' _ true | .called who' _ | .answered who' _ | .ended who' => who' == who
  | _ => false

/-- What has happened of the removal by `who`. -/
def trail (who : Nat) (events : List Event) : List Event := events.filter (·.isOf who)

/-- The removal by `who` has ended, and the helper answered that the container is gone. -/
def Removed (o : Helper.Order) (events : List Event) (who : Nat) : Prop :=
  .ended who ∈ events ∧ ∃ r, .answered who (.ok r) ∈ events ∧ o.FulfilledBy r

/-- The watcher was told that the container is gone: by someone else, by a notice of its own, or by the helper. -/
def Aware (o : Helper.Order) (id : String) (events : List Event) : Prop :=
  .marked ∈ events ∨
    (∃ who n begun, .taken who n begun ∈ events ∧ n.containerId = id ∧ n.change = .removed) ∨
    ∃ who, Removed o events who

/-- Those whose check found the container not yet removed. -/
def checks : List Event → List Nat :=
  List.filterMap fun
    | .taken who _ true => some who
    | _ => none

/-- Those who have called the helper. -/
def calls : List Event → List Nat :=
  List.filterMap fun
    | .called who _ => some who
    | _ => none

/-- How far the one has come who holds the lock. -/
inductive Progress where
  | checked
  | called
  | answered (answer : Except Failure Helper.Result)

/-- Who holds the lock, and how far that one has come. -/
abbrev Holder := Option (Nat × Progress)

/-- The one whose check found the container not yet removed, but who has not called the helper. -/
def onTheWay : Holder → List Nat
  | some (who, .checked) => [who]
  | _ => []

/-- The events may follow each other, and leave the lock with the holder. -/
inductive Lawful (o : Helper.Order) (id : String) : List Event → Holder → Prop where
  | nil : Lawful o id [] none
  | marked {events p} (h : Lawful o id events p) : Lawful o id (.marked :: events) p
  | passed {events p who n} (h : Lawful o id events p) (hn : ¬ (CallsFor id n ∧ ¬ Aware o id events)) :
    Lawful o id (.taken who n false :: events) p
  | checked {events who n} (h : Lawful o id events none) (hn : CallsFor id n) (hu : ¬ Aware o id events)
    (hw : who ∉ checks events) : Lawful o id (.taken who n true :: events) (some (who, .checked))
  | called {events who} (h : Lawful o id events (some (who, .checked))) :
    Lawful o id (.called who o :: events) (some (who, .called))
  | answered {events who} (h : Lawful o id events (some (who, .called)))
    (answer : Except Failure Helper.Result) :
    Lawful o id (.answered who answer :: events) (some (who, .answered answer))
  | ended {events who answer} (h : Lawful o id events (some (who, .answered answer))) :
    Lawful o id (.ended who :: events) none

section Lists
variable {o : Helper.Order} {id : String} {events : List Event} {who : Nat} {n : Notice}

theorem Removed.cons {e : Event} (h : Removed o events who) : Removed o (e :: events) who := by
  obtain ⟨he, r, ha, hr⟩ := h
  exact ⟨List.mem_cons_of_mem _ he, r, List.mem_cons_of_mem _ ha, hr⟩

theorem Aware.cons {e : Event} (h : Aware o id events) : Aware o id (e :: events) := by
  rcases h with h | ⟨who, n, begun, h, hn⟩ | ⟨who, h⟩
  · exact .inl (List.mem_cons_of_mem _ h)
  · exact .inr (.inl ⟨who, n, begun, List.mem_cons_of_mem _ h, hn⟩)
  · exact .inr (.inr ⟨who, h.cons⟩)

theorem Aware.append (h : Aware o id events) (later : List Event) : Aware o id (later ++ events) := by
  induction later with
  | nil => exact h
  | cons e later ih => exact ih.cons

theorem not_aware_nil : ¬ Aware o id [] := by
  rintro (h | ⟨_, _, _, h, -⟩ | ⟨_, h, -⟩) <;> cases h

theorem aware_taken {begun : Bool} : Aware o id (.taken who n begun :: events) ↔
    Aware o id events ∨ n.containerId = id ∧ n.change = .removed := by
  constructor
  · rintro (h | ⟨who', n', begun', h, hn⟩ | ⟨who', he, r, ha, hr⟩)
    · exact .inl (.inl (by simpa using h))
    · rcases List.mem_cons.1 h with heq | h
      · cases heq
        exact .inr hn
      · exact .inl (.inr (.inl ⟨who', n', begun', h, hn⟩))
    · exact .inl (.inr (.inr ⟨who', by simpa using he, r, by simpa using ha, hr⟩))
  · rintro (h | hn)
    · exact h.cons
    · exact .inr (.inl ⟨who, n, begun, List.mem_cons_self, hn⟩)

theorem aware_called {o' : Helper.Order} : Aware o id (.called who o' :: events) ↔ Aware o id events := by
  refine ⟨?_, Aware.cons⟩
  rintro (h | ⟨who', n', begun', h, hn⟩ | ⟨who', he, r, ha, hr⟩)
  · exact .inl (by simpa using h)
  · exact .inr (.inl ⟨who', n', begun', by simpa using h, hn⟩)
  · exact .inr (.inr ⟨who', by simpa using he, r, by simpa using ha, hr⟩)

/-- An answer makes no difference before the removal has ended. -/
theorem aware_answered {answer : Except Failure Helper.Result} (hw : .ended who ∉ events) :
    Aware o id (.answered who answer :: events) ↔ Aware o id events := by
  refine ⟨?_, Aware.cons⟩
  rintro (h | ⟨who', n', begun', h, hn⟩ | ⟨who', he, r, ha, hr⟩)
  · exact .inl (by simpa using h)
  · exact .inr (.inl ⟨who', n', begun', by simpa using h, hn⟩)
  · have hend : .ended who' ∈ events := by simpa using he
    rcases List.mem_cons.1 ha with heq | ha
    · cases heq
      exact absurd hend hw
    · exact .inr (.inr ⟨who', hend, r, ha, hr⟩)

theorem aware_ended : Aware o id (.ended who :: events) ↔
    Aware o id events ∨ ∃ r, .answered who (.ok r) ∈ events ∧ o.FulfilledBy r := by
  constructor
  · rintro (h | ⟨who', n', begun', h, hn⟩ | ⟨who', he, r, ha, hr⟩)
    · exact .inl (.inl (by simpa using h))
    · exact .inl (.inr (.inl ⟨who', n', begun', by simpa using h, hn⟩))
    · have ha : .answered who' (.ok r) ∈ events := by simpa using ha
      rcases List.mem_cons.1 he with heq | he
      · cases heq
        exact .inr ⟨r, ha, hr⟩
      · exact .inl (.inr (.inr ⟨who', he, r, ha, hr⟩))
  · rintro (h | ⟨r, ha, hr⟩)
    · exact h.cons
    · exact .inr (.inr ⟨who, List.mem_cons_self, r, List.mem_cons_of_mem _ ha, hr⟩)

theorem mem_trail {e : Event} : e ∈ trail who events ↔ e ∈ events ∧ e.isOf who = true := List.mem_filter

theorem mem_checks_iff : who ∈ checks events ↔ ∃ n, .taken who n true ∈ events := by
  constructor
  · intro h
    obtain ⟨e, he, hw⟩ := List.mem_filterMap.1 h
    split at hw
    · next n =>
      cases hw
      exact ⟨n, he⟩
    · cases hw
  · rintro ⟨n, h⟩
    exact List.mem_filterMap.2 ⟨_, h, rfl⟩

end Lists

/-! ## Trails -/

/-- How far `who` has come, if the lock is theirs. -/
def Holder.progress? (p : Holder) (who : Nat) : Option Progress :=
  p.bind fun (holder, progress) => if holder = who then some progress else none

section Holders
variable {p : Holder} {who holder : Nat} {progress : Progress}

theorem Holder.progress?_eq_some_iff : p.progress? who = some progress ↔ p = some (who, progress) := by
  rcases p with - | ⟨holder, progress'⟩
  · exact iff_of_false nofun nofun
  · by_cases hw : holder = who
    · simp [Holder.progress?, hw]
    · simp [Holder.progress?, hw]

theorem Holder.progress?_self : Holder.progress? (some (who, progress)) who = some progress := if_pos rfl

theorem Holder.progress?_of_ne (h : holder ≠ who) : Holder.progress? (some (holder, progress)) who = none := if_neg h

end Holders

/-- What can have happened of a removal, given how far the one has come who holds the lock for it. Without the
lock it has not begun or has ended. -/
inductive Trail (o : Helper.Order) (who : Nat) : Option Progress → List Event → Prop where
  | unbegun : Trail o who none []
  | checked (n : Notice) : Trail o who (some .checked) [.taken who n true]
  | called (n : Notice) : Trail o who (some .called) [.called who o, .taken who n true]
  | answered (n : Notice) (answer : Except Failure Helper.Result) :
    Trail o who (some (.answered answer)) [.answered who answer, .called who o, .taken who n true]
  | ended (n : Notice) (answer : Except Failure Helper.Result) : Trail o who none (course o who n answer)

section Trails
variable {o : Helper.Order} {who : Nat} {p p' : Holder} {progress? : Option Progress} {events : List Event}

namespace Trail

theorem eq_nil (h : Trail o who progress? (trail who events)) (hw : who ∉ checks events) :
    trail who events = [] := by
  have hnot : ∀ n, .taken who n true ∉ trail who events :=
    fun n hn => hw (mem_checks_iff.2 ⟨n, (mem_trail.1 hn).1⟩)
  generalize trail who events = events' at h hnot
  cases h with
  | unbegun => rfl
  | checked n => exact absurd (by simp) (hnot n)
  | called n => exact absurd (by simp) (hnot n)
  | answered n answer => exact absurd (by simp) (hnot n)
  | ended n answer => exact absurd (by simp [course]) (hnot n)

theorem call (h : Trail o who (some .checked) events) : Trail o who (some .called) (.called who o :: events) := by
  cases h with
  | checked n => exact .called n

theorem answer (h : Trail o who (some .called) events) (answer : Except Failure Helper.Result) :
    Trail o who (some (.answered answer)) (.answered who answer :: events) := by
  cases h with
  | called n => exact .answered n answer

theorem finish {answer : Except Failure Helper.Result} (h : Trail o who (some (.answered answer)) events) :
    Trail o who none (.ended who :: events) := by
  cases h with
  | answered n answer => exact .ended n answer

end Trail

/-- An event of one removal leaves the trails of the others as they are. -/
theorem trail_cons {holder : Nat} {e : Event} (he : ∀ who, e.isOf who = (holder == who))
    (hothers : ∀ who, holder ≠ who → p'.progress? who = p.progress? who)
    (hself : Trail o holder (p'.progress? holder) (e :: trail holder events))
    (h : ∀ who, Trail o who (p.progress? who) (trail who events)) (who : Nat) :
    Trail o who (p'.progress? who) (trail who (e :: events)) := by
  by_cases hw : holder = who
  · subst hw
    have hcons : trail holder (e :: events) = e :: trail holder events :=
      List.filter_cons_of_pos ((he holder).trans (beq_self_eq_true holder))
    rw [hcons]
    exact hself
  · have hcons : trail who (e :: events) = trail who events :=
      List.filter_cons_of_neg (by simp [he, hw])
    rw [hcons, hothers who hw]
    exact h who

end Trails

namespace Lawful
variable {o : Helper.Order} {id : String} {events : List Event} {p : Holder} {who : Nat} {progress : Progress}
  {answer answer' : Except Failure Helper.Result}

/-- What has happened of a removal is a trail, whoever holds the lock. -/
theorem trail_of (h : Lawful o id events p) (who : Nat) : Trail o who (p.progress? who) (trail who events) := by
  have hself {holder : Nat} {progress : Progress} {events : List Event}
      (h : Trail o holder (Holder.progress? (some (holder, progress)) holder) events) :
      Trail o holder (some progress) events := Holder.progress?_self ▸ h
  induction h generalizing who with
  | nil => exact .unbegun
  | marked _ ih => exact ih who
  | passed _ _ ih => exact ih who
  | @checked events holder n _ _ _ hnew ih =>
    refine trail_cons (fun _ => rfl) (fun _ hw => Holder.progress?_of_ne hw) ?_ ih who
    rw [Holder.progress?_self, (ih holder).eq_nil hnew]
    exact .checked n
  | @called events holder _ ih =>
    refine trail_cons (fun _ => rfl) (fun _ hw => ?_) ?_ ih who
    · rw [Holder.progress?_of_ne hw, Holder.progress?_of_ne hw]
    · rw [Holder.progress?_self]
      exact (hself (ih holder)).call
  | @answered events holder _ answer ih =>
    refine trail_cons (fun _ => rfl) (fun _ hw => ?_) ?_ ih who
    · rw [Holder.progress?_of_ne hw, Holder.progress?_of_ne hw]
    · rw [Holder.progress?_self]
      exact (hself (ih holder)).answer answer
  | @ended events holder answer _ ih =>
    refine trail_cons (fun _ => rfl) (fun _ hw => ?_) (hself (ih holder)).finish ih who
    exact (Holder.progress?_of_ne hw).symm

/-- The one who holds the lock has come as far as the history says, and has not ended. -/
theorem trail_holder (h : Lawful o id events (some (who, progress))) :
    Trail o who (some progress) (trail who events) := Holder.progress?_self ▸ h.trail_of who

theorem not_ended (h : Lawful o id events (some (who, progress))) : .ended who ∉ events := by
  intro he
  have ht := h.trail_holder
  have he : .ended who ∈ trail who events := mem_trail.2 ⟨he, beq_self_eq_true who⟩
  generalize trail who events = events' at ht he
  cases ht <;> simp at he

theorem answered_iff (h : Lawful o id events (some (who, .answered answer))) :
    .answered who answer' ∈ events ↔ answer' = answer := by
  have hmem : .answered who answer' ∈ events ↔ .answered who answer' ∈ trail who events :=
    ⟨fun ha => mem_trail.2 ⟨ha, beq_self_eq_true who⟩, fun ha => (mem_trail.1 ha).1⟩
  have ht := h.trail_holder
  rw [hmem]
  generalize trail who events = events' at ht
  cases ht with
  | answered n answer => simp

/-- A removal that was called for and has not ended has the lock. -/
theorem exists_holder (h : Lawful o id events p) {o' : Helper.Order} (hc : .called who o' ∈ events)
    (he : .ended who ∉ events) : ∃ progress, p = some (who, progress) := by
  have ht := h.trail_of who
  have hc : .called who o' ∈ trail who events := mem_trail.2 ⟨hc, beq_self_eq_true who⟩
  have he : .ended who ∉ trail who events := fun he' => he (mem_trail.1 he').1
  generalize hp : p.progress? who = progress? at ht
  cases progress? with
  | some progress => exact ⟨progress, Holder.progress?_eq_some_iff.1 hp⟩
  | none =>
    generalize trail who events = events' at ht hc he
    cases ht with
    | unbegun => cases hc
    | ended n answer => exact absurd List.mem_cons_self he

/-- Whoever holds the lock found, when they took it, that nothing had told of a removal. -/
theorem exists_check (h : Lawful o id events (some (who, progress))) :
    ∃ n later earlier, events = later ++ .taken who n true :: earlier ∧ ¬ Aware o id earlier := by
  have cons {e : Event} {events : List Event} :
      (∃ n later earlier, events = later ++ .taken who n true :: earlier ∧ ¬ Aware o id earlier) →
      ∃ n later earlier, e :: events = later ++ .taken who n true :: earlier ∧ ¬ Aware o id earlier := by
    rintro ⟨n, later, earlier, rfl, hu⟩
    exact ⟨n, e :: later, earlier, rfl, hu⟩
  generalize hp : some (who, progress) = p at h
  induction h generalizing progress with
  | nil => cases hp
  | marked _ ih => exact cons (ih hp)
  | passed _ _ ih => exact cons (ih hp)
  | @checked events who' n _ _ hu _ _ =>
    cases hp
    exact ⟨n, [], events, rfl, hu⟩
  | called _ ih =>
    cases hp
    exact cons (ih rfl)
  | answered _ _ ih =>
    cases hp
    exact cons (ih rfl)
  | ended _ _ => cases hp

theorem mem_checks (h : Lawful o id events (some (who, progress))) : who ∈ checks events := by
  obtain ⟨n, later, earlier, rfl, -⟩ := h.exists_check
  exact mem_checks_iff.2 ⟨n, by simp⟩

theorem checks_eq (h : Lawful o id events p) : checks events = onTheWay p ++ calls events := by
  induction h with
  | nil => rfl
  | marked _ ih => exact ih
  | passed _ _ ih => exact ih
  | @checked events who n _ _ _ _ ih => exact congrArg (who :: ·) ih
  | called _ ih => exact ih
  | answered _ _ ih => exact ih
  | ended _ ih => exact ih

end Lawful

end ContainerLaunch.Cleanup
