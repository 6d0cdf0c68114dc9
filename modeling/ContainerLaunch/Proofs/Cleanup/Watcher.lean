import ContainerLaunch.Cleanup.Roster
import ContainerLaunch.Proofs.Helper.Verdict
/-!
# What actions do to one watcher

Three actions bear on the removal of a watcher's container: someone else records a removal, a notice is
taken in, a removal that it began is settled. All others leave the watcher as it is in that respect
(`exists_alike_perform`).

A watcher that was told to stop, or whose listener is over, takes no notice in (`reply_hear_of_deaf`), and no action
changes that (`exists_deaf_perform`).
-/

namespace ContainerLaunch.Cleanup

open Lifecycle (Notice)

/-- A notice that the container died or was stopped. -/
def CallsFor (id : String) (n : Notice) : Prop :=
  n.containerId = id ∧ (n.change = .died ∨ n.change = .stopped)

namespace Watcher
variable {w w' : Watcher} {n : Notice}

theorem isCalledBy_iff : w.isCalledBy n = true ↔ CallsFor w.containerId n := by
  rw [isCalledBy, Bool.and_eq_true, beq_iff_eq, CallsFor]
  cases n.change <;> simp [Lifecycle.Change.leavesStopped]

theorem begins_iff : w.begins n = true ↔ CallsFor w.containerId n ∧ w.removed = false := by
  rw [begins, Bool.and_eq_true, isCalledBy_iff, Bool.not_eq_true']

theorem containerId_observe : (w.observe n).containerId = w.containerId := by
  unfold observe markRemoved
  split
  · rfl
  · split <;> rfl

theorem removing_observe : (w.observe n).removing = (w.begins n || w.removing) := by
  unfold observe markRemoved
  split
  · next h => rw [h, Bool.true_or]
  · next h =>
    rw [Bool.eq_false_iff.2 h, Bool.false_or]
    split <;> rfl

theorem removed_observe :
    (w.observe n).removed = true ↔
      w.removed = true ∨ n.containerId = w.containerId ∧ n.change = .removed := by
  unfold observe markRemoved
  split
  · next h =>
    obtain ⟨⟨-, hc⟩, -⟩ := begins_iff.1 h
    rcases hc with hc | hc <;> simp [hc]
  · split
    · next h => simp [h]
    · next h => simp [h]

theorem removed_settle {answer : Except Failure Helper.Result} :
    (w.settle answer).removed = true ↔ w.removed = true ∨ ∃ r, answer = .ok r ∧ r.Succeeds := by
  rcases answer with f | r
  · simp [settle]
  · simp only [settle, Except.ok.injEq, exists_eq_left', ← Helper.Result.succeeded_iff]
    split
    · next h => simp [markRemoved, h]
    · next h => simp [h]

theorem removing_settle (answer : Except Failure Helper.Result) : (w.settle answer).removing = false := by
  rcases answer with f | r
  · rfl
  · simp only [settle]
    split <;> rfl

theorem containerId_settle (answer : Except Failure Helper.Result) :
    (w.settle answer).containerId = w.containerId := by
  rcases answer with f | r
  · rfl
  · simp only [settle]
    split <;> rfl

/-- Two watchers of one container that are alike as far as its removal is concerned. -/
structure Alike (w w' : Watcher) : Prop where
  containerId : w'.containerId = w.containerId
  removed : w'.removed = w.removed
  removing : w'.removing = w.removing

theorem Alike.refl (w : Watcher) : w.Alike w := ⟨rfl, rfl, rfl⟩

theorem alike_start (w : Watcher) : w.Alike w.start := by
  unfold start
  split <;> exact ⟨rfl, rfl, rfl⟩

theorem alike_close (w : Watcher) : w.Alike w.close := ⟨rfl, rfl, rfl⟩

theorem alike_leave (w : Watcher) : w.Alike w.leave := ⟨rfl, rfl, rfl⟩

theorem alike_hear (w : Watcher) (s : Signal) : w.Alike (w.hear s) := by
  unfold hear
  split
  · exact w.alike_leave
  · exact .refl w

theorem stopping_start (w : Watcher) : w.start.stopping = w.stopping := by
  unfold start
  split <;> rfl

theorem stopping_observe (w : Watcher) (n : Notice) : (w.observe n).stopping = w.stopping := by
  unfold observe
  split
  · rfl
  · split <;> rfl

theorem stopping_settle (w : Watcher) (answer : Except Failure Helper.Result) :
    (w.settle answer).stopping = w.stopping := by
  rcases answer with f | r
  · rfl
  · simp only [settle]
    split <;> rfl

theorem stopping_hear (w : Watcher) (s : Signal) : (w.hear s).stopping = w.stopping := by
  unfold hear
  split <;> rfl

theorem listener_observe (w : Watcher) (n : Notice) : (w.observe n).listener = w.listener := by
  unfold observe
  split
  · rfl
  · split <;> rfl

theorem listener_settle (w : Watcher) (answer : Except Failure Helper.Result) :
    (w.settle answer).listener = w.listener := by
  rcases answer with f | r
  · rfl
  · simp only [settle]
    split <;> rfl

/-- The watcher was told to stop, or its listener is over. -/
def Deaf (w : Watcher) : Prop := w.stopping = true ∨ w.listener = .ended

namespace Deaf
variable (h : w.Deaf)
include h

theorem start : w.start.Deaf := by
  unfold Watcher.start
  split
  · next hidle => exact .inl (h.resolve_right fun hended => Listener.noConfusion (hidle.symm.trans hended))
  · exact h

theorem observe : (w.observe n).Deaf := h.imp (w.stopping_observe n).trans (w.listener_observe n).trans

theorem hear (s : Signal) : (w.hear s).Deaf := by
  unfold Watcher.hear
  split
  · exact .inr rfl
  · exact h

theorem settle (answer : Except Failure Helper.Result) : (w.settle answer).Deaf :=
  h.imp (w.stopping_settle answer).trans (w.listener_settle answer).trans

theorem accepted?_eq_none (s : Signal) : w.accepted? s = none := by
  cases s with
  | notice n =>
    rcases h with hs | hl
    · simp [accepted?, hs]
    · simp [accepted?, isListening, hl]
  | _ => rfl

end Deaf

end Watcher

namespace Roster
variable {r : Roster} {t t' : Ticket} {w : Watcher} {f : Watcher → Watcher}

theorem watcher?_modify_self (h : r.watcher? t = some w) : (r.modify t f).watcher? t = some (f w) := by
  have h : r.watchers[t]? = some w := h
  simp [watcher?, modify, h]

theorem watcher?_modify_of_ne (h : t' ≠ t) : (r.modify t' f).watcher? t = r.watcher? t :=
  List.getElem?_modify_ne f r.watchers h

theorem modify_eq_self (h : r.watcher? t = some w) (hf : f w = w) : r.modify t f = r := by
  have hl : r.watchers.modify t f = r.watchers := by
    refine List.ext_getElem? fun i => ?_
    rw [List.getElem?_modify]
    by_cases hi : t = i
    · have h : r.watchers[i]? = some w := hi ▸ h
      simp [h, hi, hf]
    · simp [hi]
  unfold modify
  rw [hl]

theorem holdsOf_of_watcher? (h : r.watcher? t = some w) (test : Watcher → Bool) :
    r.holdsOf t test = test w := by
  simp [holdsOf, h]

theorem exists_modify (h : r.watcher? t = some w) (P : Watcher → Prop) (hw : P w) (hf : P (f w)) :
    ∃ w', (r.modify t' f).watcher? t = some w' ∧ P w' := by
  by_cases ht : t' = t
  · subst ht
    exact ⟨f w, watcher?_modify_self h, hf⟩
  · exact ⟨w, (watcher?_modify_of_ne ht).trans h, hw⟩

theorem watcher?_enrol (h : r.watcher? t = some w) (w' : Watcher) : (r.enrol w').watcher? t = some w := by
  obtain ⟨hlt, -⟩ := List.getElem?_eq_some_iff.1 h
  exact (List.getElem?_append_left hlt).trans h

theorem watcher?_register : (r.register t').watcher? t = r.watcher? t := by
  unfold register
  split <;> rfl

/-- The action bears neither on the watcher's removals nor on what it knows of others. -/
def Action.LeavesAlone (t : Ticket) : Action → Prop
  | .markRemoved t' | .observe t' _ | .settle t' _ => t' ≠ t
  | _ => True

/-- What only those do who handle notices for a watcher. -/
def Action.IsListening : Action → Prop
  | .observe .. | .hear .. | .settle .. | .leave _ => True
  | _ => False

theorem exists_alike_perform {a : Action} (h : r.watcher? t = some w) (ha : a.LeavesAlone t) :
    ∃ w', (r.perform a).roster.watcher? t = some w' ∧ w.Alike w' := by
  cases a with
  | enrol id source => exact ⟨w, watcher?_enrol h _, .refl w⟩
  | register t' => exact ⟨w, watcher?_register.trans h, .refl w⟩
  | deregister id => exact ⟨w, h, .refl w⟩
  | start t' => exact exists_modify h w.Alike (.refl w) w.alike_start
  | close t' => exact exists_modify h w.Alike (.refl w) w.alike_close
  | markRemoved t' => exact ⟨w, (watcher?_modify_of_ne ha).trans h, .refl w⟩
  | observe t' n => exact ⟨w, (watcher?_modify_of_ne ha).trans h, .refl w⟩
  | hear t' s => exact exists_modify h w.Alike (.refl w) (w.alike_hear s)
  | settle t' answer => exact ⟨w, (watcher?_modify_of_ne ha).trans h, .refl w⟩
  | leave t' => exact exists_modify h w.Alike (.refl w) w.alike_leave

theorem exists_deaf_perform (a : Action) (h : r.watcher? t = some w) :
    ∃ w', (r.perform a).roster.watcher? t = some w' ∧ (w.Deaf → w'.Deaf) := by
  let P (w' : Watcher) : Prop := w.Deaf → w'.Deaf
  have hw : P w := fun hd => hd
  cases a with
  | enrol id source => exact ⟨w, watcher?_enrol h _, hw⟩
  | register t' => exact ⟨w, watcher?_register.trans h, hw⟩
  | deregister id => exact ⟨w, h, hw⟩
  | start t' => exact exists_modify h P hw .start
  | close t' => exact exists_modify h P hw fun _ => .inl rfl
  | markRemoved t' => exact exists_modify h P hw hw
  | observe t' n => exact exists_modify h P hw .observe
  | hear t' s => exact exists_modify h P hw fun hd => hd.hear s
  | settle t' answer => exact exists_modify h P hw fun hd => hd.settle answer
  | leave t' => exact exists_modify h P hw fun _ => .inr rfl

theorem reply_hear_of_deaf (h : r.watcher? t = some w) (hd : w.Deaf) (s : Signal) :
    (r.perform (.hear t s)).reply = none := by
  show (r.watcher? t).bind (fun w => w.accepted? s) = none
  rw [h]
  exact hd.accepted?_eq_none s

end Roster

end ContainerLaunch.Cleanup
