import ContainerLaunch.Cleanup.Watcher
/-!
# The roster of watchers

Launches share one roster. It knows every watcher by its ticket, and for each container the ticket of
the watcher that is in charge now. Registering a watcher takes the place of the one in charge; whoever
registers closes the watcher that lost its place.

An `Action` is one indivisible step on the roster. Listeners and launches take turns between actions.
-/

namespace ContainerLaunch.Cleanup

open Lifecycle (Notice)

/-- A watcher's number, in the order of enrolment. -/
abbrev Ticket := Nat

/-- All watchers, and which of them are in charge. -/
structure Roster where
  watchers : List Watcher := []
  current : List (String × Ticket) := []
  deriving DecidableEq, Repr, Inhabited

namespace Roster

/-- The watcher with a ticket. -/
def watcher? (r : Roster) (t : Ticket) : Option Watcher := r.watchers[t]?

/-- The ticket in charge of a container. -/
def get? (r : Roster) (containerId : String) : Option Ticket := r.current.lookup containerId

/-- The number of containers that someone is in charge of. -/
def size (r : Roster) : Nat := r.current.length

/-- Changes one watcher. -/
def modify (r : Roster) (t : Ticket) (f : Watcher → Watcher) : Roster :=
  { r with watchers := r.watchers.modify t f }

/-- Takes up a watcher; its ticket is the next number. -/
def enrol (r : Roster) (w : Watcher) : Roster := { r with watchers := r.watchers ++ [w] }

/-- Takes whoever is in charge of a container out of charge. -/
def deregister (r : Roster) (containerId : String) : Roster :=
  { r with current := r.current.filter fun entry => entry.1 != containerId }

/-- Puts a watcher in charge of its container. -/
def register (r : Roster) (t : Ticket) : Roster :=
  match r.watcher? t with
  | some w =>
    { r.deregister w.containerId with
      current := (w.containerId, t) :: (r.deregister w.containerId).current }
  | none => r

/-- The other watcher that loses its place when a watcher is put in charge. -/
def displaced? (r : Roster) (t : Ticket) : Option Ticket :=
  ((r.watcher? t).bind fun w => r.get? w.containerId).filter (· != t)

/-! ## Who is in charge -/

theorem lookup_filter_of_ne {entries : List (String × Ticket)} {containerId other : String}
    (h : other ≠ containerId) :
    (entries.filter fun entry => entry.1 != containerId).lookup other = entries.lookup other := by
  induction entries with
  | nil => rfl
  | cons head rest ih =>
    obtain ⟨id, t⟩ := head
    by_cases hid : id = containerId
    · have hne : (other == id) = false := by simpa [hid] using h
      rw [List.filter_cons_of_neg (by simp [hid]), ih, List.lookup_cons, hne]
    · rw [List.filter_cons_of_pos (by simp [hid]), List.lookup_cons, List.lookup_cons, ih]

theorem get?_deregister_self (r : Roster) (containerId : String) :
    (r.deregister containerId).get? containerId = none := by
  simp only [get?, deregister, List.lookup_eq_none_iff, List.mem_filter]
  rintro ⟨id, t⟩ ⟨-, hid⟩
  have hne : id ≠ containerId := by simpa using hid
  simpa using hne.symm

theorem get?_deregister_of_ne (r : Roster) {containerId other : String} (h : other ≠ containerId) :
    (r.deregister containerId).get? other = r.get? other :=
  lookup_filter_of_ne h

theorem get?_register_self {r : Roster} {t : Ticket} {w : Watcher} (h : r.watcher? t = some w) :
    (r.register t).get? w.containerId = some t := by
  simp [get?, register, h]

theorem get?_register_of_ne {r : Roster} {t : Ticket} {w : Watcher} {other : String}
    (h : r.watcher? t = some w) (ho : other ≠ w.containerId) :
    (r.register t).get? other = r.get? other := by
  have hne : (other == w.containerId) = false := by simpa using ho
  simpa [get?, register, h, List.lookup_cons, hne] using get?_deregister_of_ne r ho

/-! ## Actions -/

/-- One step on the roster. -/
inductive Action where
  | enrol (containerId : String) (source : Source)
  | register (t : Ticket)
  | deregister (containerId : String)
  | start (t : Ticket)
  | close (t : Ticket)
  | markRemoved (t : Ticket)
  | observe (t : Ticket) (n : Notice)
  | hear (t : Ticket) (s : Signal)
  | settle (t : Ticket) (answer : Except Failure Helper.Result)
  | leave (t : Ticket)

/-- What an action tells: the ticket of an enrolment, who lost a place, who was taken out of charge, or
whether a removal has begun. -/
def Action.Reply : Action → Type
  | .enrol .. => Ticket
  | .register _ => Option Ticket
  | .deregister _ => Option Ticket
  | .observe .. => Bool
  | .hear .. => Option Notice
  | _ => Unit

/-- An action that was done. -/
structure Done (α : Type) where
  reply : α
  roster : Roster
  logs : List LogRecord := []

/-- What a watcher logs. -/
def logsOf (r : Roster) (t : Ticket) (log : Watcher → List LogRecord) : List LogRecord :=
  ((r.watcher? t).map log).getD []

/-- Whether something holds of a watcher. -/
def holdsOf (r : Roster) (t : Ticket) (test : Watcher → Bool) : Bool :=
  ((r.watcher? t).map test).getD false

/-- The line about a watcher that takes another's place. -/
def replacementLog (r : Roster) (t : Ticket) : List LogRecord :=
  if (r.displaced? t).isSome then
    r.logsOf t fun w => [.warning .watch ("Replacing event subscription for " ++ w.containerId)]
  else []

/-- Does an action. -/
def perform (r : Roster) : (a : Action) → Done a.Reply
  | .enrol containerId source =>
    { reply := r.watchers.length, roster := r.enrol { containerId, source } }
  | .register t =>
    { reply := r.displaced? t, roster := r.register t, logs := r.replacementLog t }
  | .deregister containerId =>
    { reply := r.get? containerId, roster := r.deregister containerId }
  | .start t => { reply := (), roster := r.modify t (·.start), logs := r.logsOf t (·.startLog) }
  | .close t => { reply := (), roster := r.modify t (·.close), logs := r.logsOf t (·.closeLog) }
  | .markRemoved t => { reply := (), roster := r.modify t (·.markRemoved) }
  | .observe t n =>
    { reply := r.holdsOf t (·.begins n), roster := r.modify t (·.observe n) }
  | .hear t s =>
    { reply := (r.watcher? t).bind fun w => w.accepted? s
      roster := r.modify t (·.hear s)
      logs := r.logsOf t (·.hearLog s) }
  | .settle t answer =>
    { reply := (), roster := r.modify t (·.settle answer), logs := r.logsOf t (·.settleLog answer) }
  | .leave t => { reply := (), roster := r.modify t (·.leave) }

end Roster

end ContainerLaunch.Cleanup
