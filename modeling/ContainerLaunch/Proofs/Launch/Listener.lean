import ContainerLaunch.Proofs.Launch.Vigil
import Mathlib.Data.List.TakeWhile
/-!
# A listener and everyone else

The listener of one watcher, from the watcher's enrolment on. Its source brings one signal after the other, whatever
they are. The listener hears a signal when it is done with the one before; to hear it and to find out whether the
watcher was closed is one step. Then come its turns: `Turn` is one of them, and to call the helper and to be answered
are two. The helper comes to any result or error, but nobody interrupts. In between everyone else acts on the roster:
they start the watcher, close it, record a removal, and do whatever they like to other watchers.

What happens is written down in its order. `heeded` are the signals that were heard while nobody had closed the
watcher, and `taken` are the notices that were taken in.
-/

namespace ContainerLaunch.Launch

open Cleanup
open Lifecycle (Notice)
open Procedure

/-! ## What is left to do about a signal -/

namespace Watch

/-- The listener ends with what breaks off. -/
def orLeave (t : Ticket) (p : Procedure Failure Unit) : Procedure Empty Unit := do
  match ← p.attempt with
  | .ok () => return ()
  | .error (_ : Failure) => act (.leave t)

/-- What is left to do once a signal was heard. -/
def reaction (t : Ticket) (remove : Removal) : Option Notice → Procedure Empty Unit
  | none => .done ()
  | some n => orLeave t (handle t n remove)

theorem hear_eq (t : Ticket) (s : Signal) (remove : Removal) :
    hear t s remove = .ask (.act (.hear t s)) (reaction t remove) := by
  refine congrArg (Procedure.ask _) (funext fun n? => ?_)
  change Option Notice at n?
  cases n? <;> rfl

/-- What is left to do once a removal has begun. -/
def ending (t : Ticket) (remove : Removal) : Procedure Empty Unit := orLeave t (conclusion t remove)

theorem reaction_some (t : Ticket) (remove : Removal) (n : Notice) :
    reaction t remove (some n) =
      .ask (.act (.observe t n)) fun begun => bif begun then ending t remove else .done () := by
  show orLeave t (handle t n remove) = _
  rw [handle_eq]
  refine congrArg (Procedure.ask _) (funext fun begun => ?_)
  change Bool at begun
  cases begun <;> rfl

theorem ending_done (t : Ticket) (r : Helper.Result) :
    ending t (.done r) = .ask (.act (.settle t (.ok r))) fun _ => .done () := rfl

theorem ending_fail (t : Ticket) {f : Failure} (hf : f.isOrdinary) :
    ending t (.fail f) = .ask (.act (.settle t (.error f))) fun _ => .done () := by
  have hv : verdict (.error f) = .ok () := by simp [verdict, interrupt?, hf]
  unfold ending
  rw [conclusion_fail, hv]
  rfl

theorem ending_ask (t : Ticket) (q : Question) (next : q.Answer → Removal) :
    ending t (.ask q next) = .ask q fun answer => ending t (next answer) := rfl

end Watch

/-! ## Histories -/

/-- The notice that a signal is. -/
def signalled? : Signal → Option Notice
  | .notice n => some n
  | .ended | .failed _ => none

/-- Something that happened: an action on the roster, or a call of the helper. -/
inductive Occurrence where
  | act (a : Roster.Action)
  | call (o : Helper.Order)

namespace Occurrence

/-- The watcher is closed. -/
def closes (t : Ticket) : Occurrence → Bool
  | .act (.close t') => t' == t
  | _ => false

/-- The signal that the listener of the watcher hears. -/
def heard? (t : Ticket) : Occurrence → Option Signal
  | .act (.hear t' s) => if t' = t then some s else none
  | _ => none

/-- The notice that the watcher takes in. -/
def taken? (t : Ticket) : Occurrence → Option Notice
  | .act (.observe t' n) => if t' = t then some n else none
  | _ => none

variable {t : Ticket} {e : Occurrence} {history : List Occurrence}

theorem closes_iff : e.closes t = true ↔ e = .act (.close t) := by
  cases e with
  | call o => simp [closes]
  | act a => cases a <;> simp [closes]

theorem heard?_eq_some_iff {s : Signal} : e.heard? t = some s ↔ e = .act (.hear t s) := by
  cases e with
  | call o => simp [heard?]
  | act a => cases a <;> simp [heard?]

end Occurrence

/-- The signals that were heard before anyone closed the watcher. -/
def heeded (t : Ticket) (history : List Occurrence) : List Signal :=
  (history.takeWhile fun e => !e.closes t).filterMap (Occurrence.heard? t)

/-- The notices that were taken in. -/
def taken (t : Ticket) (history : List Occurrence) : List Notice := history.filterMap (Occurrence.taken? t)

section Histories
variable {t : Ticket} {e : Occurrence} {history : List Occurrence}

theorem heeded_concat_of_closed (h : .act (.close t) ∈ history) : heeded t (history ++ [e]) = heeded t history := by
  unfold heeded
  rw [List.takeWhile_append, if_neg]
  intro hlen
  have hall := (List.takeWhile_prefix fun e : Occurrence => !e.closes t).eq_of_length hlen
  have hc := List.takeWhile_eq_self_iff.1 hall _ h
  simp [Occurrence.closes] at hc

theorem heeded_concat_of_open (h : .act (.close t) ∉ history) :
    heeded t (history ++ [e]) = heeded t history ++ (e.heard? t).toList := by
  have hall : ∀ e ∈ history, (!e.closes t) = true := by
    intro e he
    rw [Bool.not_eq_true', Bool.eq_false_iff, Ne, Occurrence.closes_iff]
    rintro rfl
    exact h he
  unfold heeded
  rw [List.takeWhile_append_of_pos hall, List.takeWhile_eq_self_iff.2 hall, List.filterMap_append]
  refine congrArg _ ?_
  by_cases he : e.closes t = true
  · obtain rfl := Occurrence.closes_iff.1 he
    simp [Occurrence.closes, Occurrence.heard?]
  · rw [List.takeWhile_cons, if_pos (by simpa using he)]
    cases hs : e.heard? t <;> simp [hs]

theorem taken_concat : taken t (history ++ [e]) = taken t history ++ (e.taken? t).toList := by
  unfold taken
  rw [List.filterMap_append]
  cases hn : e.taken? t <;> simp [hn]

end Histories

/-! ## Steps -/

/-- The roster, what the listener still does about the last signal, whether its call of the helper is out, what it
has logged, and what has happened. -/
structure Listening where
  roster : Roster
  rest : Procedure Empty Unit := .done ()
  out : Bool := false
  logs : List LogRecord := []
  history : List Occurrence := []

namespace Listening

/-- A watcher that was just taken up; its listener has not been started. -/
def start (r : Roster) (containerId : String) (source : Source) : Listening where
  roster := r.enrol { containerId, source }

/-- Only the listener of the watcher itself does this. -/
def Own (t : Ticket) : Roster.Action → Prop
  | .observe t' _ | .hear t' _ | .settle t' _ | .leave t' => t' = t
  | _ => False

/-- The listener does an action. -/
def does (l : Listening) (a : Roster.Action) (next : a.Reply → Procedure Empty Unit) : Listening where
  roster := (l.roster.perform a).roster
  rest := next (l.roster.perform a).reply
  out := l.out
  logs := l.logs ++ (l.roster.perform a).logs
  history := l.history ++ [.act a]

/-- Whether an action can be done now: taking a notice in may have to wait for the lock. -/
def Free (l : Listening) : Roster.Action → Prop
  | .observe t n => l.roster.holdsOf t (·.awaitsLock n) = false
  | _ => True

/-- The listener goes on with the signal that it has heard. To call the helper and to be answered are two turns, and
the answer is any result or any ordinary failure. -/
inductive Turn (l : Listening) : Listening → Prop where
  | log {record next} (h : l.rest = .ask (.log record) next) :
    Turn l { l with rest := next (), logs := l.logs ++ [record] }
  | act {a next} (h : l.rest = .ask (.act a) next) (hf : l.Free a) : Turn l (l.does a next)
  | call {o next} (h : l.rest = .ask (.invoke o) next) (ho : l.out = false) :
    Turn l { l with out := true, history := l.history ++ [.call o] }
  | answer {o next} (h : l.rest = .ask (.invoke o) next) (ho : l.out = true) (a : Except Failure Helper.Result)
    (ha : ∀ f, a = .error f → f.isOrdinary) : Turn l { l with rest := next a, out := false }

/-- Others act on the roster, the source brings the next signal once the listener is done with the last one, or the
listener takes a turn. -/
inductive Step (t : Ticket) (remove : Removal) (l : Listening) : Listening → Prop where
  | other {a : Roster.Action} (ha : ¬ Own t a) :
    Step t remove l { l with roster := (l.roster.perform a).roster, history := l.history ++ [.act a] }
  | deliver {s : Signal} {next} (hl : l.roster.holdsOf t (·.isListening) = true) (h : l.rest = .done ())
    (hs : Watch.hear t s remove = .ask (.act (.hear t s)) next) : Step t remove l (l.does (.hear t s) next)
  | turn {l' : Listening} (h : Turn l l') : Step t remove l l'

/-- Any number of steps. -/
abbrev Runs (t : Ticket) (remove : Removal) : Listening → Listening → Prop := Relation.ReflTransGen (Step t remove)

/-- Left to itself, a listener comes to an end with its turns. -/
theorem acc_turn (l : Listening) : Acc (fun later now => Turn now later) l := by
  obtain ⟨roster, rest, out, logs, history⟩ := l
  induction rest generalizing roster out logs history with
  | done value => exact ⟨_, fun _ h => by cases h <;> contradiction⟩
  | fail fault => exact fault.elim
  | ask q next ih =>
    -- Every turn leads to a part of what is left, but for a call, after which there is only its answer to wait for.
    have hout (logs history) : Acc (fun later now => Turn now later) ⟨roster, .ask q next, true, logs, history⟩ := by
      refine ⟨_, fun l' h => ?_⟩
      cases h with
      | log h => cases h; exact ih ..
      | act h _ => cases h; exact ih ..
      | call _ ho => cases ho
      | answer h => cases h; exact ih ..
    refine ⟨_, fun l' h => ?_⟩
    cases h with
    | log h => cases h; exact ih ..
    | act h _ => cases h; exact ih ..
    | call _ _ => exact hout ..
    | answer h => cases h; exact ih ..

end Listening

end ContainerLaunch.Launch
