import ContainerLaunch.Launch.Course
import ContainerLaunch.Proofs.Cleanup.Watcher
/-!
# What a procedure may ask

`Procedure.Asks P p`: all questions that the procedure can come to, whatever it is answered, are as `P` says.

What a launch asks is about its own container and carries its own orders (`asks_launch`). It never asks for a
watcher's lock (`lockless_launch`), so no watcher can hold it up. What a watcher does about a signal only goes to
the log, to the roster and into the removal that it was given (`asks_hear`, `asks_handle`), so the helper is called
for that removal only (`asks_hear_removal`).
-/

namespace ContainerLaunch.Launch

open Cleanup
open Lifecycle (Notice)
open Procedure

namespace Procedure

variable {P : Question → Prop} {ε ε' α β : Type}

/-- All questions that the procedure can come to are as `P` says. -/
def Asks (P : Question → Prop) : Procedure ε α → Prop
  | .done _ => True
  | .fail _ => True
  | .ask q next => P q ∧ ∀ a, Asks P (next a)

theorem asks_done (value : α) : Asks P (.done value : Procedure ε α) := trivial

theorem asks_fail (fault : ε) : Asks P (.fail fault : Procedure ε α) := trivial

theorem asks_ofExcept (r : Except ε α) : Asks P (ofExcept r) := by cases r <;> trivial

theorem asks_question {q : Question} (h : P q) : Asks P (question q : Procedure ε q.Answer) :=
  ⟨h, asks_done⟩

theorem asks_act {a : Roster.Action} (h : P (.act a)) : Asks P (act a : Procedure ε a.Reply) :=
  ⟨h, asks_done⟩

theorem asks_logs (h : ∀ record, P (.log record)) (records : List LogRecord) :
    Asks P (logs records : Procedure ε Unit) := by
  induction records with
  | nil => trivial
  | cons record records ih => exact ⟨h record, fun _ => ih⟩

section
variable {p : Procedure ε α}

theorem Asks.bind {next : α → Procedure ε β} (hp : Asks P p) (hnext : ∀ value, Asks P (next value)) :
    Asks P (p >>= next) := by
  induction p with
  | done value => exact hnext value
  | fail _ => trivial
  | ask q more ih => exact ⟨hp.1, fun a => ih a (hp.2 a)⟩

theorem Asks.attempt (hp : Asks P p) : Asks P (p.attempt : Procedure ε' (Except ε α)) := by
  induction p with
  | done _ => trivial
  | fail _ => trivial
  | ask q more ih => exact ⟨hp.1, fun a => ih a (hp.2 a)⟩

theorem Asks.mapFault {f : ε → ε'} (hp : Asks P p) : Asks P (p.mapFault f) := by
  induction p with
  | done _ => trivial
  | fail _ => trivial
  | ask q more ih => exact ⟨hp.1, fun a => ih a (hp.2 a)⟩

theorem Asks.ensuring {last : Procedure ε Unit} (hp : Asks P p) (hl : Asks P last) :
    Asks P (p.ensuring last) :=
  hp.attempt.bind fun r => hl.bind fun _ => asks_ofExcept r

end

end Procedure

theorem asks_carryOut {P : Question → Prop} (hlog : ∀ record, P (.log record)) {o : Helper.Order}
    (ho : P (.invoke o)) : (carryOut o).Asks P := by
  refine (asks_logs hlog _).bind fun _ => (asks_question ho).bind fun answer => ?_
  exact (asks_ofExcept answer).bind fun _ => (asks_logs hlog _).bind fun _ => asks_done _

/-! ## Launches -/

/-- Whether a question has to wait for a watcher's lock. -/
def Question.takesLock : Question → Bool
  | .act (.observe ..) => true
  | _ => false

/-- The procedure never waits for a watcher's lock. -/
def Lockless {ε α : Type} (p : Procedure ε α) : Prop := p.Asks fun q => q.takesLock = false

section Launches
variable {P : Question → Prop} {ε : Type} (hlog : ∀ record, P (.log record))
  (hact : ∀ a, (Question.act a).takesLock = false → P (.act a))
include hact

namespace Watch

theorem asks_register (t : Ticket) : (register t : Procedure ε Unit).Asks P := by
  refine (asks_act (hact (.register t) rfl)).bind fun displaced? => ?_
  cases displaced? with
  | none => trivial
  | some displaced => exact asks_act (hact (.close displaced) rfl)

theorem asks_listen {containerId : String} (hspawn : P (.spawn containerId)) (t : Ticket) :
    (listen t containerId).Asks P := by
  refine (asks_question hspawn).bind fun answer => ?_
  cases answer with
  | ok _ => exact asks_act (hact (.start t) rfl)
  | error f => exact (asks_act (hact (.leave t) rfl)).bind fun _ => asks_fail f

theorem asks_begin {containerId : String} (hspawn : P (.spawn containerId)) (source : Source) :
    (begin containerId source).Asks P :=
  (asks_act (hact (.enrol containerId source) rfl)).bind fun t => (asks_register hact t).bind fun _ =>
    (asks_listen hact hspawn t).bind fun _ => asks_done t

include hlog in
theorem asks_subscribe {origin : Origin} {url : String} {removal : Helper.Order}
    (hsubscribe : P (.subscribe url removal.containerId removal)) (hspawn : P (.spawn removal.containerId)) :
    (subscribe origin url removal).Asks P := by
  unfold subscribe
  dsimp only
  split
  · trivial
  · split
    · exact (asks_logs hlog _).bind fun _ => asks_done none
    · refine (asks_question hsubscribe).bind fun answer => ?_
      cases answer with
      | ok source => exact (asks_begin hact hspawn source).bind fun t => asks_done (some t)
      | error f =>
        show Procedure.Asks P (if f.isOrdinary then _ else _)
        split
        · exact (asks_logs hlog _).bind fun _ => asks_done none
        · trivial

theorem asks_markRemoved (watcher : Option Ticket) : (markRemoved watcher : Procedure ε Unit).Asks P := by
  cases watcher with
  | none => trivial
  | some t => exact asks_act (hact (.markRemoved t) rfl)

theorem asks_release (containerId : String) (watcher : Option Ticket) :
    (release containerId watcher : Procedure ε Unit).Asks P := by
  cases watcher with
  | none => trivial
  | some t => exact (asks_act (hact (.deregister containerId) rfl)).bind fun _ => asks_act (hact (.close t) rfl)

end Watch

include hlog

theorem asks_startAndRemove {order : Helper.Task → Helper.Order} (hinvoke : ∀ task, P (.invoke (order task)))
    (watcher : Option Ticket) : (startAndRemove order watcher).Asks P := by
  refine (asks_carryOut hlog (hinvoke .start)).bind fun started => ?_
  refine (asks_carryOut hlog (hinvoke .remove)).bind fun removed => ?_
  show Procedure.Asks P (if removed.succeeded then _ else _)
  split
  · exact (Watch.asks_markRemoved hact watcher).bind fun _ => asks_done _
  · trivial

theorem asks_createStartRemove {origin : Watch.Origin} {url containerId : String}
    {order : Helper.Task → Helper.Order} (hinvoke : ∀ task, P (.invoke (order task)))
    (hsubscribe : P (.subscribe url (order .remove).containerId (order .remove)))
    (hspawn : P (.spawn (order .remove).containerId)) :
    (createStartRemove origin url containerId order).Asks P := by
  refine (asks_carryOut hlog (hinvoke .create)).bind fun created => ?_
  show Procedure.Asks P (if !created.succeeded then _ else _)
  split
  · trivial
  · refine (asks_logs hlog _).bind fun _ => (Watch.asks_subscribe hlog hact hsubscribe hspawn).bind fun watcher => ?_
    refine ((asks_startAndRemove hlog hact hinvoke watcher).ensuring ?_).bind fun results => ?_
    · exact Watch.asks_release hact containerId watcher
    · exact (asks_logs hlog _).bind fun _ => asks_done _

theorem asks_work {p : Pipeline} {helperPath : String} {r : Request} {plan : Plan}
    (hinvoke : ∀ task, P (.invoke (Helper.order ⟨helperPath, p.client⟩ task r plan)))
    (hsubscribe : P (.subscribe plan.dockerUrl r.containerId
      (Helper.order ⟨helperPath, p.client⟩ .remove r plan)))
    (hspawn : P (.spawn r.containerId)) : (p.work helperPath r plan).Asks P := by
  unfold Pipeline.work
  cases p.strategy with
  | run => exact asks_carryOut hlog (hinvoke .run)
  | createStart => exact asks_createStartRemove hlog hact hinvoke hsubscribe hspawn

omit hact hlog in
theorem asks_report {containerId : String} (hreport : ∀ message, P (.report containerId message))
    (outcome : Outcome) : (Pipeline.report containerId outcome).Asks P := by
  unfold Pipeline.report
  split
  · trivial
  · exact (asks_question (hreport _)).bind fun answer => asks_ofExcept answer

/-- A launch asks about its own container, and only if it has a plan. -/
theorem asks_launch {p : Pipeline} {s : Settings} {r : Request} (hactive : P (.isActive r.containerId))
    (hspawn : P (.spawn r.containerId)) (hreport : ∀ message, P (.report r.containerId message))
    (hinvoke : ∀ plan, Plan.resolve r s.dockerUrl = .ok plan → ∀ task,
      P (.invoke (Helper.order ⟨s.helperPath, p.client⟩ task r plan)))
    (hsubscribe : ∀ plan, Plan.resolve r s.dockerUrl = .ok plan →
      P (.subscribe plan.dockerUrl r.containerId (Helper.order ⟨s.helperPath, p.client⟩ .remove r plan))) :
    (p.launch s r).Asks P := by
  refine (asks_logs hlog _).bind fun _ => ?_
  cases hplan : Plan.resolve r s.dockerUrl with
  | error e => exact asks_fail _
  | ok plan =>
    refine Asks.mapFault ((asks_question hactive).bind fun answer => (asks_ofExcept answer).bind fun active => ?_)
    show Procedure.Asks P (if !active then _ else _)
    split
    · exact (asks_logs hlog _).bind fun _ => asks_done _
    · refine (asks_work hlog hact (hinvoke plan hplan) (hsubscribe plan hplan) hspawn).bind fun result => ?_
      exact (asks_logs hlog _).bind fun _ => (asks_report hreport _).bind fun _ => asks_done _

end Launches

section Watchers
variable {P : Question → Prop} {ε : Type} {remove : Removal}

theorem asks_handle (hact : ∀ a, a.IsListening → P (.act a)) (hr : remove.Asks P) (t : Ticket) (n : Notice) :
    (Watch.handle t n remove).Asks P := by
  refine (asks_act (hact (.observe t n) trivial)).bind fun begun => ?_
  change Bool at begun
  cases begun with
  | false => trivial
  | true =>
    have hconclude : (Watch.conclude t remove : Procedure Failure _).Asks P :=
      hr.attempt.bind fun answer => (asks_act (hact (.settle t answer) trivial)).bind fun _ => asks_done answer
    refine hconclude.bind fun answer => ?_
    split
    · exact asks_fail _
    · exact asks_done _

theorem asks_hear (hact : ∀ a, a.IsListening → P (.act a)) (hr : remove.Asks P) (t : Ticket) (s : Signal) :
    (Watch.hear t s remove : Procedure ε Unit).Asks P := by
  refine (asks_act (hact (.hear t s) trivial)).bind fun n? => ?_
  cases n? with
  | none => trivial
  | some n =>
    refine (asks_handle hact hr t n).attempt.bind fun answer => ?_
    cases answer with
    | ok _ => trivial
    | error _ => exact asks_act (hact (.leave t) trivial)

/-- A watcher calls the helper for the removal that its launch gave it, and for nothing else. -/
theorem asks_hear_removal (removal : Helper.Order) (t : Ticket) (s : Signal) :
    (Watch.hear t s (carryOut removal) : Procedure ε Unit).Asks fun q => ∀ o, q = .invoke o → o = removal := by
  refine asks_hear (fun a _ o h => nomatch h) (asks_carryOut (fun _ o h => nomatch h) fun o h => ?_) t s
  cases h
  rfl

end Watchers

end ContainerLaunch.Launch
