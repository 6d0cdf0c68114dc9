import ContainerLaunch.Cleanup.Roster
import ContainerLaunch.Client
import ContainerLaunch.Helper.Order
/-!
# Procedures

What a launch does is a tree of questions. A question goes to the outside (the daemon's client, the
framework, the helper, the system, the log) or is an action on the roster that launches share; the answer decides
how the procedure goes on. It ends with a value or breaks off with a fault. A procedure runs in any
monad that answers questions, and since each question is one step, several procedures can take turns.
-/

namespace ContainerLaunch.Launch

open Cleanup

/-- A question. -/
inductive Question where
  | log (record : LogRecord)
  | probe (client : Client) (url : String)
  | isActive (containerId : String)
  | invoke (order : Helper.Order)
  | report (containerId message : String)
  | subscribe (url containerId : String) (removal : Helper.Order)
  /-- A thread for the listener of a container's watcher. -/
  | spawn (containerId : String)
  | act (action : Roster.Action)

/-- What answers a question. -/
def Question.Answer : Question → Type
  | .log _ => Unit
  | .probe .. => Client.ProbeAnswer
  | .isActive _ => Except Failure Bool
  | .invoke _ => Except Failure Helper.Result
  | .report .. => Except Failure Unit
  | .subscribe .. => Except Failure Source
  | .spawn _ => Except Failure Unit
  | .act action => action.Reply

/-- A procedure that ends with a value or breaks off with a fault. -/
inductive Procedure (ε α : Type) where
  | done (value : α)
  | fail (fault : ε)
  | ask (q : Question) (next : q.Answer → Procedure ε α)

namespace Procedure

variable {ε ε' α β : Type}

/-- Goes on with another procedure. -/
def bind : Procedure ε α → (α → Procedure ε β) → Procedure ε β
  | .done value, next => next value
  | .fail fault, _ => .fail fault
  | .ask q more, next => .ask q fun answer => (more answer).bind next

instance : Monad (Procedure ε) where
  pure := .done
  bind := .bind

@[simp] theorem ask_bind (q : Question) (more : q.Answer → Procedure ε α)
    (next : α → Procedure ε β) :
    Procedure.ask q more >>= next = .ask q fun answer => more answer >>= next := rfl

theorem bind_done (p : Procedure ε α) : p >>= Procedure.done = p := by
  induction p with
  | done _ => rfl
  | fail _ => rfl
  | ask q more ih => exact congrArg (Procedure.ask q) (funext ih)

theorem bind_assoc {γ : Type} (p : Procedure ε α) (f : α → Procedure ε β) (g : β → Procedure ε γ) :
    p >>= f >>= g = p >>= fun value => f value >>= g := by
  induction p with
  | done _ => rfl
  | fail _ => rfl
  | ask q more ih => exact congrArg (Procedure.ask q) (funext ih)

instance : LawfulMonad (Procedure ε) := LawfulMonad.mk' _
  (fun p => bind_done p) (fun _ _ => rfl) (fun p f g => bind_assoc p f g)

/-- The procedure that ends with the fault as its value. -/
def attempt : Procedure ε α → Procedure ε' (Except ε α)
  | .done value => .done (.ok value)
  | .fail fault => .done (.error fault)
  | .ask q more => .ask q fun answer => (more answer).attempt

/-- Ends or breaks off as an `Except` does. -/
def ofExcept : Except ε α → Procedure ε α
  | .ok value => .done value
  | .error fault => .fail fault

/-- The same procedure with other faults. -/
def mapFault (f : ε → ε') : Procedure ε α → Procedure ε' α
  | .done value => .done value
  | .fail fault => .fail (f fault)
  | .ask q more => .ask q fun answer => (more answer).mapFault f

/-- Does something last, however the procedure ends. -/
def ensuring (p : Procedure ε α) (last : Procedure ε Unit) : Procedure ε α := do
  let result ← p.attempt
  last
  ofExcept result

/-- Asks one question. -/
def question (q : Question) : Procedure ε q.Answer := .ask q .done

/-- Logs records in their order. -/
def logs : List LogRecord → Procedure ε Unit
  | [] => .done ()
  | record :: rest => .ask (.log record) fun _ => logs rest

/-- Acts on the roster. -/
def act (a : Roster.Action) : Procedure ε a.Reply := .ask (.act a) .done

/-- Runs the procedure in a monad that answers its questions. -/
def run {m : Type → Type} [Monad m] (answer : (q : Question) → m q.Answer) :
    Procedure ε α → m (Except ε α)
  | .done value => pure (.ok value)
  | .fail fault => pure (.error fault)
  | .ask q more => do
    let a ← answer q
    (more a).run answer

end Procedure

end ContainerLaunch.Launch
