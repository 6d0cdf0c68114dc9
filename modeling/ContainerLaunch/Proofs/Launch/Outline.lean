import ContainerLaunch.Proofs.Launch.Assurance
/-!
# The outline of a launch

What is left of a launch when its log, its watcher and the roster are dropped: the liveness question, the
calls of the helper and the report. In discreet surroundings a launch assures whatever its outline
assures (`assures_launchPlan`), so that a law about calls and reports is proved of the outline.
-/

namespace ContainerLaunch.Launch

open Cleanup
open Procedure

/-! ## Outlines -/

namespace Outline

/-- Calls the helper, without a word to the log. -/
def call (o : Helper.Order) : Procedure Failure Helper.Result := do
  let r ← ofExcept (← question (.invoke o))
  return o.settle r

/-- Starts and removes, whether there is a watcher or not. -/
def startAndRemove (order : Helper.Task → Helper.Order) :
    Procedure Failure (Helper.Result × Helper.Result) := do
  let started ← call (order .start)
  let removed ← call (order .remove)
  return (started, removed)

/-- Creates, starts and removes, whether there is a watcher or not. -/
def createStartRemove (order : Helper.Task → Helper.Order) : Procedure Failure Helper.Result := do
  let created ← call (order .create)
  if !created.succeeded then return created
  let (started, removed) ← startAndRemove order
  return deciding started removed

/-- A launch that has its work done by `work`. -/
def launchPlan (containerId : String) (work : Procedure Failure Helper.Result) :
    Procedure Failure Outcome := do
  let active : Bool ← ofExcept (← question (.isActive containerId))
  if !active then return Pipeline.inactiveOutcome
  let result ← work
  let outcome := (result.classify containerId).1
  Pipeline.report containerId outcome
  return outcome

end Outline

section Quiet
variable {σ ε : Type} {out : Surroundings σ}

theorem quiet_logs (ho : out.Discreet) (records : List LogRecord) :
    Quiet out (logs records : Procedure ε Unit) := by
  induction records with
  | nil => exact quiet_done ()
  | cons record records ih => exact Quiet.ask fun _ _ _ ha => ⟨ho.log ha, ih⟩

theorem quiet_act (ho : out.Discreet) (a : Roster.Action) : Quiet out (act a : Procedure ε a.Reply) :=
  Quiet.ask fun _ reply _ ha => ⟨ho.act ha, quiet_done reply⟩

namespace Watch

theorem quiet_register (ho : out.Discreet) (t : Ticket) : Quiet out (register t : Procedure ε Unit) := by
  refine (quiet_act ho _).andThen fun displaced? => ?_
  cases displaced? with
  | none => exact quiet_done ()
  | some displaced => exact quiet_act ho _

theorem quiet_listen (ho : out.Discreet) (t : Ticket) (containerId : String) : Quiet out (listen t containerId) := by
  refine Quiet.ask fun _ answer _ ha => ?_
  obtain ⟨rfl, rfl⟩ := ho.spawn ha
  exact ⟨rfl, quiet_act ho _⟩

theorem quiet_begin (ho : out.Discreet) (containerId : String) (source : Source) :
    Quiet out (begin containerId source) :=
  (quiet_act ho _).andThen fun t => (quiet_register ho t).andThen fun _ =>
    (quiet_listen ho t containerId).andThen fun _ => quiet_done t

/-- A launch goes on without a watcher if it gets none. -/
theorem quiet_subscribe (ho : out.Discreet) (origin : Origin) (url : String) (removal : Helper.Order) :
    Quiet out (subscribe origin url removal) := by
  unfold subscribe
  dsimp only
  split
  · exact quiet_done none
  · split
    · exact (quiet_logs ho _).andThen fun _ => quiet_done none
    · refine Quiet.ask fun _ answer _ ha => ⟨(ho.subscribe ha).1, ?_⟩
      cases answer with
      | ok source => exact (quiet_begin ho _ source).andThen fun t => quiet_done (some t)
      | error f =>
        have hf : f.isOrdinary := (ho.subscribe ha).2 f rfl
        show Quiet out (if f.isOrdinary then _ else _)
        rw [if_pos hf]
        exact (quiet_logs ho _).andThen fun _ => quiet_done none

theorem quiet_markRemoved (ho : out.Discreet) (watcher : Option Ticket) :
    Quiet out (markRemoved watcher : Procedure ε Unit) := by
  cases watcher with
  | none => exact quiet_done ()
  | some t => exact quiet_act ho _

theorem quiet_release (ho : out.Discreet) (containerId : String) (watcher : Option Ticket) :
    Quiet out (release containerId watcher : Procedure ε Unit) := by
  cases watcher with
  | none => exact quiet_done ()
  | some t => exact (quiet_act ho _).andThen fun _ => quiet_act ho _

end Watch

end Quiet

/-! ## What they are outlines of -/

section Outlined
variable {σ : Type} {out : Surroundings σ}

theorem outlinedBy_carryOut (ho : out.Discreet) (o : Helper.Order) :
    OutlinedBy out (carryOut o) (Outline.call o) := by
  refine .quiet (quiet_logs ho _) fun _ => ?_
  refine .bind (.refl (question _)) fun answer => .bind (.refl (ofExcept answer)) fun r => ?_
  exact .quiet (quiet_logs ho _) fun _ => .refl _

theorem outlinedBy_startAndRemove (ho : out.Discreet) (order : Helper.Task → Helper.Order)
    (watcher : Option Ticket) :
    OutlinedBy out (startAndRemove order watcher) (Outline.startAndRemove order) := by
  refine .bind (outlinedBy_carryOut ho _) fun started => ?_
  refine .bind (outlinedBy_carryOut ho _) fun removed => ?_
  by_cases hr : removed.succeeded
  · simp only [hr, if_true]
    exact .quiet (Watch.quiet_markRemoved ho watcher) fun _ => .refl _
  · simp only [hr]
    exact .refl _

theorem outlinedBy_createStartRemove (ho : out.Discreet) (origin : Watch.Origin)
    (url containerId : String) (order : Helper.Task → Helper.Order) :
    OutlinedBy out (createStartRemove origin url containerId order) (Outline.createStartRemove order) := by
  refine .bind (outlinedBy_carryOut ho _) fun created => ?_
  by_cases hc : created.succeeded
  · simp only [hc]
    refine .quiet (quiet_logs ho _) fun _ => .quiet (Watch.quiet_subscribe ho _ _ _) fun watcher => ?_
    refine .bind (.ensuring (outlinedBy_startAndRemove ho order watcher) ?_) fun results => ?_
    · exact Watch.quiet_release ho containerId watcher
    · exact .quiet (quiet_logs ho _) fun _ => .refl _
  · simp only [hc]
    exact .refl _

theorem outlinedBy_work (ho : out.Discreet) (client : Client) (origin : Watch.Origin) (helperPath : String)
    (r : Request) (plan : Plan) :
    OutlinedBy out (Pipeline.work ⟨client, .createStart, origin⟩ helperPath r plan)
      (Outline.createStartRemove fun task => Helper.order ⟨helperPath, client⟩ task r plan) := by
  unfold Pipeline.work
  exact outlinedBy_createStartRemove ho origin plan.dockerUrl r.containerId _

theorem outlinedBy_launchPlan (ho : out.Discreet) {p : Pipeline} {helperPath : String} {r : Request}
    {plan : Plan} {work : Procedure Failure Helper.Result}
    (hw : OutlinedBy out (p.work helperPath r plan) work) :
    OutlinedBy out (p.launchPlan helperPath r plan) (Outline.launchPlan r.containerId work) := by
  refine .bind (.refl (question _)) fun answer => .bind (.refl (ofExcept answer)) fun active => ?_
  cases active with
  | false => exact .quiet (quiet_logs ho _) fun _ => .refl _
  | true =>
    refine .bind hw fun result => ?_
    exact .quiet (quiet_logs ho _) fun _ => .refl _

end Outlined

end ContainerLaunch.Launch
