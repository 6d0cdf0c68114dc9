import ContainerLaunch.Proofs.Helper.Child
import ContainerLaunch.Proofs.Launch.Conversation
import ContainerLaunch.Proofs.Launch.Law
/-!
# The children of a launch

A launch without notices, each of whose orders runs as a child of its own. What the children are like may depend on
all that was said before, and so may everything else that the launch is told.

A run is taken apart twice. `run_attend`: what happens to the children is one life after the other, and each
order comes to what its child comes to. `comes_of_goes`: given what the orders come to, the launch goes by the rules
of its strategy. `launch_leaves_children_in_order` puts the two together.
-/

namespace ContainerLaunch.Launch

open Cleanup
open Helper (ChildScript ChildStep Order Result Task)
open Procedure

/-! ## What happens to children -/

/-- One is to be spawned, or something is done with the one before. -/
inductive ChildEvent where
  | spawn (order : Order) (child : ChildScript)
  | step (s : ChildStep)

namespace ChildEvent

/-- What is done with a child before the next one is to be spawned. -/
def life : List ChildEvent → List ChildStep
  | .step s :: rest => s :: life rest
  | _ => []

/-- A call, with what it comes to. -/
def call? : ChildEvent → Option (Task × Except Failure Result)
  | .spawn order child => some (order.task, child.comesTo)
  | .step _ => none

/-- The life of one child: it is started, and then goes through its steps. -/
def ofCall (call : Order × ChildScript) : List ChildEvent :=
  .spawn call.1 call.2 :: (call.1.call.run call.2).steps.map .step

theorem life_append (steps : List ChildStep) (calls : List (Order × ChildScript)) :
    life (steps.map .step ++ calls.flatMap ofCall) = steps := by
  induction steps with
  | nil => cases calls <;> rfl
  | cons s steps ih => exact congrArg (s :: ·) ih

theorem calls_eq (calls : List (Order × ChildScript)) :
    (calls.flatMap ofCall).filterMap call? = calls.map fun c => (c.1.task, c.2.comesTo) := by
  induction calls with
  | nil => rfl
  | cons c calls ih =>
    have hsteps : ((c.1.call.run c.2).steps.map ChildEvent.step).filterMap call? = [] := by
      rw [List.filterMap_eq_nil_iff]
      intro e he
      obtain ⟨s, -, rfl⟩ := List.mem_map.1 he
      rfl
    rw [List.flatMap_cons, List.filterMap_append, ih, List.map_cons]
    exact congrArg ((c.1.task, c.2.comesTo) :: ·) (congrArg (· ++ _) hsteps)

/-- Where a child is to be spawned, a call begins. -/
theorem exists_later {calls : List (Order × ChildScript)} {before after : List ChildEvent} {order : Order}
    {child : ChildScript} (h : calls.flatMap ofCall = before ++ .spawn order child :: after) :
    ∃ earlier later, calls = earlier ++ (order, child) :: later ∧
      after = (order.call.run child).steps.map .step ++ later.flatMap ofCall := by
  induction calls generalizing before with
  | nil =>
    rw [List.flatMap_nil] at h
    cases List.append_eq_nil_iff.1 h.symm |>.2
  | cons c calls ih =>
    rw [List.flatMap_cons] at h
    cases before with
    | nil =>
      obtain ⟨hc, rfl⟩ := List.cons.inj h
      obtain ⟨rfl, rfl⟩ := ChildEvent.spawn.inj hc
      exact ⟨[], calls, rfl, rfl⟩
    | cons e before =>
      have hrest := (List.cons.inj h).2
      -- The spawning cannot be one of the steps, so that it comes after all of them.
      have hcalls : ∃ before, calls.flatMap ofCall = before ++ .spawn order child :: after := by
        obtain ⟨more, -, hmore⟩ | ⟨more, hsteps, hmore⟩ := List.append_eq_append_iff.1 hrest
        · exact ⟨more, hmore⟩
        · cases more with
          | nil => exact ⟨[], hmore.symm⟩
          | cons e' more =>
            obtain ⟨rfl, -⟩ := List.cons.inj hmore
            have hmem : ChildEvent.spawn order child ∈ (c.1.call.run c.2).steps.map .step := by
              rw [hsteps]
              exact List.mem_append_right _ List.mem_cons_self
            obtain ⟨s, -, hs⟩ := List.mem_map.1 hmem
            cases hs
      obtain ⟨before, hcalls⟩ := hcalls
      obtain ⟨earlier, later, rfl, hafter⟩ := ih hcalls
      exact ⟨c :: earlier, later, rfl, hafter⟩

end ChildEvent

/-! ## Running orders as children -/

/-- What was said, and what happened to children. -/
structure Attendance where
  said : List Exchange := []
  events : List ChildEvent := []

/-- One exchange more, and what happened meanwhile. -/
def Attendance.add (w : Attendance) (x : Exchange) (events : List ChildEvent) : Attendance where
  said := w.said ++ [x]
  events := w.events ++ events

/-- Runs orders as children, and leaves every other question to the oracle. -/
def Oracle.attend (o : Oracle) (children : List Exchange → Order → ChildScript) :
    (q : Question) → StateM Attendance q.Answer
  | .invoke order => do
    let w ← get
    let child := children w.said order
    let run := order.call.run child
    set (w.add ⟨.invoke order, run.result⟩ (.spawn order child :: run.steps.map .step))
    return run.result
  | q => do
    let w ← get
    set (w.add ⟨q, o w.said q⟩ [])
    return o w.said q

/-- A call of the helper, with what it comes to. -/
def Exchange.call? : Exchange → Option (Task × Except Failure Result)
  | ⟨.invoke order, answer⟩ => some (order.task, answer)
  | _ => none

/-- The calls of the helper in what was said, and what each came to. -/
def callsIn (talk : List Exchange) : List (Task × Except Failure Result) := talk.filterMap Exchange.call?

theorem callsIn_append (talk talk' : List Exchange) : callsIn (talk ++ talk') = callsIn talk ++ callsIn talk' :=
  List.filterMap_append ..

theorem run_attend_question (o : Oracle) (children : List Exchange → Order → ChildScript) (q : Question)
    (w : Attendance) :
    ∃ answer, ∃ calls : List (Order × ChildScript),
      (o.attend children q).run w = (answer, w.add ⟨q, answer⟩ (calls.flatMap ChildEvent.ofCall)) ∧
        callsIn [⟨q, answer⟩] = calls.map fun c => (c.1.task, c.2.comesTo) := by
  cases q with
  | invoke order =>
    refine ⟨(order.call.run (children w.said order)).result, [(order, children w.said order)], ?_, ?_⟩
    · rw [List.flatMap_singleton]
      rfl
    · exact congrArg (fun e => [(order.task, e)]) (order.call.result_run _)
  | _ => exact ⟨_, [], rfl, rfl⟩

namespace Procedure
variable {ε α : Type}

theorem run_attend (o : Oracle) (children : List Exchange → Order → ChildScript) (p : Procedure ε α)
    (w : Attendance) :
    ∃ result talk, ∃ calls : List (Order × ChildScript), (p.run (o.attend children)).run w =
        (result, { said := w.said ++ talk, events := w.events ++ calls.flatMap ChildEvent.ofCall }) ∧
      p.Goes talk result ∧ callsIn talk = calls.map fun c => (c.1.task, c.2.comesTo) := by
  induction p generalizing w with
  | done value =>
    refine ⟨_, [], [], ?_, .done value, rfl⟩
    rw [List.flatMap_nil, List.append_nil, List.append_nil]
    rfl
  | fail fault =>
    refine ⟨_, [], [], ?_, .fail fault, rfl⟩
    rw [List.flatMap_nil, List.append_nil, List.append_nil]
    rfl
  | ask q next ih =>
    obtain ⟨answer, first, hfirst, hcall⟩ := run_attend_question o children q w
    obtain ⟨result, talk, calls, hrun, hgoes, hcalls⟩ :=
      ih answer (w.add ⟨q, answer⟩ (first.flatMap ChildEvent.ofCall))
    refine ⟨result, ⟨q, answer⟩ :: talk, first ++ calls, ?_, .ask hgoes, ?_⟩
    · rw [List.append_cons, List.flatMap_append, ← List.append_assoc]
      simp only [run, StateT.run_bind, hfirst]
      exact hrun
    · rw [List.map_append, ← hcall, ← hcalls]
      exact callsIn_append [⟨q, answer⟩] talk

theorem ensuring_pure (p : Procedure ε α) : p.ensuring (pure ()) = p := by
  induction p with
  | done value => rfl
  | fail fault => rfl
  | ask q next ih => exact congrArg (Procedure.ask q) (funext ih)

end Procedure

/-! ## The rules of the strategies -/

/-- The calls that a strategy makes, given what each comes to, and what the work comes to. A call that breaks is
the last. Otherwise a container that was created is started and removed, and a removal that failed tells more than
a start that went well. -/
inductive Strategy.Works : Strategy → List (Task × Except Failure Result) → Except Failure Result → Prop where
  | run (e) : Works .run [(.run, e)] e
  | createBroke (f) : Works .createStart [(.create, .error f)] (.error f)
  | notCreated {c : Result} (h : ¬ c.Succeeds) : Works .createStart [(.create, .ok c)] (.ok c)
  | startBroke {c : Result} (h : c.Succeeds) (f) :
      Works .createStart [(.create, .ok c), (.start, .error f)] (.error f)
  | removeBroke {c : Result} (h : c.Succeeds) (started f) :
      Works .createStart [(.create, .ok c), (.start, .ok started), (.remove, .error f)] (.error f)
  | done {c : Result} (h : c.Succeeds) (started removed : Result) :
      Works .createStart [(.create, .ok c), (.start, .ok started), (.remove, .ok removed)]
        (.ok (if started.Succeeds ∧ ¬ removed.counted.Succeeds then removed.counted else started))

/-- What a launch comes to, given what was said and what its calls came to. -/
inductive Comes (strategy : Strategy) (s : Settings) (r : Request) (said : List Exchange)
    (calls : List (Task × Except Failure Result)) : Except LaunchError Outcome → Prop where
  | refused {e} (h : Plan.resolve r s.dockerUrl = .error e) (hcalls : calls = []) :
      Comes strategy s r said calls (.error (.image e))
  | unsaid {f} (h : ⟨.isActive r.containerId, .error f⟩ ∈ said) (hcalls : calls = []) :
      Comes strategy s r said calls (.error (.failure f))
  | unwanted (h : ⟨.isActive r.containerId, .ok false⟩ ∈ said) (hcalls : calls = []) :
      Comes strategy s r said calls (.ok { exitCode := 143, exitClass := .alreadyInactive, diagnostics := none })
  | broken {f} (h : strategy.Works calls (.error f)) : Comes strategy s r said calls (.error (.failure f))
  | worked {result} (h : strategy.Works calls (.ok result)) :
      Comes strategy s r said calls (.ok (result.verdict r.containerId))
  | unreported {result f message} (h : strategy.Works calls (.ok result))
      (hreport : ⟨.report r.containerId message, .error f⟩ ∈ said) :
      Comes strategy s r said calls (.error (.failure f))

namespace Strategy.Works
variable {strategy : Strategy} {calls earlier later : List (Task × Except Failure Result)} {task : Task}
  {e : Except Failure Result} {f : Failure}

theorem ok_of_mem_dropLast (h : strategy.Works calls e) : (task, .error f) ∉ calls.dropLast := by
  cases h <;> simp

theorem eq_error_of_getLast? (h : strategy.Works calls e) (hlast : calls.getLast? = some (task, .error f)) :
    e = .error f := by
  cases h <;> simp_all

theorem eq_error (h : strategy.Works (earlier ++ (task, .error f) :: later) e) : later = [] ∧ e = .error f := by
  cases later with
  | nil => exact ⟨rfl, h.eq_error_of_getLast? List.getLast?_concat⟩
  | cons call later =>
    have hmem : (task, .error f) ∈ (earlier ++ (task, .error f) :: call :: later).dropLast := by
      rw [List.dropLast_append_of_ne_nil (List.cons_ne_nil _ _)]
      exact List.mem_append_right _ List.mem_cons_self
    exact (h.ok_of_mem_dropLast hmem).elim

end Strategy.Works

theorem Comes.mono {strategy : Strategy} {s : Settings} {r : Request} {said said' : List Exchange}
    {calls : List (Task × Except Failure Result)} {result : Except LaunchError Outcome}
    (h : Comes strategy s r said calls result) (hsaid : said ⊆ said') : Comes strategy s r said' calls result := by
  cases h with
  | refused h hcalls => exact .refused h hcalls
  | unsaid h hcalls => exact .unsaid (hsaid h) hcalls
  | unwanted h hcalls => exact .unwanted (hsaid h) hcalls
  | broken h => exact .broken h
  | worked h => exact .worked h
  | unreported h hreport => exact .unreported h (hsaid hreport)

/-! ## How a launch goes -/

section Goes
variable {ε α β : Type} {talk : List Exchange}

theorem callsIn_of_asks {p : Procedure ε α} {result : Except ε α}
    (hp : p.Asks fun q => ∀ order, q ≠ .invoke order) (h : p.Goes talk result) : callsIn talk = [] := by
  refine List.filterMap_eq_nil_iff.2 fun x hx => ?_
  have hq := hp.of_goes h x hx
  obtain ⟨q, answer⟩ := x
  cases q with
  | invoke order => exact (hq order rfl).elim
  | _ => rfl

theorem goes_logs_bind {records : List LogRecord} {next : Unit → Procedure ε β} {result : Except ε β}
    (h : (logs records >>= next).Goes talk result) :
    ∃ first rest, talk = first ++ rest ∧ callsIn first = [] ∧ (next ()).Goes rest result := by
  obtain ⟨_, first, rest, htalk, hfirst, hnext⟩ | ⟨_, -, hfault⟩ := goes_bind.1 h
  · exact ⟨first, rest, htalk, callsIn_of_asks (asks_logs (fun _ _ => nofun) records) hfirst, hnext⟩
  · cases ok_of_goes_logs hfault

theorem goes_question_bind {q : Question} {next : q.Answer → Procedure ε β} {result : Except ε β}
    (h : (question q >>= next).Goes talk result) :
    ∃ answer rest, talk = ⟨q, answer⟩ :: rest ∧ (next answer).Goes rest result := goes_ask.1 h

theorem goes_ofExcept_bind {e : Except ε α} {next : α → Procedure ε β} {result : Except ε β}
    (h : (ofExcept e >>= next).Goes talk result) :
    (∃ value, e = .ok value ∧ (next value).Goes talk result) ∨
      ∃ fault, e = .error fault ∧ talk = [] ∧ result = .error fault := by
  cases e with
  | ok value => exact .inl ⟨value, rfl, h⟩
  | error fault => exact .inr ⟨fault, rfl, goes_fail.1 h⟩

theorem goes_carryOut {order : Order} {e : Except Failure Result} (h : (carryOut order).Goes talk e) :
    ∃ answer, callsIn talk = [(order.task, answer)] ∧ e = answer.map order.settle := by
  obtain ⟨first, rest, rfl, hfirst, hcall⟩ := goes_logs_bind h
  obtain ⟨answer, rest, rfl, hanswer⟩ := goes_question_bind hcall
  refine ⟨answer, ?_⟩
  rw [callsIn_append, hfirst]
  obtain ⟨result, rfl, hresult⟩ | ⟨f, rfl, rfl, rfl⟩ := goes_ofExcept_bind hanswer
  · obtain ⟨second, rest, rfl, hsecond, hend⟩ := goes_logs_bind hresult
    obtain ⟨rfl, rfl⟩ := goes_done.1 hend
    rw [List.append_nil]
    exact ⟨congrArg ((order.task, Except.ok result) :: ·) hsecond, rfl⟩
  · exact ⟨rfl, rfl⟩

/-- A call that is followed by something else: its result goes on, or it breaks. -/
theorem goes_carryOut_bind {order : Order} {next : Result → Procedure Failure β} {result : Except Failure β}
    (h : (carryOut order >>= next).Goes talk result) :
    (∃ value rest, callsIn talk = (order.task, .ok value) :: callsIn rest ∧
      (next (order.settle value)).Goes rest result) ∨
      ∃ f, callsIn talk = [(order.task, .error f)] ∧ result = .error f := by
  obtain ⟨_, first, rest, rfl, hfirst, hnext⟩ | ⟨f, rfl, hfault⟩ := goes_bind.1 h
  · obtain ⟨answer, hcall, hanswer⟩ := goes_carryOut hfirst
    cases answer with
    | error f => cases hanswer
    | ok value =>
      cases hanswer
      refine .inl ⟨value, rest, ?_, hnext⟩
      rw [callsIn_append, hcall]
      rfl
  · obtain ⟨answer, hcall, hanswer⟩ := goes_carryOut hfault
    cases answer with
    | ok value => cases hanswer
    | error f =>
      cases hanswer
      exact .inr ⟨f, hcall, rfl⟩

end Goes

section Launch
variable {talk : List Exchange} {client : Client} {strategy : Strategy} {helperPath : String} {s : Settings}
  {r : Request} {plan : Plan}

/-- Without a watcher the container is started and removed, and that is all. -/
theorem createStartRemove_nowhere (url containerId : String) (order : Task → Order) :
    createStartRemove .nowhere url containerId order = (do
      let created ← carryOut (order .create)
      if !created.succeeded then return created
      logs (createdLog containerId created)
      let started ← carryOut (order .start)
      let removed ← carryOut (order .remove)
      logs (leftBehindLog containerId removed)
      return deciding started removed) := by
  have hunwatched : startAndRemove order none = (do
      let started ← carryOut (order .start)
      let removed ← carryOut (order .remove)
      return (started, removed)) := by
    unfold startAndRemove
    simp only [Watch.markRemoved, pure_bind, ite_self]
  unfold createStartRemove
  simp only [Watch.subscribe, if_true, pure_bind, Watch.release, ensuring_pure, hunwatched, bind_assoc]

theorem works_of_created {setup : Helper.Setup} {created : Result} {e : Except Failure Result} (hc : created.Succeeds)
    (h : (do
      let started ← carryOut (Helper.order setup .start r plan)
      let removed ← carryOut (Helper.order setup .remove r plan)
      logs (leftBehindLog r.containerId removed)
      return deciding started removed : Procedure Failure Result).Goes talk e) :
    Strategy.createStart.Works ((.create, .ok created) :: callsIn talk) e := by
  obtain ⟨started, rest, hstart, hstarted⟩ | ⟨f, hstart, rfl⟩ := goes_carryOut_bind h
  · rw [hstart]
    obtain ⟨removed, rest, hremove, hremoved⟩ | ⟨f, hremove, rfl⟩ := goes_carryOut_bind hstarted
    · obtain ⟨last, rest, rfl, hlast, hend⟩ := goes_logs_bind hremoved
      obtain ⟨rfl, rfl⟩ := goes_done.1 hend
      rw [hremove, List.append_nil, hlast]
      have hdecides : deciding started removed.settleRemoval =
          if started.Succeeds ∧ ¬ removed.counted.Succeeds then removed.counted else started := by
        rw [deciding_eq, Result.settleRemoval_eq_counted]
        by_cases hs : started.Succeeds <;> by_cases hr : removed.counted.Succeeds <;> simp [hs, hr]
      exact hdecides ▸ .done hc started removed
    · rw [hremove]
      exact .removeBroke hc started f
  · rw [hstart]
    exact .startBroke hc f

theorem works_of_goes {e : Except Failure Result}
    (h : (Pipeline.work ⟨client, strategy, .nowhere⟩ helperPath r plan).Goes talk e) :
    strategy.Works (callsIn talk) e := by
  cases strategy with
  | run =>
    obtain ⟨answer, hcalls, rfl⟩ := goes_carryOut h
    rw [hcalls]
    cases answer <;> exact .run _
  | createStart =>
    unfold Pipeline.work at h
    dsimp only at h
    rw [createStartRemove_nowhere] at h
    obtain ⟨created, rest, hcreate, hcreated⟩ | ⟨f, hcreate, rfl⟩ := goes_carryOut_bind h
    · rw [hcreate]
      change (if !created.succeeded then _ else _ : Procedure Failure Result).Goes rest e at hcreated
      by_cases hc : created.Succeeds
      · rw [(Result.succeeded_iff _).2 hc] at hcreated
        obtain ⟨first, rest, rfl, hfirst, hstart⟩ := goes_logs_bind hcreated
        rw [callsIn_append, hfirst]
        exact works_of_created hc hstart
      · rw [Bool.eq_false_iff.2 (mt (Result.succeeded_iff _).1 hc)] at hcreated
        obtain ⟨rfl, rfl⟩ := goes_done.1 hcreated
        exact .notCreated hc
    · rw [hcreate]
      exact .createBroke f

theorem goes_report {containerId : String} {outcome : Outcome} {result : Except Failure Unit}
    (h : (Pipeline.report containerId outcome).Goes talk result) :
    callsIn talk = [] ∧
      ∀ f, result = .error f → ∃ message, ⟨.report containerId message, .error f⟩ ∈ talk := by
  refine ⟨callsIn_of_asks (asks_report (fun _ _ => nofun) outcome) h, ?_⟩
  rintro f rfl
  unfold Pipeline.report at h
  split at h
  · cases h
  · next message _ =>
    obtain ⟨answer, rest, rfl, hanswer⟩ := goes_question_bind h
    obtain ⟨rfl, rfl⟩ := goes_ofExcept.1 hanswer
    exact ⟨message, List.mem_cons_self⟩

theorem comes_of_goes_launchPlan {result : Except Failure Outcome}
    (h : (Pipeline.launchPlan ⟨client, strategy, .nowhere⟩ helperPath r plan).Goes talk result) :
    Comes strategy s r talk (callsIn talk) (result.mapError .failure) := by
  obtain ⟨active, rest, rfl, hactive⟩ := goes_question_bind h
  show Comes strategy s r _ (callsIn rest) _
  obtain ⟨active, rfl, hgo⟩ | ⟨f, rfl, rfl, rfl⟩ := goes_ofExcept_bind hactive
  · cases active with
    | false =>
      obtain ⟨first, rest, rfl, hfirst, hend⟩ := goes_logs_bind hgo
      obtain ⟨rfl, rfl⟩ := goes_done.1 hend
      rw [List.append_nil]
      exact .unwanted List.mem_cons_self hfirst
    | true =>
      obtain ⟨worked, first, rest, rfl, hwork, hworked⟩ | ⟨f, rfl, hwork⟩ := goes_bind.1 hgo
      · have hclassified : (logs (worked.classify r.containerId).2 >>= fun _ =>
            Pipeline.report r.containerId (worked.classify r.containerId).1 >>= fun _ =>
              Procedure.done (worked.classify r.containerId).1).Goes rest result := hworked
        obtain ⟨second, rest, rfl, hsecond, hsaid⟩ := goes_logs_bind hclassified
        have hworks := works_of_goes hwork
        rw [callsIn_append, callsIn_append, hsecond, List.nil_append]
        rw [Result.classify_eq_verdict] at hsaid
        obtain ⟨_, third, rest, rfl, hreport, hend⟩ | ⟨f, rfl, hreport⟩ := goes_bind.1 hsaid
        · obtain ⟨rfl, rfl⟩ := goes_done.1 hend
          rw [List.append_nil, (goes_report hreport).1, List.append_nil]
          exact .worked hworks
        · obtain ⟨message, hmessage⟩ := (goes_report hreport).2 f rfl
          rw [(goes_report hreport).1, List.append_nil]
          exact .unreported hworks
            (List.mem_cons_of_mem _ (List.mem_append_right _ (List.mem_append_right _ hmessage)))
      · exact .broken (works_of_goes hwork)
  · exact .unsaid List.mem_cons_self rfl

theorem comes_of_goes {result : Except LaunchError Outcome}
    (h : (Pipeline.launch ⟨client, strategy, .nowhere⟩ s r).Goes talk result) :
    Comes strategy s r talk (callsIn talk) result := by
  obtain ⟨first, rest, rfl, hfirst, hplan⟩ := goes_logs_bind h
  rw [callsIn_append, hfirst, List.nil_append]
  obtain ⟨plan, -, hgo⟩ | ⟨e, he, rfl, rfl⟩ := goes_ofExcept_bind hplan
  · obtain ⟨result, rfl, hlaunched⟩ := goes_mapFault.1 hgo
    exact (comes_of_goes_launchPlan hlaunched).mono fun x hx => List.mem_append_right _ hx
  · cases hresolve : Plan.resolve r s.dockerUrl with
    | ok plan => rw [hresolve] at he; cases he
    | error i =>
      rw [hresolve] at he
      cases he
      exact .refused hresolve rfl

end Launch

theorem Comes.of_broken {strategy : Strategy} {s : Settings} {r : Request} {said : List Exchange}
    {earlier later : List (Task × Except Failure Result)} {task : Task} {f : Failure}
    {result : Except LaunchError Outcome}
    (h : Comes strategy s r said (earlier ++ (task, .error f) :: later) result) :
    later = [] ∧ result = .error (.failure f) := by
  have hcalls : earlier ++ (task, Except.error f) :: later ≠ [] := by simp
  cases h with
  | refused _ h => exact (hcalls h).elim
  | unsaid _ h => exact (hcalls h).elim
  | unwanted _ h => exact (hcalls h).elim
  | broken h =>
    obtain ⟨hlater, he⟩ := h.eq_error
    cases he
    exact ⟨hlater, rfl⟩
  | worked h => cases h.eq_error.2
  | unreported h _ => cases h.eq_error.2

/-- A launch without notices. Each child is left in order before the next one is to be spawned. What breaks a call
is what the launch ends with, and that call is the last. Otherwise the launch goes by the rules of its strategy. -/
theorem launch_leaves_children_in_order (o : Oracle) (children : List Exchange → Order → ChildScript)
    (client : Client) (strategy : Strategy) (s : Settings) (r : Request) :
    let (result, w) := ((Pipeline.launch ⟨client, strategy, .nowhere⟩ s r).run (o.attend children)).run {}
    (∀ before order child after, w.events = before ++ .spawn order child :: after →
      child.LeftInOrder (ChildEvent.life after) ∧
        ∀ f, child.comesTo = .error f →
          result = .error (.failure f) ∧ ∀ order' child', .spawn order' child' ∉ after) ∧
    Comes strategy s r w.said (w.events.filterMap ChildEvent.call?) result := by
  obtain ⟨result, talk, calls, hrun, hgoes, hcalls⟩ :=
    run_attend o children (Pipeline.launch ⟨client, strategy, .nowhere⟩ s r) {}
  rw [hrun]
  have hcomes := comes_of_goes hgoes
  rw [hcalls] at hcomes
  simp only [List.nil_append]
  refine ⟨fun before order child after h => ?_, ?_⟩
  · obtain ⟨earlier, later, rfl, rfl⟩ := ChildEvent.exists_later h
    rw [ChildEvent.life_append]
    refine ⟨order.call.leftInOrder_run child, fun f hf => ?_⟩
    rw [List.map_append, List.map_cons, hf] at hcomes
    obtain ⟨hlater, hresult⟩ := hcomes.of_broken
    rw [List.map_eq_nil_iff] at hlater
    subst hlater
    refine ⟨hresult, fun order' child' hmem => ?_⟩
    simp at hmem
  · rw [ChildEvent.calls_eq]
    exact hcomes

end ContainerLaunch.Launch
