import ContainerLaunch.Proofs.Launch.Conversation
import ContainerLaunch.Proofs.Launch.Law
/-!
# Both strategies come to the same

A container that is run in one call goes through the same as one that is created, started and removed, as far as
the helper does its part: the single call answers what the last call before the removal answers, and the removal
finds nothing to complain of. Then the framework is asked the same, and both launches end with the same outcome or
break off with the same error (`seen_launch_eq`).

The calls of the helper drop out of either launch, as its log and its watcher do, and leave the same procedure,
which asks the framework alone (`outlinedBy_launch`). Such a procedure has only one course
(`exists_assures_of_asks`).
-/

namespace ContainerLaunch.Launch

open Cleanup
open Helper (Task Result Setup)
open Procedure

/-- The framework that a launch is done for: whether it still wants a container, and what it says to a report. -/
structure Framework where
  active : (containerId : String) → Except Failure Bool
  report : (containerId message : String) → Except Failure Unit

/-- Whether a question goes to the framework. -/
def Question.isForFramework : Question → Bool
  | .isActive _ | .report .. => true
  | _ => false

/-- How a procedure ends that an oracle answers, and what it asks the framework. -/
def Oracle.seen {ε α : Type} (o : Oracle) (p : Procedure ε α) : Except ε α × List Question :=
  let (result, talk) := (p.run o.answer).run []
  (result, (talk.map (·.question)).filter Question.isForFramework)

namespace Framework

/-- What may be answered to a question. The log, the roster and the source of notices may say whatever they like,
but no interrupt hits a launch while it subscribes, and there is a thread for its listener. -/
def Allows (f : Framework) (results : Task → Result) : (q : Question) → q.Answer → Prop
  | .isActive containerId, a => a = f.active containerId
  | .report containerId message, a => a = f.report containerId message
  | .invoke o, a => a = .ok (results o.task)
  | .subscribe .., a => ∀ e, a = .error e → e.isOrdinary
  | .spawn _, a => a = .ok ()
  | _, _ => True

/-- The oracle speaks for the framework, and for a helper whose calls come to these results. -/
def AnswersIn (f : Framework) (results : Task → Result) (o : Oracle) : Prop :=
  ∀ past q, f.Allows results q (o past q)

/-- The framework and the helper answer as they may, and note what the framework is asked. -/
def surroundings (f : Framework) (results : Task → Result) : Surroundings (List Question) where
  drift := Eq
  answers := fun asked q a asked' =>
    f.Allows results q a ∧ asked' = asked ++ [q].filter Question.isForFramework
  refl := fun _ => rfl
  trans := Eq.trans

section Rules
variable {f : Framework} {results : Task → Result} {ε α : Type} {p : Procedure ε α}

theorem discreet_surroundings (f : Framework) (results : Task → Result) : (f.surroundings results).Discreet where
  log := fun ⟨_, h⟩ => h.trans (List.append_nil _)
  act := fun ⟨_, h⟩ => h.trans (List.append_nil _)
  subscribe := fun ⟨hf, h⟩ => ⟨h.trans (List.append_nil _), hf⟩
  spawn := fun ⟨hf, h⟩ => ⟨h.trans (List.append_nil _), hf⟩

theorem seen_of_assures {o : Oracle} {post : Except ε α → List Question → Prop} (ho : f.AnswersIn results o)
    (h : Assures (f.surroundings results) p post []) : post (o.seen p).1 (o.seen p).2 := by
  let view (talk : List Exchange) : List Question := (talk.map (·.question)).filter Question.isForFramework
  have hstep (past : List Exchange) (q : Question) : (f.surroundings results).answers (view past) q
      ((o.answer q).run past).1 (view ((o.answer q).run past).2) := by
    refine ⟨ho past q, ?_⟩
    show view (past ++ [⟨q, o past q⟩]) = _
    simp only [view, List.map_append, List.filter_append]
    rfl
  exact h.run view (s := []) hstep

/-- What asks the framework alone has one course. -/
theorem exists_assures_of_asks (f : Framework) (results : Task → Result)
    (hp : p.Asks fun q => q.isForFramework = true) (asked : List Question) :
    ∃ course, Assures (f.surroundings results) p (fun r asked' => (r, asked') = course) asked := by
  induction p generalizing asked with
  | done value => exact ⟨(.ok value, asked), fun _ h => h ▸ rfl⟩
  | fail fault => exact ⟨(.error fault, asked), fun _ h => h ▸ rfl⟩
  | ask q next ih =>
    have hask (a : q.Answer) (ha : ∀ b, f.Allows results q b → b = a) :
        ∃ course, Assures (f.surroundings results) (.ask q next) (fun r asked' => (r, asked') = course) asked := by
      obtain ⟨course, h⟩ := ih a (hp.2 a) (asked ++ [q].filter Question.isForFramework)
      refine ⟨course, ?_⟩
      rintro _ rfl b _ ⟨hb, rfl⟩
      exact ha b hb ▸ h
    cases q with
    | isActive containerId => exact hask (f.active containerId) fun _ hb => hb
    | report containerId message => exact hask (f.report containerId message) fun _ hb => hb
    | _ => cases hp.1

theorem seen_eq_of_outlinedBy {p' outline : Procedure ε α} {o o' : Oracle} (ho : f.AnswersIn results o)
    (ho' : f.AnswersIn results o') (h : OutlinedBy (f.surroundings results) p outline)
    (h' : OutlinedBy (f.surroundings results) p' outline) (ha : outline.Asks fun q => q.isForFramework = true) :
    o.seen p = o'.seen p' := by
  obtain ⟨course, hc⟩ := exists_assures_of_asks f results ha []
  exact (seen_of_assures ho (h _ _ hc)).trans (seen_of_assures ho' (h' _ _ hc)).symm

end Rules

end Framework

/-! ## The calls drop out -/

namespace Outline

/-- A launch whose work has come to a result. -/
def launch (s : Settings) (r : Request) (decided : Result) : Procedure LaunchError Outcome := do
  let _plan ← ofExcept ((Plan.resolve r s.dockerUrl).mapError .image)
  (launchPlan r.containerId (.done decided)).mapFault .failure

theorem asks_launch (s : Settings) (r : Request) (decided : Result) :
    (launch s r decided).Asks fun q => q.isForFramework = true := by
  refine (asks_ofExcept _).bind fun _ => Asks.mapFault ?_
  have hactive : (question (.isActive r.containerId) : Procedure Failure _).Asks fun q => q.isForFramework = true :=
    asks_question rfl
  refine hactive.bind fun answer => (asks_ofExcept answer).bind fun active => ?_
  cases active with
  | false => exact asks_done _
  | true => exact (asks_report (fun _ => rfl) _).bind fun _ => asks_done _

end Outline

/-- The removal has nothing to say, so that what came before it decides. -/
theorem decisive_of_removed {results : Task → Result}
    (h : (results .remove).Succeeds ∨ (results .remove).FindsGone) :
    decisive results = if (results .create).Succeeds then results .start else results .create := by
  have hcounted : (results .remove).counted.Succeeds := by
    unfold Result.counted
    split
    · exact ⟨rfl, rfl⟩
    · next hgone => exact h.resolve_right hgone
  split
  · next hc => rw [decisive_of_created hc, deciding_eq, if_pos (.inr hcounted)]
  · next hc => exact decisive_of_not_created hc

section Outlined
variable {f : Framework} {results : Task → Result} {decided : Result} {s : Settings} {r : Request}

theorem outlinedBy_call (o : Helper.Order) :
    OutlinedBy (f.surroundings results) (Outline.call o) (.done (o.settle (results o.task))) := by
  rintro post asked h _ rfl a _ ⟨rfl, rfl⟩
  show Assures _ (.done (o.settle (results o.task))) post (asked ++ [])
  rw [List.append_nil]
  exact h

theorem outlinedBy_call_bind {α : Type} {o : Helper.Order} {next : Result → Procedure Failure α}
    {outline : Procedure Failure α}
    (h : OutlinedBy (f.surroundings results) (next (o.settle (results o.task))) outline) :
    OutlinedBy (f.surroundings results) (Outline.call o >>= next) outline :=
  .trans (.bind (outlinedBy_call o) fun _ => .refl _) h

theorem outlinedBy_work_createStart (client : Client) (origin : Watch.Origin) (helperPath : String) (r : Request)
    (plan : Plan) :
    OutlinedBy (f.surroundings results) (Pipeline.work ⟨client, .createStart, origin⟩ helperPath r plan)
      (.done (decisive results)) := by
  refine .trans (outlinedBy_work (f.discreet_surroundings results) client origin helperPath r plan)
    (outlinedBy_call_bind ?_)
  show OutlinedBy _ (if !(results .create).succeeded then _ else _) _
  by_cases hc : (results .create).Succeeds
  · rw [(Result.succeeded_iff _).2 hc, decisive_of_created hc, ← Result.settleRemoval_eq_counted]
    have hpair : OutlinedBy (f.surroundings results)
        (Outline.startAndRemove fun task => Helper.order ⟨helperPath, client⟩ task r plan)
        (.done (results .start, (results .remove).settleRemoval)) :=
      outlinedBy_call_bind (outlinedBy_call_bind (.refl _))
    exact .bind hpair fun _ => .refl _
  · rw [Bool.eq_false_iff.2 (mt (Result.succeeded_iff _).1 hc), decisive_of_not_created hc]
    exact .refl _

theorem outlinedBy_work_run (client : Client) (origin : Watch.Origin) (helperPath : String) (r : Request)
    (plan : Plan) :
    OutlinedBy (f.surroundings results) (Pipeline.work ⟨client, .run, origin⟩ helperPath r plan)
      (.done (results .run)) :=
  .trans (outlinedBy_carryOut (f.discreet_surroundings results) _) (outlinedBy_call _)

theorem outlinedBy_work_of_removed
    (hrun : results .run = if (results .create).Succeeds then results .start else results .create)
    (hremove : (results .remove).Succeeds ∨ (results .remove).FindsGone) (p : Pipeline) (helperPath : String)
    (r : Request) (plan : Plan) :
    OutlinedBy (f.surroundings results) (p.work helperPath r plan) (.done (results .run)) := by
  obtain ⟨client, strategy, origin⟩ := p
  cases strategy with
  | run => exact outlinedBy_work_run client origin helperPath r plan
  | createStart =>
    rw [hrun, ← decisive_of_removed hremove]
    exact outlinedBy_work_createStart client origin helperPath r plan

theorem outlinedBy_launch {p : Pipeline}
    (hw : ∀ plan, OutlinedBy (f.surroundings results) (p.work s.helperPath r plan) (.done decided)) :
    OutlinedBy (f.surroundings results) (p.launch s r) (Outline.launch s r decided) := by
  have ho := f.discreet_surroundings results
  refine .quiet (quiet_logs ho _) fun _ => .bind (.refl (ofExcept _)) fun plan => ?_
  exact .mapFault (outlinedBy_launchPlan ho (hw plan))

end Outlined

/-! ## What is asked of the helper -/

/-- One command line is like another, but for the code of the helper's operation and for the verb. -/
def RunsAsCreated (run create : List String) : Prop :=
  ∃ front middle options, front.length = 3 ∧ middle.length = 10 ∧
    create = front ++ "5" :: middle ++ "create" :: options ∧
    run = front ++ "4" :: middle ++ "run" :: "--rm" :: options

theorem runsAsCreated_argv (setup : Setup) (r : Request) (plan : Plan) :
    RunsAsCreated (Helper.argv setup .run r plan) (Helper.argv setup .create r plan) := by
  let front := [setup.helperPath, r.user, r.user]
  let middle := [r.appId, r.containerId, r.workDir, r.scriptPath, r.tokensPath, String.intercalate "," r.localDirs,
    String.intercalate "," r.logDirs] ++ setup.client.argv plan.dockerUrl
  exact ⟨front, middle, Helper.containerOptions r plan, rfl, rfl, rfl, rfl⟩

/-- Whichever strategy a pipeline has, the framework sees the same launch, and the helper is asked for the same
container. -/
theorem seen_launch_eq (f : Framework) (results : Task → Result) (p p' : Pipeline) (s : Settings) (r : Request)
    {o o' : Oracle} (ho : f.AnswersIn results o) (ho' : f.AnswersIn results o')
    (hrun : results .run = if (results .create).Succeeds then results .start else results .create)
    (hremove : (results .remove).Succeeds ∨ (results .remove).FindsGone) :
    o.seen (p.launch s r) = o'.seen (p'.launch s r) ∧
      ∀ setup plan, RunsAsCreated (Helper.argv setup .run r plan) (Helper.argv setup .create r plan) := by
  have houtline (p : Pipeline) :
      OutlinedBy (f.surroundings results) (p.launch s r) (Outline.launch s r (results .run)) :=
    outlinedBy_launch fun plan => outlinedBy_work_of_removed hrun hremove p s.helperPath r plan
  exact ⟨Framework.seen_eq_of_outlinedBy ho ho' (houtline p) (houtline p') (Outline.asks_launch s r _),
    fun setup plan => runsAsCreated_argv setup r plan⟩

/-! ## A workload that fails -/

/-- Answers for the framework and for the helper. There are no notices to be had. -/
def Framework.oracle (f : Framework) (results : Task → Result) : Oracle := fun _ q =>
  match q with
  | .log _ => ()
  | .probe .. => .answered
  | .isActive containerId => f.active containerId
  | .invoke o => .ok (results o.task)
  | .report containerId message => f.report containerId message
  | .subscribe .. => .error ⟨.os, "no notices"⟩
  | .spawn _ => .ok ()
  | .act action => (({} : Roster).perform action).reply

theorem Framework.answersIn_oracle (f : Framework) (results : Task → Result) :
    f.AnswersIn results (f.oracle results) := by
  intro past q
  cases q with
  | subscribe url containerId removal =>
    rintro _ ⟨⟩
    decide
  | log _ => trivial
  | probe _ _ => trivial
  | act _ => trivial
  | _ => rfl

/-- The workload ends with 3, and its container is gone by the time it is to be removed. -/
theorem seen_launch_eq_failed :
    let f : Framework := ⟨fun _ => .ok true, fun _ _ => .error ⟨.other, "not now"⟩⟩
    let failed : Result := { exitCode := 3, output := "boom" }
    let gone : Result := { exitCode := 1, output := "Error: No such container: c" }
    let results : Task → Result
      | .create => {}
      | .remove => gone
      | .start | .run => failed
    let r : Request := { (default : Request) with imageReference := some "i" }
    let o := f.oracle results
    f.AnswersIn results o ∧
      (results .run = if (results .create).Succeeds then results .start else results .create) ∧
      ((results .remove).Succeeds ∨ (results .remove).FindsGone) ∧
      (o.seen (Pipeline.launch ⟨.docker, .run, .nowhere⟩ default r)).1 = .error (.failure ⟨.other, "not now"⟩) ∧
      o.seen (Pipeline.launch ⟨.docker, .createStart, .daemon⟩ default r) =
        o.seen (Pipeline.launch ⟨.docker, .run, .nowhere⟩ default r) := by
  intro f failed gone results r o
  have ho : f.AnswersIn results o := f.answersIn_oracle results
  have hrun : results .run = if (results .create).Succeeds then results .start else results .create := rfl
  have hgone : gone.FindsGone := (Result.saysGone_iff _).1 (by decide +kernel)
  have hseen := seen_launch_eq f results ⟨.docker, .createStart, .daemon⟩ ⟨.docker, .run, .nowhere⟩ default r ho ho
    hrun (.inr hgone)
  exact ⟨ho, hrun, .inr hgone, rfl, hseen.1⟩

end ContainerLaunch.Launch
