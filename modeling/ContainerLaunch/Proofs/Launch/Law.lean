import ContainerLaunch.Proofs.Helper.Verdict
import ContainerLaunch.Proofs.Image.Language
import ContainerLaunch.Proofs.Launch.Outline
/-!
# The law of a launch that creates, starts and removes

`law` says what a launch comes to and what it asks in the open, given whether the container is still wanted
and what each call of the helper comes to. Whether there is a launch at all is decided by the image reference:
`fault?` says what is wrong with one in terms of the language of references, and `resolve_eq` that the plan goes by it.

`assures_launch` reduces the law to the calls: it is kept in all surroundings in which the calls go by it.
They do if nobody acts beside the launch, whatever the log, the roster and the source of notices have to
say (`callsGoByLaw_surroundings`).
-/

namespace ContainerLaunch.Launch

open Cleanup
open Helper (Task Result Setup)
open Image (Reference unquoted)
open Procedure

/-! ## The law -/

/-- What is wrong with an image reference: it is missing, or no reference is left when the quotes are out. -/
def fault? (raw : Option String) : Option ImageError :=
  match raw with
  | none => some .missing
  | some text =>
    if text = "" then some .missing
    else if Reference (unquoted text).toList then none
    else some (.malformed (unquoted text))

/-- What a launch goes by whose image reference is in order. -/
def planned (s : Settings) (r : Request) : Plan where
  image := unquoted (r.imageReference.getD "")
  dockerUrl := s.dockerUrl
  localMounts := r.localDirs.map .mk
  logMounts := r.logDirs.map .mk
  launchScript := Path.join r.workDir "launch_container.sh"

/-- What is asked of the framework, of the helper or of the daemon's client. -/
def Question.isPublic : Question → Bool
  | .probe .. | .isActive _ | .invoke _ | .report .. => true
  | .log _ | .subscribe .. | .spawn _ | .act _ => false

/-- The result that decides: creating, if that failed, then starting, unless only removing failed. -/
def decisive (results : Task → Result) : Result :=
  if ¬ (results .create).Succeeds then results .create
  else if ¬ (results .start).Succeeds ∨ (results .remove).counted.Succeeds then results .start
  else (results .remove).counted

/-- The tasks that the helper is called for. -/
def tasks (results : Task → Result) : List Task :=
  if (results .create).Succeeds then [.create, .start, .remove] else [.create]

/-- The call of the helper for a task, with the environment of the request. -/
def callFor (setup : Setup) (r : Request) (plan : Plan) (task : Task) : Question :=
  .invoke {
    task
    containerId := r.containerId
    call := { argv := Helper.argv setup task r plan, environment := r.environment } }

/-- What the framework is told at the end. -/
def outcomeOf (r : Request) (active : Bool) (results : Task → Result) : Outcome :=
  if active then (decisive results).verdict r.containerId
  else { exitCode := 143, exitClass := .alreadyInactive, diagnostics := none }

/-- What a launch asks in the open whose image reference is in order. -/
def askedIn (setup : Setup) (r : Request) (plan : Plan) (active : Bool) (results : Task → Result) :
    List Question :=
  .isActive r.containerId ::
    if active then
      (tasks results).map (callFor setup r plan) ++
        (outcomeOf r active results).diagnostics.toList.map (.report r.containerId)
    else []

/-- What a launch comes to, and what it asks in the open. -/
def law (client : Client) (s : Settings) (r : Request) (active : Bool) (results : Task → Result) :
    Except LaunchError Outcome × List Question :=
  match fault? r.imageReference with
  | some e => (.error (.image e), [])
  | none => (.ok (outcomeOf r active results), askedIn ⟨s.helperPath, client⟩ r (planned s r) active results)

theorem validate_eq (raw : Option String) : Image.validate raw =
    match fault? raw with
    | some e => .error e
    | none => .ok (unquoted (raw.getD "")) := by
  cases raw with
  | none => rfl
  | some text =>
    by_cases hne : text = ""
    · simp [Image.validate, fault?, hne]
    · by_cases hr : Reference (unquoted text).toList
      · simp [Image.validate_some hne, fault?, hne, hr, Image.isValid_iff.2 hr]
      · simp [Image.validate_some hne, fault?, hne, hr, mt Image.isValid_iff.1 hr]

theorem resolve_eq (s : Settings) (r : Request) : Plan.resolve r s.dockerUrl =
    match fault? r.imageReference with
    | some e => .error e
    | none => .ok (planned s r) := by
  rw [Plan.resolve, validate_eq]
  cases fault? r.imageReference <;> rfl

theorem deciding_eq (started removed : Result) :
    deciding started removed = if ¬ started.Succeeds ∨ removed.Succeeds then started else removed := by
  unfold deciding
  by_cases hs : started.Succeeds <;> by_cases hr : removed.Succeeds <;>
    simp [hs, hr, (Result.succeeded_iff _).2, Bool.eq_false_iff.2, Result.succeeded_iff]

theorem decisive_of_created {results : Task → Result} (hc : (results .create).Succeeds) :
    decisive results = deciding (results .start) (results .remove).counted := by
  rw [decisive, if_neg (not_not_intro hc), deciding_eq]

theorem decisive_of_not_created {results : Task → Result} (hc : ¬ (results .create).Succeeds) :
    decisive results = results .create := if_pos hc

/-! ## From the calls to the launch -/

variable {σ ε α : Type} {out : Surroundings σ}

/-- Surroundings that note down what is asked in the open. -/
def Surroundings.noting (out : Surroundings σ) : Surroundings (σ × List Question) where
  drift := fun x y => out.drift x.1 y.1 ∧ y.2 = x.2
  answers := fun x q a y => out.answers x.1 q a y.1 ∧ y.2 = x.2 ++ [q].filter Question.isPublic
  refl := fun x => ⟨out.refl x.1, rfl⟩
  trans := fun h h' => ⟨out.trans h.1 h'.1, h'.2.trans h.2⟩

/-- A framework that says whether the container is still wanted and takes every report. -/
structure Surroundings.Attentive (out : Surroundings σ) (active : Bool) : Prop extends out.Discreet where
  isActive : ∀ {x containerId a y}, out.answers x (.isActive containerId) a y → a = .ok active ∧ y = x
  report : ∀ {x containerId message a y}, out.answers x (.report containerId message) a y →
    a = .ok () ∧ y = x

theorem Surroundings.Discreet.noting (ho : out.Discreet) : out.noting.Discreet where
  log := fun ⟨h, h'⟩ => Prod.ext (ho.log h) (h'.trans (List.append_nil _))
  act := fun ⟨h, h'⟩ => Prod.ext (ho.act h) (h'.trans (List.append_nil _))
  subscribe := fun ⟨h, h'⟩ =>
    ⟨Prod.ext (ho.subscribe h).1 (h'.trans (List.append_nil _)), (ho.subscribe h).2⟩
  spawn := fun ⟨h, h'⟩ => ⟨Prod.ext (ho.spawn h).1 (h'.trans (List.append_nil _)), (ho.spawn h).2⟩

section Rules
variable {active : Bool} {x : σ} {asked : List Question}

/-- Asking a question notes it down if it is one in the open. -/
theorem assures_ask {q : Question} {next : q.Answer → Procedure ε α}
    {post : Except ε α → σ × List Question → Prop}
    (h : ∀ y, out.drift x y → ∀ a z, out.answers y q a z →
      Assures out.noting (next a) post (z, asked ++ [q].filter Question.isPublic)) :
    Assures out.noting (.ask q next) post (x, asked) := by
  rintro ⟨y, _⟩ ⟨hy, rfl⟩ a ⟨z, _⟩ ⟨ha, rfl⟩
  exact h y hy a z ha

theorem assures_isActive (ho : out.Attentive active) {containerId : String}
    {next : Bool → Procedure Failure α} {post : Except Failure α → σ × List Question → Prop}
    (h : Assures out.noting (next active) post (x, asked ++ [.isActive containerId])) :
    Assures out.noting (question (.isActive containerId) >>= fun answer => ofExcept answer >>= next)
      post (x, asked) := by
  refine assures_ask fun y hy a z ha => ?_
  obtain ⟨rfl, rfl⟩ := ho.isActive ha
  exact h.drift ⟨hy, rfl⟩

theorem assures_report (ho : out.Attentive active) {containerId : String} {outcome : Outcome}
    {next : Unit → Procedure Failure α} {post : Except Failure α → σ × List Question → Prop}
    (h : Assures out.noting (next ()) post
      (x, asked ++ outcome.diagnostics.toList.map (.report containerId))) :
    Assures out.noting (Pipeline.report containerId outcome >>= next) post (x, asked) := by
  obtain ⟨code, exitClass, diagnostics⟩ := outcome
  cases diagnostics with
  | none => exact List.append_nil asked ▸ h
  | some message =>
    refine assures_ask fun y hy a z ha => ?_
    obtain ⟨rfl, rfl⟩ := ho.report ha
    exact h.drift ⟨hy, rfl⟩

/-- An order is carried out with a result, and leaves the surroundings, as `P` says. -/
def Surroundings.Carries (out : Surroundings σ) (o : Helper.Order) (P : Result → σ → Prop) (x : σ) : Prop :=
  ∀ y, out.drift x y → ∀ a z, out.answers y (.invoke o) a z → ∃ r, a = .ok r ∧ P r z

theorem assures_call {o : Helper.Order} {next : Result → Procedure Failure α}
    {post : Except Failure α → σ × List Question → Prop}
    (h : out.Carries o (fun r z => Assures out.noting (next (o.settle r)) post (z, asked ++ [.invoke o])) x) :
    Assures out.noting (Outline.call o >>= next) post (x, asked) := by
  refine assures_ask fun y hy a z ha => ?_
  obtain ⟨r, rfl, hr⟩ := h y hy a z ha
  exact hr

variable {results : Task → Result} {Q : σ → Prop} {client : Client} {origin : Watch.Origin}
  {helperPath : String} {setup : Setup} {r : Request} {plan : Plan}

/-- The calls go by the law, and `Q` is the case after them. -/
def CallsGoByLaw (out : Surroundings σ) (setup : Setup) (r : Request) (plan : Plan)
    (results : Task → Result) (Q : σ → Prop) (x : σ) : Prop :=
  ∀ asked, Assures out.noting (Outline.createStartRemove fun task => Helper.order setup task r plan)
    (fun result y => result = .ok (decisive results) ∧
      y.2 = asked ++ (tasks results).map (callFor setup r plan) ∧ Q y.1) (x, asked)

/-- The calls go by the law if each does, given what is the case after the one before. -/
theorem callsGoByLaw_of_carries (Created Started : σ → Prop)
    (hcreate : out.Carries (Helper.order setup .create r plan) (fun created y => created = results .create ∧
      (created.Succeeds → Created y) ∧ (¬ created.Succeeds → ∀ z, out.drift y z → Q z)) x)
    (hstart : ∀ y, Created y → out.Carries (Helper.order setup .start r plan)
      (fun started y => started = results .start ∧ Started y) y)
    (hremove : ∀ y, Started y → out.Carries (Helper.order setup .remove r plan) (fun removed y =>
      deciding (results .start) removed.counted = deciding (results .start) (results .remove).counted ∧
        ∀ z, out.drift y z → Q z) y) :
    CallsGoByLaw out setup r plan results Q x := by
  intro asked
  refine assures_call fun y hy a z ha => ?_
  obtain ⟨created, rfl, rfl, hcreated, hnot⟩ := hcreate y hy a z ha
  refine ⟨_, rfl, ?_⟩
  show Assures _ (if !(results .create).succeeded then _ else _) _ _
  by_cases hc : (results .create).Succeeds
  · rw [(Result.succeeded_iff _).2 hc, decisive_of_created hc, tasks, if_pos hc]
    show Assures _ (Outline.startAndRemove _ >>= _) _ _
    rw [Outline.startAndRemove, Procedure.bind_assoc]
    refine assures_call fun y hy a z ha => ?_
    obtain ⟨started, rfl, rfl, hstarted⟩ := hstart _ (hcreated hc) y hy a z ha
    refine ⟨_, rfl, ?_⟩
    dsimp only
    rw [Procedure.bind_assoc]
    refine assures_call fun y hy a z ha => ?_
    obtain ⟨removed, rfl, hdeciding, hQ⟩ := hremove _ hstarted y hy a z ha
    refine ⟨_, rfl, fun w hw => ⟨?_, ?_, hQ _ hw.1⟩⟩
    · show Except.ok (deciding (results .start) removed.settleRemoval) = _
      rw [Result.settleRemoval_eq_counted, hdeciding]
    · rw [hw.2, List.append_assoc, List.append_assoc]
      rfl
  · rw [Bool.eq_false_iff.2 (mt (Result.succeeded_iff _).1 hc), decisive_of_not_created hc, tasks, if_neg hc]
    exact fun w hw => ⟨rfl, hw.2, hnot hc _ hw.1⟩

theorem assures_launchPlan (ho : out.Attentive active) (hQ : ∀ y, out.drift x y → Q y)
    (hw : CallsGoByLaw out ⟨helperPath, client⟩ r plan results Q x) :
    Assures out.noting (Pipeline.launchPlan ⟨client, .createStart, origin⟩ helperPath r plan)
      (fun result y => result = .ok (outcomeOf r active results) ∧
        y.2 = askedIn ⟨helperPath, client⟩ r plan active results ∧ Q y.1) (x, []) := by
  have hd := ho.toDiscreet.noting
  refine outlinedBy_launchPlan hd (outlinedBy_work hd client origin helperPath r plan) _ _
    (assures_isActive ho ?_)
  cases active with
  | false => exact fun y hy => ⟨rfl, hy.2, hQ y.1 hy.1⟩
  | true =>
    -- The calls come first, and what holds after them goes on holding while the outcome is reported.
    refine assures_bind.2 ((hw _).settled.mono fun result y hy => ?_)
    obtain ⟨rfl, hasked, -⟩ := assures_ofExcept.1 hy y (out.noting.refl y)
    show Assures _ (Pipeline.report _ ((decisive results).classify r.containerId).1 >>= _) _ (y.1, y.2)
    rw [Result.classify_eq_verdict]
    refine assures_report ho fun z hz => ⟨rfl, ?_, (assures_ofExcept.1 hy (z.1, y.2) ⟨hz.1, rfl⟩).2.2⟩
    rw [hz.2, hasked]
    rfl

theorem assures_launch (s : Settings) (ho : out.Attentive active) (hQ : ∀ y, out.drift x y → Q y)
    (hw : ∀ plan, CallsGoByLaw out ⟨s.helperPath, client⟩ r plan results Q x) :
    Assures out.noting (Pipeline.launch ⟨client, .createStart, origin⟩ s r)
      (fun result y => (result, y.2) = law client s r active results ∧ Q y.1) (x, []) := by
  refine (quiet_logs ho.toDiscreet.noting _).bind fun _ => ?_
  rw [resolve_eq, law]
  cases fault? r.imageReference with
  | some e => exact fun y hy => ⟨congrArg _ hy.2, hQ y.1 hy.1⟩
  | none =>
    refine assures_mapFault.2 ((assures_launchPlan ho hQ (hw (planned s r))).mono ?_)
    rintro _ y ⟨rfl, hasked, hy⟩
    exact ⟨congrArg _ hasked, hy⟩

end Rules

/-! ## A launch that nobody acts beside -/

/-- What a launch is told. The log, the roster and the source of notices may say whatever they like, and
take into account what they were asked before; only the system does not fail to start a listener. -/
structure Answers where
  active : Bool
  results : Task → Result
  aside : List Question → (q : Question) → q.Answer
  ordinary : ∀ asked url containerId removal f,
    aside asked (.subscribe url containerId removal) = .error f → f.isOrdinary
  listens : ∀ asked containerId, aside asked (.spawn containerId) = Except.ok ()

/-- All goes well, and there is nothing to be heard of the container. -/
instance : Inhabited Answers where
  default := {
    active := true
    results := fun _ => {}
    aside := fun
      | _, .log _ => ()
      | _, .probe .. => .answered
      | _, .isActive _ => .ok true
      | _, .invoke _ => .ok {}
      | _, .report .. => .ok ()
      | _, .subscribe .. => .ok {}
      | _, .spawn _ => .ok ()
      | _, .act a => (Roster.perform {} a).reply
    ordinary := nofun
    listens := fun _ _ => rfl }

namespace Answers

/-- The answer to a question that comes after others. -/
def answer (a : Answers) (asked : List Question) : (q : Question) → q.Answer
  | .isActive _ => .ok a.active
  | .invoke o => .ok (a.results o.task)
  | .report .. => .ok ()
  | q => a.aside asked q

/-- Answers a question, and keeps it in mind for the answers to come. -/
def respond (a : Answers) (q : Question) : StateM (List Question) q.Answer := do
  let asked ← get
  set (asked ++ [q])
  return a.answer asked q

/-- How a procedure ends that gets these answers, and what it asks in the open. -/
def transcript (a : Answers) (p : Procedure ε α) : Except ε α × List Question :=
  let (result, asked) := (p.run a.respond).run []
  (result, asked.filter Question.isPublic)

/-- Surroundings that give some of these answers to every question. -/
def surroundings (a : Answers) : Surroundings Unit where
  drift := fun _ _ => True
  answers := fun _ q b _ => ∃ asked, b = a.answer asked q
  refl := fun _ => trivial
  trans := fun _ _ => trivial

theorem attentive_surroundings (a : Answers) : a.surroundings.Attentive a.active where
  log := fun _ => rfl
  act := fun _ => rfl
  subscribe := fun ⟨asked, ha⟩ => ⟨rfl, fun f hf => a.ordinary asked _ _ _ f (ha.symm.trans hf)⟩
  spawn := fun ⟨asked, ha⟩ => ⟨rfl, ha.trans (a.listens asked _)⟩
  isActive := fun ⟨_, ha⟩ => ⟨ha, rfl⟩
  report := fun ⟨_, ha⟩ => ⟨ha, rfl⟩

theorem transcript_of_assures {a : Answers} {p : Procedure ε α}
    {post : Except ε α → Unit × List Question → Prop}
    (h : Assures a.surroundings.noting p post ((), [])) :
    post (a.transcript p).1 ((), (a.transcript p).2) := by
  refine Assures.run (fun asked => ((), asked.filter Question.isPublic)) (s := []) (fun s q => ?_) h
  exact ⟨⟨s, rfl⟩, List.filter_append ..⟩

end Answers

theorem callsGoByLaw_surroundings (a : Answers) (setup : Setup) (r : Request) (plan : Plan) :
    CallsGoByLaw a.surroundings setup r plan a.results (fun _ => True) () := by
  refine callsGoByLaw_of_carries (fun _ => True) (fun _ => True) ?_ ?_ ?_
  · rintro _ - _ _ ⟨_, rfl⟩
    exact ⟨_, rfl, rfl, fun _ => trivial, fun _ _ _ => trivial⟩
  · rintro _ - _ - _ _ ⟨_, rfl⟩
    exact ⟨_, rfl, rfl, trivial⟩
  · rintro _ - _ - _ _ ⟨_, rfl⟩
    exact ⟨_, rfl, rfl, fun _ _ => trivial⟩

theorem Answers.assures_launch (a : Answers) (client : Client) (origin : Watch.Origin) (s : Settings)
    (r : Request) :
    Assures a.surroundings.noting (Pipeline.launch ⟨client, .createStart, origin⟩ s r)
      (fun result y => (result, y.2) = law client s r a.active a.results ∧ True) ((), []) :=
  Launch.assures_launch s a.attentive_surroundings (fun _ _ => trivial)
    fun plan => callsGoByLaw_surroundings a ⟨s.helperPath, client⟩ r plan

end ContainerLaunch.Launch
