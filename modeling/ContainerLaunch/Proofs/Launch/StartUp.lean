import ContainerLaunch.Launch.Launcher
import ContainerLaunch.Proofs.Launch.Conversation
/-!
# Start-ups

What a start-up that goes well has checked (`startedUp_of_goes`), and the ways in which a call of a launcher can go
(`course_of_goes`): whatever is to be known of a call follows from its `Course`.
-/

namespace ContainerLaunch.Launch

open Cleanup
open Procedure

/-- What is asked while a launcher starts up is logged or put to the daemon; all else belongs to launches. -/
def Question.isOfLaunch : Question → Bool
  | .log _ | .probe .. => false
  | _ => true

/-- What a launch may ask: its orders go to the helper with the pipeline's client, and it never probes. -/
def Question.BelongsTo (p : Pipeline) (s : Settings) (r : Request) : Question → Prop
  | .log _ | .act _ => True
  | .probe .. => False
  | .isActive id | .spawn id | .report id _ => id = r.containerId
  | .invoke o => ∃ plan task, Plan.resolve r s.dockerUrl = .ok plan ∧
      o = Helper.order ⟨s.helperPath, p.client⟩ task r plan
  | .subscribe url id removal => ∃ plan, Plan.resolve r s.dockerUrl = .ok plan ∧ url = plan.dockerUrl ∧
      id = r.containerId ∧ removal = Helper.order ⟨s.helperPath, p.client⟩ .remove r plan

/-- The start-up of a launcher whose settings are valid, and whose daemon answered if it had to. -/
structure StartedUp (l : Launcher) (talk : List Exchange) (p : Pipeline) : Prop where
  valid : l.settings.validate = .ok ()
  probed : l.settings.verifyDaemon = true →
    ⟨.probe p.client l.settings.dockerUrl, Client.ProbeAnswer.answered⟩ ∈ talk
  client : p.client.name = l.settings.client
  strategy : p.strategy = .ofName l.settings.strategy
  origin : p.origin = l.origin

theorem eq_ok_of_mapError {ε ε' α : Type} {f : ε → ε'} {r : Except ε α} {value : α}
    (h : r.mapError f = .ok value) : r = .ok value := by
  cases r with
  | error _ => cases h
  | ok _ =>
    cases h
    rfl

namespace Launcher
variable {l : Launcher} {talk : List Exchange} {p : Pipeline}

theorem clientOf_ok {s : Settings} {c : Client} (h : clientOf s = .ok c) :
    s.validate = .ok () ∧ c.name = s.client := by
  unfold clientOf at h
  cases hv : s.validate with
  | error e =>
    rw [hv] at h
    cases h
  | ok _ =>
    rw [hv] at h
    cases hc : Client.ofName? s.client with
    | none =>
      simp only [hc] at h
      cases h
    | some c' =>
      simp only [hc] at h
      cases h
      exact ⟨rfl, Client.name_of_ofName? hc⟩

theorem answered_of_check {c : Client} {url timeout : String} {answer : Client.ProbeAnswer}
    (h : (c.checkDaemon url timeout answer).1 = .ok true) : answer = .answered := by
  unfold Client.checkDaemon at h
  cases answer with
  | answered => rfl
  | exited code => cases h
  | timedOut => cases h
  | broken message => cases h
  | failed f =>
    split at h
    · cases h
    · cases h
    · next hne => exact absurd rfl (hne f)

theorem answered_of_goes {c : Client} {url : String} (h : (checkDaemon c url).Goes talk (.ok true)) :
    ⟨.probe c url, Client.ProbeAnswer.answered⟩ ∈ talk := by
  obtain ⟨answer, _, rest, rfl, hq, hrest⟩ := goes_bind_ok.1 h
  obtain ⟨_, _, rfl, hdone⟩ := goes_ask.1 hq
  cases hdone
  obtain ⟨_, _, _, rfl, -, hresult⟩ := goes_bind_ok.1 hrest
  have hanswer := answered_of_check (goes_ofExcept.1 hresult).2.symm
  subst hanswer
  exact List.mem_cons_self

theorem startedUp_of_goes (h : l.prepare.Goes talk (.ok p)) : StartedUp l talk p := by
  unfold prepare at h
  dsimp only at h
  obtain ⟨client, _, _, rfl, hclient, h⟩ := goes_bind_ok.1 h
  obtain ⟨_, _, _, rfl, -, h⟩ := goes_bind_ok.1 h
  obtain ⟨hvalid, hname⟩ := clientOf_ok (eq_ok_of_mapError (goes_ofExcept.1 hclient).2.symm)
  have hmade {talk : List Exchange} (h : (do
      logs (readyLog l.settings)
      return { client, strategy := .ofName l.settings.strategy, origin := l.origin } :
        Procedure LaunchError Pipeline).Goes talk (.ok p)) :
      p = { client, strategy := .ofName l.settings.strategy, origin := l.origin } := by
    obtain ⟨_, _, _, -, -, hdone⟩ := goes_bind_ok.1 h
    cases hdone
    rfl
  split at h
  · obtain ⟨answers, probe, _, rfl, hprobe, h⟩ := goes_bind_ok.1 h
    split at h
    · obtain ⟨_, _, _, -, hfail, -⟩ := goes_bind_ok.1 h
      cases hfail
    · next hanswers =>
      rw [Bool.not_eq_true', Bool.not_eq_false] at hanswers
      subst hanswers
      obtain rfl := hmade h
      obtain ⟨answers, hok, hprobe⟩ := goes_mapFault.1 hprobe
      obtain rfl := eq_ok_of_mapError hok.symm
      refine ⟨hvalid, fun _ => ?_, hname, rfl, rfl⟩
      simp [answered_of_goes hprobe]
  · next hverify =>
    obtain rfl := hmade h
    exact ⟨hvalid, fun hv => absurd hv hverify, hname, rfl, rfl⟩

theorem asks_checkDaemon {P : Question → Prop} (hlog : ∀ record, P (.log record)) {c : Client} {url : String}
    (hprobe : P (.probe c url)) : (checkDaemon c url).Asks P :=
  (asks_question hprobe).bind fun _ => (asks_logs hlog _).bind fun _ => asks_ofExcept _

theorem asks_prepare {P : Question → Prop} (hlog : ∀ record, P (.log record))
    (hprobe : ∀ c, P (.probe c l.settings.dockerUrl)) : l.prepare.Asks P := by
  unfold prepare
  dsimp only
  refine (asks_ofExcept _).bind fun client => (asks_logs hlog _).bind fun _ => ?_
  split
  · refine (asks_checkDaemon hlog (hprobe client)).mapFault.bind fun answers => ?_
    split
    · exact (asks_fail _).bind fun _ => (asks_logs hlog _).bind fun _ => asks_done _
    · exact (asks_logs hlog _).bind fun _ => asks_done _
  · exact (asks_logs hlog _).bind fun _ => asks_done _

theorem not_isOfLaunch_of_goes {result : Except LaunchError Pipeline} (h : l.prepare.Goes talk result) :
    ∀ x ∈ talk, x.question.isOfLaunch = false := by
  have hasks : l.prepare.Asks fun q => q.isOfLaunch = false := asks_prepare (fun _ => rfl) fun _ => rfl
  exact hasks.of_goes h

end Launcher

/-! ## Launches -/

namespace Pipeline
variable {p : Pipeline} {s s' : Settings} {r : Request} {talk : List Exchange}

theorem belongsTo_of_goes {result : Except LaunchError Outcome} (h : (p.launch s r).Goes talk result) :
    ∀ x ∈ talk, x.question.BelongsTo p s r := by
  have hasks : (p.launch s r).Asks (Question.BelongsTo p s r) :=
    asks_launch (fun _ => trivial) (fun _ _ => trivial) rfl rfl (fun _ => rfl)
      (fun plan hplan task => ⟨plan, task, hplan, rfl⟩) fun plan hplan => ⟨plan, hplan, rfl, rfl, rfl⟩
  exact hasks.of_goes h

/-- A launch reads no more of the settings than these. -/
theorem launch_congr (hurl : s.dockerUrl = s'.dockerUrl) (hhelper : s.helperPath = s'.helperPath) :
    p.launch s r = p.launch s' r := by
  unfold launch
  rw [hurl, hhelper]

/-- A launch does not fail as a start-up does. -/
theorem error_of_goes {e : LaunchError} (h : (p.launch s r).Goes talk (.error e)) :
    (∃ i, e = .image i) ∨ ∃ f, e = .failure f := by
  obtain ⟨_, _, _, rfl, -, h⟩ | ⟨_, -, h⟩ := goes_bind.1 h
  · obtain ⟨plan, _, _, rfl, -, h⟩ | ⟨_, he, h⟩ := goes_bind.1 h
    · obtain ⟨result, he, -⟩ := goes_mapFault.1 h
      cases result with
      | ok _ => cases he
      | error f =>
        cases he
        exact .inr ⟨f, rfl⟩
    · cases he
      have he := (goes_ofExcept.1 h).2
      cases hplan : Plan.resolve r s.dockerUrl with
      | ok _ =>
        rw [hplan] at he
        cases he
      | error i =>
        rw [hplan] at he
        cases he
        exact .inl ⟨i, rfl⟩
  · cases ok_of_goes_logs h

end Pipeline

/-! ## Calls -/

/-- What can be done with a launcher. A launch of which only the exit code is wanted is a launch. -/
inductive Call where
  | startUp
  | launch (r : Request)
  | assign (a : Settings.Assignment)

/-- What a call does with a launcher. -/
def Call.procedure (l : Launcher) : Call → Procedure Empty (Launcher × Except LaunchError (Option Outcome))
  | .startUp => do
    let (l, result) ← l.startUp
    return (l, result.map fun _ => none)
  | .launch r => do
    let (l, result) ← l.launch r
    return (l, result.map some)
  | .assign a => return (l.assign a, .ok none)

/-- A call of a launcher, what was said meanwhile, and what came of it. -/
structure Episode where
  call : Call
  before : Launcher
  talk : List Exchange
  after : Launcher
  result : Except LaunchError (Option Outcome)

/-- The ways in which a call can go. -/
inductive Course : Episode → Prop where
  | assigned {l a} : Course ⟨.assign a, l, [], l.assign a, .ok none⟩
  | startedUp {l talk p} (h : l.prepare.Goes talk (.ok p)) : Course ⟨.startUp, l, talk, l.install p, .ok none⟩
  | refused {l talk e} (h : l.prepare.Goes talk (.error e)) : Course ⟨.startUp, l, talk, l, .error e⟩
  | launched {l talk p r outcome} (hp : l.pipeline? = some p) (h : (p.launch l.settings r).Goes talk outcome) :
    Course ⟨.launch r, l, talk, l, outcome.map some⟩
  | launchedFirst {l first rest p r outcome} (hp : l.pipeline? = none) (hs : l.prepare.Goes first (.ok p))
      (h : (p.launch l.settings r).Goes rest outcome) :
    Course ⟨.launch r, l, first ++ rest, l.install p, outcome.map some⟩
  | refusedFirst {l talk e r} (hp : l.pipeline? = none) (h : l.prepare.Goes talk (.error e)) :
    Course ⟨.launch r, l, talk, l, .error e⟩

section Calls
variable {l l' : Launcher} {talk : List Exchange}

theorem goes_startUp_iff {result : Except LaunchError Unit} :
    (l.startUp : Procedure Empty _).Goes talk (.ok (l', result)) ↔
      (∃ p, l.prepare.Goes talk (.ok p) ∧ l' = l.install p ∧ result = .ok ()) ∨
        ∃ e, l.prepare.Goes talk (.error e) ∧ l' = l ∧ result = .error e := by
  unfold Launcher.startUp
  simp only [goes_bind_ok, goes_attempt]
  constructor
  · rintro ⟨prepared, first, rest, rfl, ⟨_, ⟨⟩, hs⟩, h⟩
    cases prepared with
    | ok p =>
      cases h
      exact .inl ⟨p, by rwa [List.append_nil], rfl, rfl⟩
    | error e =>
      cases h
      exact .inr ⟨e, by rwa [List.append_nil], rfl, rfl⟩
  · rintro (⟨p, hs, rfl, rfl⟩ | ⟨e, hs, rfl, rfl⟩)
    · exact ⟨_, talk, [], (List.append_nil talk).symm, ⟨_, rfl, hs⟩, .done _⟩
    · exact ⟨_, talk, [], (List.append_nil talk).symm, ⟨_, rfl, hs⟩, .done _⟩

theorem goes_launch_iff {p : Pipeline} {r : Request} (hp : l.pipeline? = some p)
    {result : Except LaunchError (Option Outcome)} :
    ((Call.launch r).procedure l).Goes talk (.ok (l', result)) ↔
      l' = l ∧ ∃ outcome, result = outcome.map some ∧ (p.launch l.settings r).Goes talk outcome := by
  unfold Call.procedure Launcher.launch
  simp only [hp, goes_bind_ok, goes_attempt]
  constructor
  · rintro ⟨_, _, _, rfl, ⟨outcome, _, _, rfl, ⟨_, ⟨⟩, h⟩, ⟨⟩⟩, ⟨⟩⟩
    exact ⟨rfl, outcome, rfl, by simpa using h⟩
  · rintro ⟨rfl, outcome, rfl, h⟩
    exact ⟨_, talk, [], (List.append_nil talk).symm,
      ⟨_, talk, [], (List.append_nil talk).symm, ⟨_, rfl, h⟩, .done _⟩, .done _⟩

theorem course_of_goes {c : Call} {result : Except LaunchError (Option Outcome)}
    (h : (c.procedure l).Goes talk (.ok (l', result))) : Course ⟨c, l, talk, l', result⟩ := by
  cases c with
  | assign a =>
    cases h
    exact .assigned
  | startUp =>
    obtain ⟨⟨l₁, up⟩, first, rest, rfl, hs, h⟩ := goes_bind_ok.1 h
    cases h
    rw [List.append_nil]
    obtain ⟨p, hp, rfl, rfl⟩ | ⟨e, he, rfl, rfl⟩ := goes_startUp_iff.1 hs
    · exact .startedUp hp
    · exact .refused he
  | launch r =>
    cases hp : l.pipeline? with
    | some p =>
      obtain ⟨rfl, outcome, rfl, hl⟩ := (goes_launch_iff hp).1 h
      exact .launched hp hl
    | none =>
      obtain ⟨⟨l₁, outcome⟩, _, _, rfl, hl, h⟩ := goes_bind_ok.1 h
      cases h
      rw [List.append_nil]
      unfold Launcher.launch at hl
      rw [hp] at hl
      obtain ⟨prepared, first, rest, rfl, hs, hl⟩ := goes_bind_ok.1 hl
      obtain ⟨prepared, heq, hs⟩ := goes_attempt.1 hs
      cases heq
      cases prepared with
      | ok p =>
        obtain ⟨_, talk, _, rfl, hl, h⟩ := goes_bind_ok.1 hl
        obtain ⟨outcome, heq, hl⟩ := goes_attempt.1 hl
        cases heq
        cases h
        rw [List.append_nil]
        exact .launchedFirst hp hs hl
      | error e =>
        cases hl
        rw [List.append_nil]
        exact .refusedFirst hp hs

end Calls

end ContainerLaunch.Launch
