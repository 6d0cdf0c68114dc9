import ContainerLaunch.Proofs.Launch.StartUp
import ContainerLaunch.Proofs.Lifecycle.Drain
import ContainerLaunch.Proofs.Settings.Faults
/-!
# What a start-up comes to

A launcher that starts up first looks for faults in its settings, and only then asks whether the daemon answers, if
it has to: `Readiness` lists the ways this can go, and `readiness_of_goes` shows that there are no others. A probe
that is refused or runs out of time tells that the daemon is not there. But a failure that is not the system's, as
when the URL cannot be put on a command line, is no answer at all, and breaks the start-up off (`accounted_startUp`).
-/

namespace ContainerLaunch

namespace Client

/-- The probe tells that no daemon answers. -/
inductive ProbeAnswer.Refuses : ProbeAnswer → Prop where
  | exited (code : Int) : Refuses (.exited code)
  | timedOut : Refuses .timedOut
  | broken (message : String) : Refuses (.broken message)
  | failed {f : Failure} (h : f.isSystem = true) : Refuses (.failed f)

theorem checkDaemon_cases (c : Client) (url timeout : String) (answer : ProbeAnswer) :
    (answer = .answered ∧ (c.checkDaemon url timeout answer).1 = .ok true) ∨
      (answer.Refuses ∧ (c.checkDaemon url timeout answer).1 = .ok false) ∨
      ∃ f, answer = .failed f ∧ f.isSystem = false ∧ (c.checkDaemon url timeout answer).1 = .error f := by
  cases answer with
  | answered => exact .inl ⟨rfl, rfl⟩
  | exited code => exact .inr (.inl ⟨.exited code, rfl⟩)
  | timedOut => exact .inr (.inl ⟨.timedOut, rfl⟩)
  | broken message => exact .inr (.inl ⟨.broken message, rfl⟩)
  | failed f =>
    cases hf : f.isSystem with
    | true => exact .inr (.inl ⟨.failed hf, by simp [checkDaemon, ProbeAnswer.complaint?, hf]⟩)
    | false => exact .inr (.inr ⟨f, rfl, hf, by simp [checkDaemon, ProbeAnswer.complaint?, hf]⟩)

end Client

namespace Launch

open Client (ProbeAnswer)
open Procedure

/-- A probe of the daemon at a URL, with what became of it. -/
structure Probe where
  client : Client
  url : String
  answer : ProbeAnswer

/-- The probe that an exchange is. -/
def Exchange.probe? : Exchange → Option Probe
  | ⟨.probe client url, answer⟩ => some ⟨client, url, answer⟩
  | _ => none

/-- The probes of a conversation. -/
def probes (talk : List Exchange) : List Probe := talk.filterMap Exchange.probe?

/-- The ways in which a start-up can go. -/
inductive Readiness (s : Settings) : List Probe → Except LaunchError Unit → Prop where
  | faulty {e} (h : s.Fault e) : Readiness s [] (.error (.config e))
  | trusted (hs : ∀ e, ¬ s.Fault e) (hv : s.verifyDaemon = false) : Readiness s [] (.ok ())
  | reached {c : Client} (hs : ∀ e, ¬ s.Fault e) (hv : s.verifyDaemon = true) (hc : c.name = s.client) :
    Readiness s [⟨c, s.dockerUrl, .answered⟩] (.ok ())
  | refused {c : Client} {answer} (hs : ∀ e, ¬ s.Fault e) (hv : s.verifyDaemon = true) (hc : c.name = s.client)
    (ha : answer.Refuses) : Readiness s [⟨c, s.dockerUrl, answer⟩] (.error (.unreachable s.dockerUrl))
  | brokenOff {c : Client} {f} (hs : ∀ e, ¬ s.Fault e) (hv : s.verifyDaemon = true) (hc : c.name = s.client)
    (hf : f.isSystem = false) : Readiness s [⟨c, s.dockerUrl, .failed f⟩] (.error (.failure f))

section
variable {l : Launcher} {talk : List Exchange} {ε : Type}

theorem probes_append (first rest : List Exchange) : probes (first ++ rest) = probes first ++ probes rest :=
  List.filterMap_append

theorem probes_of_goes_logs {records : List LogRecord} {r : Except ε Unit} (h : (logs records).Goes talk r) :
    probes talk = [] := by
  have hasks : (logs records : Procedure ε Unit).Asks fun q => ∃ record, q = .log record :=
    asks_logs (fun record => ⟨record, rfl⟩) records
  refine List.filterMap_eq_nil_iff.2 fun x hx => ?_
  obtain ⟨question, answer⟩ := x
  obtain ⟨record, rfl⟩ := hasks.of_goes h _ hx
  rfl

theorem probes_of_goes_logs_bind {α : Type} {records : List LogRecord} {next : Unit → Procedure ε α} {r : Except ε α}
    (h : (logs records >>= next).Goes talk r) : ∃ rest, probes talk = probes rest ∧ (next ()).Goes rest r := by
  obtain ⟨_, first, rest, rfl, hlogs, h⟩ | ⟨_, -, hlogs⟩ := goes_bind.1 h
  · exact ⟨rest, by rw [probes_append, probes_of_goes_logs hlogs, List.nil_append], h⟩
  · cases ok_of_goes_logs hlogs

namespace Launcher

theorem goes_checkDaemon {c : Client} {url : String} {r : Except Failure Bool}
    (h : (checkDaemon c url).Goes talk r) :
    ∃ answer, probes talk = [⟨c, url, answer⟩] ∧ r = (c.checkDaemon url probeTimeout answer).1 := by
  obtain ⟨answer, rest, rfl, hrest⟩ := goes_ask.1 h
  obtain ⟨rest', hprobes, hresult⟩ := probes_of_goes_logs_bind hrest
  obtain ⟨rfl, hr⟩ := goes_ofExcept.1 hresult
  refine ⟨answer, ?_, hr⟩
  rw [probes, List.filterMap_cons, ← probes, hprobes]
  rfl

theorem clientOf_cases (s : Settings) : (∃ e, s.Fault e ∧ clientOf s = .error e) ∨
    ∃ c : Client, (∀ e, ¬ s.Fault e) ∧ c.name = s.client ∧ clientOf s = .ok c := by
  cases hc : clientOf s with
  | ok c =>
    obtain ⟨hvalid, hname⟩ := clientOf_ok hc
    exact .inr ⟨c, Settings.validate_eq_ok_iff.1 hvalid, hname, rfl⟩
  | error e =>
    refine .inl ⟨e, ?_, rfl⟩
    unfold clientOf at hc
    cases hv : s.validate with
    | error e' =>
      rw [hv] at hc
      cases hc
      exact Settings.fault_of_validate hv
    | ok _ =>
      rw [hv] at hc
      cases hclient : Client.ofName? s.client with
      | some c =>
        simp only [hclient] at hc
        cases hc
      | none =>
        simp only [hclient] at hc
        cases hc
        refine .client fun hmem => ?_
        obtain h | h : s.client = "docker" ∨ s.client = "podman" := by simpa using hmem
        · exact absurd hclient (h ▸ by decide)
        · exact absurd hclient (h ▸ by decide)

theorem readiness_of_goes {result : Except LaunchError Pipeline} (h : l.prepare.Goes talk result) :
    Readiness l.settings (probes talk) (result.map fun _ => ()) := by
  unfold prepare at h
  dsimp only at h
  have hready {c : Client} {talk : List Exchange} {r : Except LaunchError Pipeline} (h : (do
      logs (readyLog l.settings)
      return { client := c, strategy := .ofName l.settings.strategy, origin := l.origin } :
        Procedure LaunchError Pipeline).Goes talk r) : probes talk = [] ∧ r.map (fun _ => ()) = .ok () := by
    obtain ⟨rest, hprobes, h⟩ := probes_of_goes_logs_bind h
    obtain ⟨rfl, rfl⟩ := goes_done.1 h
    exact ⟨hprobes, rfl⟩
  obtain ⟨e, he, hc⟩ | ⟨c, hs, hname, hc⟩ := clientOf_cases l.settings
  · rw [hc] at h
    obtain ⟨rfl, rfl⟩ := goes_fail.1 h
    exact .faulty he
  · rw [hc] at h
    obtain ⟨rest, hprobes, h⟩ := probes_of_goes_logs_bind h
    rw [hprobes]
    split at h
    · next hv =>
      obtain ⟨answers, first, rest, rfl, hcheck, h⟩ | ⟨e, rfl, hcheck⟩ := goes_bind.1 h
      · obtain ⟨r, hr, hcheck⟩ := goes_mapFault.1 hcheck
        obtain rfl := eq_ok_of_mapError hr.symm
        obtain ⟨answer, hprobes, hr⟩ := goes_checkDaemon hcheck
        rw [probes_append, hprobes]
        obtain ⟨rfl, hanswer⟩ | ⟨ha, hanswer⟩ | ⟨f, -, -, hanswer⟩ :=
          c.checkDaemon_cases l.settings.dockerUrl probeTimeout answer
        · cases hr.trans hanswer
          obtain ⟨hnone, hr⟩ := hready h
          rw [hnone, hr]
          exact .reached hs hv hname
        · cases hr.trans hanswer
          obtain ⟨rfl, rfl⟩ := goes_fail.1 h
          exact .refused hs hv hname ha
        · cases hr.trans hanswer
      · obtain ⟨r, hr, hcheck⟩ := goes_mapFault.1 hcheck
        obtain ⟨answer, hprobes, hanswer⟩ := goes_checkDaemon hcheck
        obtain ⟨-, h⟩ | ⟨-, h⟩ | ⟨f, rfl, hf, h⟩ := c.checkDaemon_cases l.settings.dockerUrl probeTimeout answer
        · cases (hanswer.trans h) ▸ hr
        · cases (hanswer.trans h) ▸ hr
        · cases (hanswer.trans h) ▸ hr
          rw [hprobes]
          exact .brokenOff hs hv hname hf
    · next hv =>
      obtain ⟨hnone, hr⟩ := hready h
      rw [hnone, hr]
      exact .trusted hs (Bool.eq_false_iff.2 hv)

end Launcher

end

/-! ## What it answers for -/

/-- The daemon was asked once, by the client of the settings, and this is what became of it. -/
def AskedOnce (s : Settings) (ps : List Probe) (P : ProbeAnswer → Prop) : Prop :=
  ∃ c answer, ps = [⟨c, s.dockerUrl, answer⟩] ∧ c.name = s.client ∧ P answer

/-- A result that a start-up may have: a pipeline, a fault in the settings, or a daemon that is not there. -/
def Documented (result : Except LaunchError Unit) : Prop :=
  result = .ok () ∨ (∃ e, result = .error (.config e)) ∨ ∃ url, result = .error (.unreachable url)

namespace Readiness
variable {s : Settings} {ps : List Probe} {result : Except LaunchError Unit}

theorem config_iff (h : Readiness s ps result) : (∃ e, result = .error (.config e)) ↔ ∃ e, s.Fault e := by
  cases h with
  | faulty h => exact iff_of_true ⟨_, rfl⟩ ⟨_, h⟩
  | trusted hs _ => exact iff_of_false nofun (not_exists.2 hs)
  | reached hs _ _ => exact iff_of_false nofun (not_exists.2 hs)
  | refused hs _ _ _ => exact iff_of_false nofun (not_exists.2 hs)
  | brokenOff hs _ _ _ => exact iff_of_false nofun (not_exists.2 hs)

theorem fault (h : Readiness s ps result) {e : ConfigError} (he : result = .error (.config e)) : s.Fault e := by
  cases h with
  | faulty h =>
    cases he
    exact h
  | _ => cases he

theorem asked_or_unasked (h : Readiness s ps result) :
    (((∀ e, ¬ s.Fault e) ∧ s.verifyDaemon = true) ∧ AskedOnce s ps fun _ => True) ∨
      ¬ ((∀ e, ¬ s.Fault e) ∧ s.verifyDaemon = true) ∧ ps = [] := by
  cases h with
  | faulty h => exact .inr ⟨fun ⟨hs, _⟩ => hs _ h, rfl⟩
  | trusted _ hv => exact .inr ⟨fun ⟨_, hv'⟩ => Bool.false_ne_true (hv.symm.trans hv'), rfl⟩
  | reached hs hv hc => exact .inl ⟨⟨hs, hv⟩, _, _, rfl, hc, trivial⟩
  | refused hs hv hc _ => exact .inl ⟨⟨hs, hv⟩, _, _, rfl, hc, trivial⟩
  | brokenOff hs hv hc _ => exact .inl ⟨⟨hs, hv⟩, _, _, rfl, hc, trivial⟩

theorem unreachable_iff (h : Readiness s ps result) :
    (∃ url, result = .error (.unreachable url)) ↔ AskedOnce s ps ProbeAnswer.Refuses := by
  cases h with
  | faulty _ => exact iff_of_false nofun nofun
  | trusted _ _ => exact iff_of_false nofun nofun
  | reached _ _ _ => exact iff_of_false nofun (by rintro ⟨_, _, ⟨⟩, -, ⟨⟩⟩)
  | refused _ _ hc ha => exact iff_of_true ⟨_, rfl⟩ ⟨_, _, rfl, hc, ha⟩
  | brokenOff _ _ _ hf =>
    refine iff_of_false nofun ?_
    rintro ⟨_, _, ⟨⟩, -, ha⟩
    cases ha with
    | failed hf' => cases hf.symm.trans hf'

theorem ready_iff (h : Readiness s ps result) : result = .ok () ↔ (∀ e, ¬ s.Fault e) ∧
    (s.verifyDaemon = true → AskedOnce s ps (· = .answered)) := by
  cases h with
  | faulty h => exact iff_of_false nofun fun ⟨hs, _⟩ => hs _ h
  | trusted hs hv => exact iff_of_true rfl ⟨hs, fun hv' => absurd (hv.symm.trans hv') Bool.false_ne_true⟩
  | reached hs _ hc => exact iff_of_true rfl ⟨hs, fun _ => ⟨_, _, rfl, hc, rfl⟩⟩
  | refused _ hv _ ha =>
    refine iff_of_false nofun fun ⟨_, h⟩ => ?_
    obtain ⟨_, _, ⟨⟩, -, rfl⟩ := h hv
    cases ha
  | brokenOff _ hv _ _ =>
    refine iff_of_false nofun fun ⟨_, h⟩ => ?_
    obtain ⟨_, _, ⟨⟩, -, ⟨⟩⟩ := h hv

theorem brokenOff_iff (h : Readiness s ps result) (f : Failure) :
    result = .error (.failure f) ↔ f.isSystem = false ∧ AskedOnce s ps (· = .failed f) := by
  cases h with
  | faulty _ => exact iff_of_false nofun nofun
  | trusted _ _ => exact iff_of_false nofun nofun
  | reached _ _ _ => exact iff_of_false nofun (by rintro ⟨-, _, _, ⟨⟩, -, ⟨⟩⟩)
  | refused _ _ _ ha =>
    refine iff_of_false nofun ?_
    rintro ⟨hf, _, _, ⟨⟩, -, rfl⟩
    cases ha with
    | failed hf' => cases hf.symm.trans hf'
  | brokenOff _ _ hc hf =>
    constructor
    · rintro ⟨⟩
      exact ⟨hf, _, _, rfl, hc, rfl⟩
    · rintro ⟨-, _, _, ⟨⟩, -, ⟨⟩⟩
      rfl

theorem documented_iff (h : Readiness s ps result) : Documented result ↔ ∀ f, result ≠ .error (.failure f) := by
  cases h with
  | faulty _ => exact iff_of_true (.inr (.inl ⟨_, rfl⟩)) nofun
  | trusted _ _ => exact iff_of_true (.inl rfl) nofun
  | reached _ _ _ => exact iff_of_true (.inl rfl) nofun
  | refused _ _ _ _ => exact iff_of_true (.inr (.inr ⟨_, rfl⟩)) nofun
  | brokenOff _ _ _ _ => exact iff_of_false (by rintro (h | ⟨_, h⟩ | ⟨_, h⟩) <;> cases h) fun h => h _ rfl

end Readiness

/-- What a start-up comes to, what it asks the daemon and what it leaves, each with the exact condition for it. -/
structure Accounted (l : Launcher) (talk : List Exchange) (after : Launcher) (result : Except LaunchError Unit) :
    Prop where
  config_iff : (∃ e, result = .error (.config e)) ↔ ∃ e, l.settings.Fault e
  fault : ∀ {e}, result = .error (.config e) → l.settings.Fault e
  /-- The daemon is asked if there is no fault and it is to be asked, and otherwise it is not. -/
  asked_or_unasked : (((∀ e, ¬ l.settings.Fault e) ∧ l.settings.verifyDaemon = true) ∧
    AskedOnce l.settings (probes talk) fun _ => True) ∨
      ¬ ((∀ e, ¬ l.settings.Fault e) ∧ l.settings.verifyDaemon = true) ∧ probes talk = []
  unreachable_iff : (∃ url, result = .error (.unreachable url)) ↔
    AskedOnce l.settings (probes talk) ProbeAnswer.Refuses
  ready_iff : result = .ok () ↔ (∀ e, ¬ l.settings.Fault e) ∧
    (l.settings.verifyDaemon = true → AskedOnce l.settings (probes talk) (· = .answered))
  /-- Nothing else is raised but a failure of the probe that is not the system's. -/
  documented_iff : Documented result ↔ ∀ f, result ≠ .error (.failure f)
  brokenOff_iff : ∀ f, result = .error (.failure f) ↔
    f.isSystem = false ∧ AskedOnce l.settings (probes talk) (· = .failed f)
  installs : result = .ok () → ∃ p, after = l.install p
  keeps : ∀ {e}, result = .error e → after = l

theorem accounted_of_readiness {l after : Launcher} {talk : List Exchange} {result : Except LaunchError Unit}
    (h : Readiness l.settings (probes talk) result) (hok : result = .ok () → ∃ p, after = l.install p)
    (herror : ∀ {e}, result = .error e → after = l) : Accounted l talk after result where
  config_iff := h.config_iff
  fault := h.fault
  asked_or_unasked := h.asked_or_unasked
  unreachable_iff := h.unreachable_iff
  ready_iff := h.ready_iff
  documented_iff := h.documented_iff
  brokenOff_iff := h.brokenOff_iff
  installs := hok
  keeps := herror

/-- Whatever a launcher's settings are and whatever the probe comes to. -/
theorem accounted_startUp (o : Oracle) (past : List Exchange) (l : Launcher) : ∃ talk after result,
    ((l.startUp : Procedure Empty _).run o.answer).run past = (.ok (after, result), past ++ talk) ∧
      Accounted l talk after result := by
  obtain ⟨r, talk, hrun, hgoes⟩ := goes_run o (l.startUp : Procedure Empty _) past
  cases r with
  | error e => cases e
  | ok ended =>
    obtain ⟨after, result⟩ := ended
    refine ⟨talk, after, result, hrun, ?_⟩
    obtain ⟨p, hp, rfl, rfl⟩ | ⟨e, he, rfl, rfl⟩ := goes_startUp_iff.1 hgoes
    · exact accounted_of_readiness (Launcher.readiness_of_goes hp) (fun _ => ⟨p, rfl⟩) nofun
    · exact accounted_of_readiness (Launcher.readiness_of_goes he) nofun fun _ => rfl

/-! ## A URL that cannot be put on a command line -/

/-- What is said to a launcher whose probe breaks off. -/
def Oracle.unaskable (f : Failure) : Oracle
  | _, .log _ => ()
  | _, .probe .. => .failed f
  | _, .isActive _ => .error f
  | _, .invoke _ => .error f
  | _, .report .. => .error f
  | _, .subscribe .. => .error f
  | _, .spawn _ => .error f
  | _, .act a => (Cleanup.Roster.perform {} a).reply

/-- The daemon's URL holds a NUL, which no argument can hold: the start-up fails with that, and with nothing that it
is said to fail with. -/
theorem not_documented_unaskable :
    let l : Launcher :=
      { settings := Settings.resolve { dockerUrl := some "tcp://h\x00", verifyDaemon := some true } [] }
    let f : Failure := ⟨.badValue, "embedded null byte"⟩
    (((l.startUp : Procedure Empty _).run (Oracle.unaskable f).answer).run []).1 = .ok (l, .error (.failure f)) ∧
      ¬ ∀ (o : Oracle) (past talk : List Exchange) (l after : Launcher) (result : Except LaunchError Unit),
        ((l.startUp : Procedure Empty _).run o.answer).run past = (.ok (after, result), talk) → Documented result := by
  intro l f
  have h : (((l.startUp : Procedure Empty _).run (Oracle.unaskable f).answer).run []).1 =
      .ok (l, .error (.failure f)) := by decide +kernel
  refine ⟨h, fun hall => ?_⟩
  have hd := hall (Oracle.unaskable f) [] _ l l (.error (.failure f)) (Prod.ext h rfl)
  rcases hd with hd | ⟨_, hd⟩ | ⟨_, hd⟩ <;> cases hd

end Launch

end ContainerLaunch
