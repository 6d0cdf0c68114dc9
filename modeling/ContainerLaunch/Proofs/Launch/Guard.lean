import ContainerLaunch.Proofs.Launch.StartUp
/-!
# Nothing is launched before a start-up went well

A `history` is what is done with one launcher, one call after the other, with settings changed in between; an
oracle answers all its questions. `guarded_history` says what each call of it has to do with the calls before it:
a launch only asks with a pipeline that the latest start-up that went well made, and one that goes wrong changes
nothing and asks nothing more.
-/

namespace ContainerLaunch.Launch

open Cleanup
open Procedure

/-- A start-up went well, in the course of the call, and made a pipeline. -/
structure Episode.Equips (e : Episode) (talk : List Exchange) (p : Pipeline) : Prop where
  call : e.call = .startUp ∨ ∃ r, e.call = .launch r ∧ e.before.pipeline? = none
  meanwhile : talk <+: e.talk
  startedUp : StartedUp e.before talk p
  after : e.after = e.before.install p

/-- The latest of the start-ups that went well made this pipeline. -/
def Equipped (earlier : List Episode) (p : Pipeline) : Prop :=
  ∃ older e newer talk, earlier = older ++ e :: newer ∧ e.Equips talk p ∧
    ∀ n ∈ newer, n.after.startUps = n.before.startUps

/-- What a call has to do with the calls before it. -/
structure GuardedBy (earlier : List Episode) (e : Episode) : Prop where
  equipped : ∀ {p}, e.before.pipeline? = some p → Equipped earlier p
  lasts : e.before.pipeline?.isSome → e.after.pipeline?.isSome
  /-- Launches ask with the pipeline that there is, or with the one that they have just got. -/
  launches : ∀ {first x rest}, e.talk = first ++ x :: rest → x.question.isOfLaunch = true →
    ∃ r p, e.call = .launch r ∧ x.question.BelongsTo p e.before.settings r ∧
      (e.before.pipeline? = some p ∨ ∃ talk, talk <+: first ∧ e.Equips talk p)
  keeps : ∀ {err}, e.call = .startUp → e.result = .error err → e.after = e.before
  /-- A launch without a pipeline starts up first, and does no more if that goes wrong. -/
  startsUp : ∀ {r}, e.call = .launch r → e.before.pipeline? = none → ∃ talk rest up, e.talk = talk ++ rest ∧
    (e.before.startUp : Procedure Empty _).Goes talk (.ok (e.after, up)) ∧
    (∀ x ∈ talk, x.question.isOfLaunch = false) ∧
    ∀ err, up = .error err → rest = [] ∧ e.after = e.before ∧ e.result = .error err
  /-- A launch with a pipeline neither probes nor minds whether the settings are valid. -/
  goesOn : ∀ {r p}, e.call = .launch r → e.before.pipeline? = some p → e.after = e.before ∧
    (∀ x ∈ e.talk, x.question.BelongsTo p e.before.settings r) ∧
    (∀ err, e.result = .error err → (∃ i, err = .image i) ∨ ∃ f, err = .failure f) ∧
    ∀ l : Launcher, l.pipeline? = some p → l.settings.dockerUrl = e.before.settings.dockerUrl →
      l.settings.helperPath = e.before.settings.helperPath →
      ((Call.launch r).procedure l).Goes e.talk (.ok (l, e.result))

/-- Every call has to do with the calls before it what it should. -/
def Guarded (episodes : List Episode) : Prop :=
  ∀ earlier e later, episodes = earlier ++ e :: later → GuardedBy earlier e

section Guarded
variable {earlier : List Episode} {e : Episode} {p : Pipeline}

theorem Equipped.append (h : Equipped earlier p) (he : e.after.startUps = e.before.startUps) :
    Equipped (earlier ++ [e]) p := by
  obtain ⟨older, s, newer, talk, rfl, hs, hnewer⟩ := h
  refine ⟨older, s, newer ++ [e], talk, by simp, hs, fun n hn => ?_⟩
  rcases List.mem_append.1 hn with hn | hn
  · exact hnewer n hn
  · cases List.mem_singleton.1 hn
    exact he

theorem Episode.Equips.equipped {talk : List Exchange} {p' : Pipeline} (h : e.Equips talk p)
    (hp : e.after.pipeline? = some p') : Equipped (earlier ++ [e]) p' := by
  rw [h.after] at hp
  cases hp
  exact ⟨earlier, e, [], talk, rfl, h, fun _ hn => nomatch hn⟩

/-- What a call leaves is equipped if what it found is. -/
theorem equipped_after (hc : Course e)
    (he : ∀ {p}, e.before.pipeline? = some p → Equipped earlier p) (hp : e.after.pipeline? = some p) :
    Equipped (earlier ++ [e]) p := by
  cases hc with
  | assigned => exact (he hp).append rfl
  | startedUp h =>
    exact Episode.Equips.equipped ⟨.inl rfl, List.prefix_rfl, Launcher.startedUp_of_goes h, rfl⟩ hp
  | refused _ => exact (he hp).append rfl
  | launched _ _ => exact (he hp).append rfl
  | launchedFirst hnone hs _ =>
    exact Episode.Equips.equipped
      ⟨.inr ⟨_, rfl, hnone⟩, List.prefix_append _ _, Launcher.startedUp_of_goes hs, rfl⟩ hp
  | refusedFirst _ _ => exact (he hp).append rfl

theorem launches_of_course (hc : Course e) {first rest : List Exchange}
    {x : Exchange} (ht : e.talk = first ++ x :: rest) (hx : x.question.isOfLaunch = true) :
    ∃ r p, e.call = .launch r ∧ x.question.BelongsTo p e.before.settings r ∧
      (e.before.pipeline? = some p ∨ ∃ talk, talk <+: first ∧ e.Equips talk p) := by
  have hmem : x ∈ e.talk := ht ▸ List.mem_append_right first List.mem_cons_self
  have hnot {talk} {result} (h : e.before.prepare.Goes talk result) (hmem : x ∈ talk) : False := by
    rw [Launcher.not_isOfLaunch_of_goes h x hmem] at hx
    cases hx
  cases hc with
  | assigned => cases hmem
  | startedUp h => exact (hnot h hmem).elim
  | refused h => exact (hnot h hmem).elim
  | refusedFirst _ h => exact (hnot h hmem).elim
  | launched hp h => exact ⟨_, _, rfl, Pipeline.belongsTo_of_goes h x hmem, .inl hp⟩
  | @launchedFirst l asked told p r _ hnone hs h =>
    have hx : x ∈ told := (List.mem_append.1 hmem).resolve_left (hnot hs)
    -- The start-up did not ask this, so it was over by then.
    have hbefore : asked <+: first := by
      obtain ⟨more, rfl, -⟩ | ⟨more, rfl, hmore⟩ := List.append_eq_append_iff.1 ht
      · exact List.prefix_append _ _
      · cases more with
        | nil => simp
        | cons y more =>
          cases hmore
          exact (hnot hs (by simp)).elim
    exact ⟨r, p, rfl, Pipeline.belongsTo_of_goes h x hx, .inr ⟨asked, hbefore, .inr ⟨r, rfl, hnone⟩,
      List.prefix_append _ _, Launcher.startedUp_of_goes hs, rfl⟩⟩

theorem startsUp_of_course (hc : Course e) {r : Request}
    (hr : e.call = .launch r) (hnone : e.before.pipeline? = none) :
    ∃ talk rest up, e.talk = talk ++ rest ∧
      (e.before.startUp : Procedure Empty _).Goes talk (.ok (e.after, up)) ∧
      (∀ x ∈ talk, x.question.isOfLaunch = false) ∧
      ∀ err, up = .error err → rest = [] ∧ e.after = e.before ∧ e.result = .error err := by
  cases hc with
  | assigned => cases hr
  | startedUp _ => cases hr
  | refused _ => cases hr
  | launched hp _ => cases hnone.symm.trans hp
  | @launchedFirst _ talk rest p _ _ _ hs h =>
    exact ⟨talk, rest, .ok (), rfl, goes_startUp_iff.2 (.inl ⟨p, hs, rfl, rfl⟩),
      Launcher.not_isOfLaunch_of_goes hs, fun _ he => nomatch he⟩
  | @refusedFirst _ talk _ _ _ h =>
    refine ⟨talk, [], _, (List.append_nil talk).symm, goes_startUp_iff.2 (.inr ⟨_, h, rfl, rfl⟩),
      Launcher.not_isOfLaunch_of_goes h, fun err he => ?_⟩
    cases he
    exact ⟨rfl, rfl, rfl⟩

theorem goesOn_of_course (hc : Course e) {r : Request}
    (hr : e.call = .launch r) (hp : e.before.pipeline? = some p) :
    e.after = e.before ∧ (∀ x ∈ e.talk, x.question.BelongsTo p e.before.settings r) ∧
      (∀ err, e.result = .error err → (∃ i, err = .image i) ∨ ∃ f, err = .failure f) ∧
      ∀ l : Launcher, l.pipeline? = some p → l.settings.dockerUrl = e.before.settings.dockerUrl →
        l.settings.helperPath = e.before.settings.helperPath →
        ((Call.launch r).procedure l).Goes e.talk (.ok (l, e.result)) := by
  cases hc with
  | assigned => cases hr
  | startedUp _ => cases hr
  | refused _ => cases hr
  | launchedFirst hnone _ _ => cases hnone.symm.trans hp
  | refusedFirst hnone _ => cases hnone.symm.trans hp
  | @launched _ _ _ _ outcome hp' h =>
    cases hr
    cases hp.symm.trans hp'
    refine ⟨rfl, Pipeline.belongsTo_of_goes h, fun err he => ?_, fun l hl hurl hhelper => ?_⟩
    · cases outcome with
      | ok _ => cases he
      | error err =>
        cases he
        exact Pipeline.error_of_goes h
    · rw [← Pipeline.launch_congr hurl hhelper] at h
      exact (goes_launch_iff hl).2 ⟨rfl, outcome, rfl, h⟩

theorem guardedBy_of_course (hc : Course e)
    (he : ∀ {p}, e.before.pipeline? = some p → Equipped earlier p) : GuardedBy earlier e where
  equipped := he
  lasts := by
    cases hc with
    | startedUp _ => exact fun _ => rfl
    | launchedFirst _ _ _ => exact fun _ => rfl
    | assigned => exact id
    | refused _ => exact id
    | launched _ _ => exact id
    | refusedFirst _ _ => exact id
  launches := launches_of_course hc
  keeps {err} hcall hresult := by
    cases hc with
    | startedUp _ => cases hresult
    | refused _ => rfl
    | assigned => cases hcall
    | launched _ _ => cases hcall
    | launchedFirst _ _ _ => cases hcall
    | refusedFirst _ _ => cases hcall
  startsUp := startsUp_of_course hc
  goesOn := goesOn_of_course hc

end Guarded

/-! ## Histories -/

/-- What comes of a call after what was said `past`. -/
def episode (o : Oracle) (past : List Exchange) (l : Launcher) (c : Call) : Episode :=
  match ((c.procedure l).run o.answer).run past with
  | (.ok (after, result), told) => ⟨c, l, told.drop past.length, after, result⟩

/-- What comes of calls, one after the other. -/
def history (o : Oracle) (past : List Exchange) (l : Launcher) : List Call → List Episode
  | [] => []
  | c :: calls =>
    let e := episode o past l c
    e :: history o (past ++ e.talk) e.after calls

theorem before_episode (o : Oracle) (past : List Exchange) (l : Launcher) (c : Call) :
    (episode o past l c).before = l := by
  unfold episode
  split
  rfl

theorem course_episode (o : Oracle) (past : List Exchange) (l : Launcher) (c : Call) :
    Course (episode o past l c) := by
  obtain ⟨r, talk, hrun, hgoes⟩ := goes_run o (c.procedure l) past
  cases r with
  | error e => cases e
  | ok ended =>
    unfold episode
    rw [hrun]
    simpa using course_of_goes hgoes

theorem guardedBy_of_equipped (o : Oracle) {past : List Exchange} {l : Launcher} (older : List Episode)
    (hl : ∀ {p}, l.pipeline? = some p → Equipped older p) {calls : List Call} {earlier later : List Episode}
    {e : Episode} (h : history o past l calls = earlier ++ e :: later) : GuardedBy (older ++ earlier) e := by
  induction calls generalizing past l older earlier with
  | nil => simp [history] at h
  | cons c calls ih =>
    have hc := course_episode o past l c
    have hbefore {p} (hp : (episode o past l c).before.pipeline? = some p) : Equipped older p :=
      hl (before_episode o past l c ▸ hp)
    cases earlier with
    | nil =>
      obtain ⟨rfl, -⟩ := List.cons.inj h
      rw [List.append_nil]
      exact guardedBy_of_course hc hbefore
    | cons first earlier =>
      obtain ⟨rfl, hlater⟩ := List.cons.inj h
      rw [List.append_cons]
      exact ih _ (equipped_after hc hbefore) hlater

/-- Whatever is done with a launcher, and whatever it is answered: nothing is asked on behalf of a launch unless a
start-up went well first. -/
theorem guarded_history (o : Oracle) (settings : Settings) (hasSource : Bool) (calls : List Call) :
    Guarded (history o [] { settings, hasSource } calls) :=
  fun _ _ _ h => guardedBy_of_equipped o [] (fun hp => by cases hp) h

end ContainerLaunch.Launch
