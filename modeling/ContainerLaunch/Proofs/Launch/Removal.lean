import ContainerLaunch.Proofs.Cleanup.Watcher
import ContainerLaunch.Proofs.Launch.Assurance
import ContainerLaunch.Rehearsal.Launch
/-!
# Whether a created container is removed

The helper may answer a call in any way, and so may the source of notices; meanwhile others act on the roster
as they like. A launch that has created its container calls for its removal if and only if its start came
back with a result (`assures_settled`). If the subscription or the start breaks off, then so does the
launch, and its watcher, which is closed on the way or never gets to listen, does not hear of the container any more.
-/

namespace ContainerLaunch.Launch

open Cleanup
open Procedure

/-- What a launch has done: its calls, the latest first, and the watchers that it put on the roster. -/
structure Doing where
  roster : Roster
  calls : List (Helper.Order × Except Failure Helper.Result) := []
  watchers : List Ticket := []

namespace Doing

/-- The watcher that an action takes up. -/
def enrolled : (a : Roster.Action) → a.Reply → List Ticket
  | .enrol .., t => [t]
  | _, _ => []

/-- Others act on the roster. -/
def Drifts (x y : Doing) : Prop :=
  ∃ actions : List Roster.Action,
    y = { x with roster := actions.foldl (fun r a => (r.perform a).roster) x.roster }

/-- All answers are possible, but those of the roster. -/
def Answers (x : Doing) : (q : Question) → q.Answer → Doing → Prop
  | .invoke o, answer, y => y = { x with calls := (o, answer) :: x.calls }
  | .act a, reply, y => reply = (x.roster.perform a).reply ∧
      y = { x with roster := (x.roster.perform a).roster, watchers := enrolled a reply ++ x.watchers }
  | _, _, y => y = x

/-- Others act on the roster at any time, and the helper and the source of notices answer as they like. -/
def surroundings : Surroundings Doing where
  drift := Drifts
  answers := Answers
  refl := fun _ => ⟨[], rfl⟩
  trans := by
    rintro x y z ⟨actions, rfl⟩ ⟨actions', rfl⟩
    exact ⟨actions ++ actions', by rw [List.foldl_append]⟩

/-- The calls so far, and the watcher of the launch, which may have gone deaf. -/
structure At (calls : List (Helper.Order × Except Failure Helper.Result)) (t? : Option Ticket)
    (deaf : Bool) (x : Doing) : Prop where
  calls : x.calls = calls
  watchers : x.watchers = t?.toList
  watcher : ∀ t, t? = some t → ∃ w, x.roster.watcher? t = some w ∧ (deaf = true → w.Deaf)

section At
variable {ε α : Type} {calls : List (Helper.Order × Except Failure Helper.Result)} {t : Ticket}
  {t? : Option Ticket} {deaf : Bool} {x y : Doing}

theorem At.perform (hx : At calls t? deaf x) (a : Roster.Action) :
    At calls t? deaf { x with roster := (x.roster.perform a).roster } where
  calls := hx.calls
  watchers := hx.watchers
  watcher := fun t ht => by
    obtain ⟨w, hw, hs⟩ := hx.watcher t ht
    obtain ⟨w', hw', hs'⟩ := Roster.exists_deaf_perform a hw
    exact ⟨w', hw', fun hc => hs' (hs hc)⟩

theorem At.drift (hx : At calls t? deaf x) (hxy : Drifts x y) : At calls t? deaf y := by
  obtain ⟨actions, rfl⟩ := hxy
  induction actions generalizing x with
  | nil => exact hx
  | cons a actions ih => exact ih (hx.perform a)

theorem At.assures_logs {next : Unit → Procedure ε α} {post : Except ε α → Doing → Prop}
    (records : List LogRecord) (hx : At calls t? deaf x)
    (h : ∀ y, At calls t? deaf y → Assures surroundings (next ()) post y) :
    Assures surroundings (logs records >>= next) post x := by
  induction records generalizing x with
  | nil => exact h x hx
  | cons record records ih =>
    rintro y hy a z rfl
    exact ih (hx.drift hy)

theorem At.assures_act {a : Roster.Action} (ha : ∀ reply, enrolled a reply = [])
    {next : a.Reply → Procedure ε α} {post : Except ε α → Doing → Prop} (hx : At calls t? deaf x)
    (h : ∀ reply y, At calls t? deaf y → Assures surroundings (next reply) post y) :
    Assures surroundings (act a >>= next) post x := by
  rintro y hy reply z ⟨-, rfl⟩
  have hz := (hx.drift hy).perform a
  refine h reply _ ⟨hz.calls, ?_, hz.watcher⟩
  show enrolled a reply ++ y.watchers = _
  rw [ha reply]
  exact hz.watchers

theorem At.assures_enrol {id : String} {source : Source} {next : Ticket → Procedure ε α}
    {post : Except ε α → Doing → Prop} (hx : At calls none deaf x)
    (h : ∀ t y, At calls (some t) false y → Assures surroundings (next t) post y) :
    Assures surroundings (act (.enrol id source) >>= next) post x := by
  rintro y hy reply z ⟨rfl, rfl⟩
  have hy := hx.drift hy
  refine h _ _ ⟨hy.calls, congrArg ([y.roster.watchers.length] ++ ·) hy.watchers, ?_⟩
  rintro t ⟨⟩
  exact ⟨_, List.getElem?_concat_length, nofun⟩

theorem At.assures_close {next : Unit → Procedure ε α} {post : Except ε α → Doing → Prop}
    (hx : At calls (some t) deaf x)
    (h : ∀ y, At calls (some t) true y → Assures surroundings (next ()) post y) :
    Assures surroundings (act (.close t) >>= next) post x := by
  rintro y hy reply z ⟨-, rfl⟩
  have hy := hx.drift hy
  obtain ⟨w, hw, -⟩ := hy.watcher t rfl
  refine h _ ⟨hy.calls, hy.watchers, ?_⟩
  rintro t' ⟨⟩
  exact ⟨w.close, Roster.watcher?_modify_self hw, fun _ => .inl rfl⟩

theorem At.assures_carryOut {o : Helper.Order} {next : Helper.Result → Procedure Failure α}
    {post : Except Failure α → Doing → Prop} (hx : At calls t? deaf x)
    (hok : ∀ r y, At ((o, .ok r) :: calls) t? deaf y → Assures surroundings (next (o.settle r)) post y)
    (herror : ∀ f y, At ((o, .error f) :: calls) t? deaf y → post (.error f) y) :
    Assures surroundings (carryOut o >>= next) post x := by
  unfold carryOut
  rw [bind_assoc]
  refine hx.assures_logs _ fun y hy => ?_
  rintro z hz answer z' rfl
  have hz := hy.drift hz
  have hz' : At ((o, answer) :: calls) t? deaf { z with calls := (o, answer) :: z.calls } :=
    ⟨congrArg ((o, answer) :: ·) hz.calls, hz.watchers, hz.watcher⟩
  cases answer with
  | error f => exact fun w hw => herror f w (hz'.drift hw)
  | ok r =>
    show Assures surroundings ((logs _ >>= fun _ => .done (o.settle r)) >>= next) post _
    rw [bind_assoc]
    exact hz'.assures_logs _ fun w hw => hok r w hw

theorem At.assures_register {t' : Ticket} (hx : At calls t? deaf x) :
    Assures surroundings (Watch.register t' : Procedure ε Unit)
      (fun result y => result = .ok () ∧ At calls t? deaf y) x := by
  refine hx.assures_act (fun _ => rfl) fun displaced? y hy => ?_
  cases displaced? with
  | none => exact fun z hz => ⟨rfl, hy.drift hz⟩
  | some displaced => exact hy.assures_act (fun _ => rfl) fun _ z hz w hw => ⟨rfl, hz.drift hw⟩

theorem At.assures_leave {next : Unit → Procedure ε α} {post : Except ε α → Doing → Prop}
    (hx : At calls (some t) deaf x)
    (h : ∀ y, At calls (some t) true y → Assures surroundings (next ()) post y) :
    Assures surroundings (act (.leave t) >>= next) post x := by
  rintro y hy reply z ⟨-, rfl⟩
  have hy := hx.drift hy
  obtain ⟨w, hw, -⟩ := hy.watcher t rfl
  refine h _ ⟨hy.calls, hy.watchers, ?_⟩
  rintro t' ⟨⟩
  exact ⟨w.leave, Roster.watcher?_modify_self hw, fun _ => .inr rfl⟩

/-- A watcher whose listener cannot be started hears nothing. -/
theorem At.assures_listen {id : String} {next : Unit → Procedure Failure α} {post : Except Failure α → Doing → Prop}
    (hx : At calls (some t) deaf x)
    (hok : ∀ y, At calls (some t) deaf y → Assures surroundings (next ()) post y)
    (herror : ∀ f y, At calls (some t) true y → post (.error f) y) :
    Assures surroundings (Watch.listen t id >>= next) post x := by
  rintro y hy answer z rfl
  have hy := hx.drift hy
  cases answer with
  | ok _ => exact hy.assures_act (fun _ => rfl) fun _ w hw => hok w hw
  | error f => exact hy.assures_leave fun w hw v hv => herror f v (hw.drift hv)

theorem At.assures_begin {id : String} {source : Source} {next : Ticket → Procedure Failure α}
    {post : Except Failure α → Doing → Prop} (hx : At calls none deaf x)
    (hok : ∀ t y, At calls (some t) false y → Assures surroundings (next t) post y)
    (herror : ∀ f t y, At calls (some t) true y → post (.error f) y) :
    Assures surroundings (Watch.begin id source >>= next) post x := by
  show Assures surroundings (act (.enrol id source) >>= fun (t : Ticket) =>
    (Watch.register t >>= fun _ => Watch.listen t id >>= fun _ => .done t) >>= next) post x
  refine hx.assures_enrol fun t y hy => ?_
  rw [bind_assoc]
  refine assures_bind.2 (hy.assures_register.mono ?_)
  rintro _ z ⟨rfl, hz⟩
  dsimp only
  rw [bind_assoc]
  exact hz.assures_listen (fun w hw => hok t w hw) fun f w hw => herror f t w hw

theorem At.assures_subscribe {origin : Watch.Origin} {url : String} {removal : Helper.Order}
    {next : Option Ticket → Procedure Failure α} {post : Except Failure α → Doing → Prop}
    (hx : At calls none false x)
    (hok : ∀ t? y, At calls t? false y → Assures surroundings (next t?) post y)
    (herror : ∀ f t? y, At calls t? true y → post (.error f) y) :
    Assures surroundings (Watch.subscribe origin url removal >>= next) post x := by
  unfold Watch.subscribe
  dsimp only
  split
  · exact hok none x hx
  · split
    · rw [bind_assoc]
      exact hx.assures_logs _ fun y hy => hok none y hy
    · rintro y hy answer z rfl
      have hy := hx.drift hy
      cases answer with
      | ok source =>
        show Assures surroundings ((Watch.begin _ source >>= fun t => .done (some t)) >>= next) post _
        rw [bind_assoc]
        exact hy.assures_begin (fun t z hz => hok (some t) z hz) fun f t z hz => herror f (some t) z hz
      | error f =>
        show Assures surroundings ((if f.isOrdinary then (logs _ >>= fun _ => .done none) else .fail f) >>=
          next) post _
        split
        · rw [bind_assoc]
          exact hy.assures_logs _ fun z hz => hok none z hz
        · intro z hz
          have hz := hy.drift hz
          exact herror f none z ⟨hz.calls, hz.watchers, nofun⟩

theorem At.assures_release {id : String} {next : Unit → Procedure ε α} {post : Except ε α → Doing → Prop}
    (hx : At calls t? deaf x)
    (h : ∀ y, At calls t? true y → Assures surroundings (next ()) post y) :
    Assures surroundings (Watch.release id t? >>= next) post x := by
  cases t? with
  | none => exact h x ⟨hx.calls, hx.watchers, nofun⟩
  | some t => exact hx.assures_act (fun _ => rfl) fun _ y hy => hy.assures_close h

theorem At.assures_markRemoved {next : Unit → Procedure ε α} {post : Except ε α → Doing → Prop}
    (hx : At calls t? deaf x)
    (h : ∀ y, At calls t? deaf y → Assures surroundings (next ()) post y) :
    Assures surroundings (Watch.markRemoved t? >>= next) post x := by
  cases t? with
  | none => exact h x hx
  | some t => exact hx.assures_act (fun _ => rfl) fun _ y hy => h y hy

end At

/-! ## The course of the calls -/

/-- The calls after a container was created, and what came of them. -/
inductive Followed (order : Helper.Task → Helper.Order) {α : Type} :
    Except Failure α → List (Helper.Order × Except Failure Helper.Result) → Prop where
  | unstarted (f : Failure) : Followed order (.error f) [(order .start, .error f)]
  | started (result : Except Failure α) (r : Helper.Result) (answer : Except Failure Helper.Result) :
    Followed order result [(order .remove, answer), (order .start, .ok r)]

theorem Followed.map {order : Helper.Task → Helper.Order} {α β : Type} {result : Except Failure α}
    {result' : Except Failure β} {more : List (Helper.Order × Except Failure Helper.Result)}
    (h : Followed order result more) (hr : ∀ f, result = .error f → result' = .error f) :
    Followed order result' more := by
  cases h with
  | unstarted f => exact hr f rfl ▸ .unstarted f
  | started _ r answer => exact .started result' r answer

theorem At.assures_startAndRemove {calls : List (Helper.Order × Except Failure Helper.Result)}
    {t? : Option Ticket} {x : Doing} (order : Helper.Task → Helper.Order) (hx : At calls t? false x) :
    Assures surroundings (startAndRemove order t?)
      (fun result y => ∃ more, Followed order result more ∧ At (more ++ calls) t? false y) x := by
  refine hx.assures_carryOut (fun r y hy => ?_) fun f y hy => ⟨_, .unstarted f, hy⟩
  -- From here on the removal is called for, whatever the start came to.
  refine hy.assures_carryOut (fun r' z hz => ?_) fun f z hz => ⟨_, .started _ r (.error f), hz⟩
  have hdone : ∀ z result, At ((order .remove, .ok r') :: (order .start, .ok r) :: calls) t? false z →
      Assures surroundings (.done result : Procedure Failure (Helper.Result × Helper.Result))
        (fun result y => ∃ more, Followed order result more ∧ At (more ++ calls) t? false y) z :=
    fun z result hz w hw => ⟨_, .started _ r (.ok r'), hz.drift hw⟩
  show Assures surroundings (if _ then Watch.markRemoved t? >>= fun _ => .done _ else .done _) _ z
  split
  · exact hz.assures_markRemoved fun w hw => hdone w _ hw
  · exact hdone z _ hz

/-- How a launch can end. Unless it never got so far, its watcher has gone deaf. -/
inductive Ended (order : Helper.Task → Helper.Order) (x : Doing) : Except Failure Helper.Result → Prop where
  | uncreated {result answer} (hx : At [(order .create, answer)] none true x)
    (ha : ∀ r, answer = .ok r → ¬ r.Succeeds) : Ended order x result
  | unsubscribed {r t?} (f : Failure) (hx : At [(order .create, .ok r)] t? true x) : Ended order x (.error f)
  | followed {result r more t?} (hf : Followed order result more)
    (hx : At (more ++ [(order .create, .ok r)]) t? true x) : Ended order x result

theorem At.assures_createStartRemove {x : Doing} {order : Helper.Task → Helper.Order}
    (ho : (order .create).task = .create) (origin : Watch.Origin) (url containerId : String)
    (hx : At [] none false x) :
    Assures surroundings (createStartRemove origin url containerId order)
      (fun result y => Ended order y result) x := by
  have hopen {calls : List (Helper.Order × Except Failure Helper.Result)} {y : Doing}
      (hy : At calls none false y) : At calls none true y := ⟨hy.calls, hy.watchers, nofun⟩
  refine hx.assures_carryOut (fun r y hy => ?_) fun f y hy => .uncreated (hopen hy) nofun
  have hsettle : (order .create).settle r = r := by rw [Helper.Order.settle, ho]
  rw [hsettle]
  by_cases hr : r.succeeded
  · simp only [hr, Bool.not_true, Bool.false_eq_true, if_false]
    refine hy.assures_logs _ fun y hy => ?_
    refine hy.assures_subscribe (fun t? z hz => ?_) fun f t? z hz => .unsubscribed f hz
    unfold ensuring
    rw [bind_assoc]
    refine assures_bind.2 (assures_attempt.2 ((hz.assures_startAndRemove order).mono ?_))
    rintro result w ⟨more, hf, hw⟩
    dsimp only
    rw [bind_assoc]
    refine hw.assures_release fun w hw => ?_
    cases result with
    | error f => exact fun v hv => .followed (hf.map fun _ h => congrArg _ (Except.error.inj h)) (hw.drift hv)
    | ok results =>
      refine hw.assures_logs _ fun v hv u hu => .followed (hf.map ?_) (hv.drift hu)
      exact nofun
  · simp only [hr, Bool.not_false, if_true]
    refine fun z hz => .uncreated (hopen (hy.drift hz)) ?_
    rintro r' ⟨⟩
    rwa [← Helper.Result.succeeded_iff]

/-! ## What has become of the container -/

/-- The helper has created the container. -/
def Created (order : Helper.Task → Helper.Order) (x : Doing) : Prop :=
  ∃ r, (order .create, .ok r) ∈ x.calls ∧ r.Succeeds

/-- The call for the start came back with a result. -/
def Started (order : Helper.Task → Helper.Order) (x : Doing) : Prop := ∃ r, (order .start, .ok r) ∈ x.calls

/-- The launch called for the removal after it had called for the container to be created. -/
def Removes (order : Helper.Task → Helper.Order) (x : Doing) : Prop :=
  ∃ later answer earlier created, x.calls = later ++ (order .remove, answer) :: earlier ∧
    (order .create, created) ∈ earlier

/-- A launch that has created its container calls for its removal if and only if its start came back, and
always if it ends with a result. In any case its watchers hear nothing any more. -/
structure Settled (order : Helper.Task → Helper.Order) (x : Doing)
    (result : Except Failure Helper.Result) : Prop where
  removes_iff : x.Created order → (x.Removes order ↔ x.Started order)
  removes_of_ok : x.Created order → ∀ r, result = .ok r → x.Removes order
  deaf : ∀ t ∈ x.watchers, ∀ s, (x.roster.perform (.hear t s)).reply = none

section Settled
variable {order : Helper.Task → Helper.Order} {x : Doing} {result : Except Failure Helper.Result}

theorem At.deaf {calls : List (Helper.Order × Except Failure Helper.Result)} {t? : Option Ticket}
    (hx : At calls t? true x) : ∀ t ∈ x.watchers, ∀ s, (x.roster.perform (.hear t s)).reply = none := by
  intro t ht s
  rw [hx.watchers] at ht
  obtain ⟨w, hw, hs⟩ := hx.watcher t (Option.mem_toList.1 ht)
  exact Roster.reply_hear_of_deaf hw (hs rfl) s

theorem Removes.mem (h : x.Removes order) : ∃ answer, (order .remove, answer) ∈ x.calls := by
  obtain ⟨later, answer, earlier, _, hcalls, -⟩ := h
  exact ⟨answer, by simp [hcalls]⟩

theorem Ended.settled (ho : ∀ task, (order task).task = task) (h : Ended order x result) :
    Settled order x result := by
  -- The orders are told apart by their tasks, whatever is on their command lines.
  have hne {task task' : Helper.Task} (h : task ≠ task') : order task ≠ order task' :=
    fun he => h ((ho task).symm.trans ((congrArg Helper.Order.task he).trans (ho task')))
  have hrc : order .remove ≠ order .create := hne nofun
  have hrs : order .remove ≠ order .start := hne nofun
  have hsc : order .start ≠ order .create := hne nofun
  cases h with
  | uncreated hx ha =>
    have hnot : ¬ x.Created order := by
      rintro ⟨r, hr, hs⟩
      rw [hx.calls, List.mem_singleton] at hr
      exact ha r (Prod.mk.inj hr).2.symm hs
    exact ⟨fun h => absurd h hnot, fun h => absurd h hnot, hx.deaf⟩
  | unsubscribed f hx =>
    refine ⟨fun _ => iff_of_false (fun h => ?_) fun h => ?_, fun _ => nofun, hx.deaf⟩
    · obtain ⟨answer, h⟩ := h.mem
      simp [hx.calls, hrc] at h
    · obtain ⟨r, h⟩ := h
      simp [hx.calls, hsc] at h
  | followed hf hx => cases hf with
    | unstarted f =>
      refine ⟨fun _ => iff_of_false (fun h => ?_) fun h => ?_, fun _ => nofun, hx.deaf⟩
      · obtain ⟨answer, h⟩ := h.mem
        simp [hx.calls, hrs, hrc] at h
      · obtain ⟨r, h⟩ := h
        simp [hx.calls, hsc] at h
    | started _ r answer =>
      have hremoves : x.Removes order :=
        ⟨[], answer, _, _, hx.calls, List.mem_cons_of_mem _ List.mem_cons_self⟩
      have hstarted : x.Started order := ⟨r, by simp [hx.calls]⟩
      exact ⟨fun _ => iff_of_true hremoves hstarted, fun _ _ _ => hremoves, hx.deaf⟩

end Settled

end Doing

/-- However a launch goes, its container is settled when it ends, and remains so whatever others do. -/
theorem assures_settled (client : Client) (origin : Watch.Origin) (helperPath : String) (r : Request)
    (plan : Plan) (roster : Roster) :
    Assures Doing.surroundings (Pipeline.work ⟨client, .createStart, origin⟩ helperPath r plan)
      (fun result x => x.Settled (fun task => Helper.order ⟨helperPath, client⟩ task r plan) result)
      { roster } := by
  let order (task : Helper.Task) : Helper.Order := Helper.order ⟨helperPath, client⟩ task r plan
  have ho : ∀ task, (order task).task = task := fun _ => rfl
  have hx : Doing.At [] none false { roster } := ⟨rfl, rfl, nofun⟩
  have h := hx.assures_createStartRemove (ho .create) origin plan.dockerUrl r.containerId
  unfold Pipeline.work
  exact h.mono fun result x h => h.settled ho

/-- A launch that is interrupted while its container runs never calls for the removal, and it closes the
watcher that could. -/
theorem orders_of_interrupted_start :
    let created : Helper.Result := {}
    let outside : Rehearsal.Outside := { calls := fun
      | .start => [{ answer := .error ⟨.interrupt, "stop"⟩ }]
      | _ => [{ answer := .ok created }] }
    let run := Rehearsal.Scene.run { outside }
      (Pipeline.work ⟨.docker, .createStart, .given⟩ "/opt/h" default default)
    created.Succeeds ∧ run.1 = .error ⟨.interrupt, "stop"⟩ ∧
      run.2.transcript.orders.map (·.task) = [.create, .start] ∧
      run.2.roster.watchers.map (·.stopping) = [true] ∧ run.2.roster.watchers.map (·.removed) = [false] :=
  ⟨⟨rfl, rfl⟩, rfl, rfl, rfl, rfl⟩

end ContainerLaunch.Launch
