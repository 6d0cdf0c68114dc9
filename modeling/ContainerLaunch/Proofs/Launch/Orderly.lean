import ContainerLaunch.Proofs.Launch.Vigil
/-!
# A watcher has its container removed once

`orderly_of_runs` says what holds after any number of steps of a watcher, of those who handle notices for it
and of everyone else, whatever the helper answers.

Each state has a lawful history (`Cleanup.Lawful`) that agrees with the flags of the watcher and with the
stage of every handling (`Inv`): the one that is past its check and has not settled yet holds the lock.
-/

namespace ContainerLaunch.Launch

open Cleanup
open Lifecycle (Notice)
open Procedure

namespace Vigil

/-! ## The invariant -/

/-- Where the handling of a notice stands: what it still does, given what has happened, who holds the lock
and whether its call is out. What it settles is what the helper answered. -/
inductive Stage (t : Ticket) (o : Helper.Order) (id : String) (events : List Event) (i : Nat)
    (n : Notice) : Holder → Bool → Procedure Failure Unit → Prop where
  | fresh {p} (hi : i ∉ checks events) (hp : ∀ progress, p ≠ some (i, progress)) :
    Stage t o id events i n p false
      (.ask (.act (.observe t n)) fun begun => bif begun then Watch.conclusion t (carryOut o) else .done ())
  | log {p record next} (h : Stage t o id events i n p false (next ())) :
    Stage t o id events i n p false (.ask (.log record) next)
  | call {next} (hn : CallsFor id n)
    (h : ∀ a, Stage t o id events i n (some (i, .answered a)) false (next a)) :
    Stage t o id events i n (some (i, .checked)) false (.ask (.invoke o) next)
  | answer {next} (hn : CallsFor id n)
    (h : ∀ a, Stage t o id events i n (some (i, .answered a)) false (next a)) :
    Stage t o id events i n (some (i, .called)) true (.ask (.invoke o) next)
  | settle (hn : CallsFor id n) (a : Except Failure Helper.Result) :
    Stage t o id events i n (some (i, .answered a)) false
      (.ask (.act (.settle t (a.map o.settle))) fun _ => ofExcept (Watch.verdict (a.map o.settle)))
  | done {p} (hp : ∀ progress, p ≠ some (i, progress)) : Stage t o id events i n p false (.done ())
  | fail {p f} (hp : ∀ progress, p ≠ some (i, progress)) (hf : ¬ f.isOrdinary) :
    Stage t o id events i n p false (.fail f)

/-- The history is lawful, and it agrees with the flags of the watcher and with where each handling stands. -/
structure Inv (t : Ticket) (o : Helper.Order) (id : String) (v : Vigil) (p : Holder) : Prop where
  lawful : Lawful o id v.history p
  watcher : ∃ w, v.roster.watcher? t = some w ∧ w.containerId = id ∧
    (w.removed = true ↔ Aware o id v.history) ∧ w.removing = p.isSome
  known : ∀ i ∈ checks v.history, i < v.handlings.length
  stages : ∀ {i h}, v.handlings[i]? = some h → Stage t o id v.history i h.notice p h.out h.rest

section Inv
variable {t : Ticket} {o : Helper.Order} {id : String} {v v' : Vigil} {p p' : Holder} {i : Nat} {h : Handling}
  {events events' : List Event} {n : Notice}

theorem stage_conclusion_logs {remove : Removal} (records : List LogRecord)
    (h : Stage t o id events i n p false (Watch.conclusion t remove)) :
    Stage t o id events i n p false (Watch.conclusion t (logs records >>= fun _ => remove)) := by
  induction records with
  | nil => exact h
  | cons record records ih => exact .log ih

/-- The removal calls the helper once, and settles what it answers. -/
theorem stage_conclusion (hn : CallsFor id n) :
    Stage t o id events i n (some (i, .checked)) false (Watch.conclusion t (carryOut o)) := by
  refine stage_conclusion_logs o.callLog (.call hn fun a => ?_)
  cases a with
  | error f =>
    show Stage _ _ _ _ _ _ _ _ (Watch.conclusion t (.fail f))
    rw [Watch.conclusion_fail]
    exact .settle hn (.error f)
  | ok r => exact stage_conclusion_logs (o.resultLog r) (.settle hn (.ok r))

theorem stage_verdict (hp : ∀ progress, p ≠ some (i, progress)) (answer : Except Failure Helper.Result) :
    Stage t o id events i n p false (ofExcept (Watch.verdict answer)) := by
  cases hv : Watch.verdict answer with
  | ok _ => exact .done hp
  | error f => exact .fail hp (Watch.not_isOrdinary_of_verdict hv)

/-- What others do keeps a handling where it is, unless they take the lock from it or give it to it. -/
theorem Stage.frame {out : Bool} {todo : Procedure Failure Unit}
    (hs : Stage t o id events i n p out todo) (hi : i ∈ checks events' → i ∈ checks events)
    (hp : ∀ progress, p' = some (i, progress) ↔ p = some (i, progress)) :
    Stage t o id events' i n p' out todo := by
  induction hs generalizing p' with
  | fresh hi' hp' => exact .fresh (fun h => hi' (hi h)) fun progress h => hp' progress ((hp progress).1 h)
  | log _ ih => exact .log (ih hp)
  | call hn _ ih =>
    obtain rfl := (hp .checked).2 rfl
    exact .call hn fun a => ih a fun _ => .rfl
  | answer hn _ ih =>
    obtain rfl := (hp .called).2 rfl
    exact .answer hn fun a => ih a fun _ => .rfl
  | settle hn a =>
    obtain rfl := (hp (.answered a)).2 rfl
    exact .settle hn a
  | done hp' => exact .done fun progress h => hp' progress ((hp progress).1 h)
  | fail hp' hf => exact .fail (fun progress h => hp' progress ((hp progress).1 h)) hf

theorem inv_start (r : Roster) (id : String) (source : Source) :
    Inv r.watchers.length o id (start r id source) none where
  lawful := .nil
  watcher := by
    refine ⟨{ containerId := id, source }, List.getElem?_concat_length, rfl, ?_, rfl⟩
    exact iff_of_false Bool.false_ne_true not_aware_nil
  known := fun i hi => absurd hi List.not_mem_nil
  stages := fun h => absurd h (by simp [start])

theorem Inv.ne_of_notMem_checks (hv : Inv t o id v p) (hi : i ∉ checks v.history) (progress : Progress) :
    p ≠ some (i, progress) :=
  fun hp => hi (hp ▸ hv.lawful).mem_checks

theorem Inv.tell (hv : Inv t o id v p) (n : Notice) :
    Inv t o id { v with handlings := v.handlings ++ [⟨n, Watch.handle t n (carryOut o), false⟩] } p where
  lawful := hv.lawful
  watcher := hv.watcher
  known := fun i hi => by
    have := hv.known i hi
    simp only [List.length_append, List.length_singleton]
    omega
  stages := fun {i h} hi => by
    rcases Nat.lt_trichotomy i v.handlings.length with hlt | rfl | hlt
    · rw [List.getElem?_append_left hlt] at hi
      exact hv.stages hi
    · rw [List.getElem?_concat_length] at hi
      obtain rfl := Option.some.inj hi
      have hnew : v.handlings.length ∉ checks v.history := fun hc => Nat.lt_irrefl _ (hv.known _ hc)
      rw [Watch.handle_eq]
      exact .fresh hnew (hv.ne_of_notMem_checks hnew)
    · rw [List.getElem?_eq_none (by simp; omega)] at hi
      cases hi

theorem Inv.mark (hv : Inv t o id v p) :
    Inv t o id
      { v with roster := (v.roster.perform (.markRemoved t)).roster, history := .marked :: v.history }
      p where
  lawful := .marked hv.lawful
  watcher := by
    obtain ⟨w, hw, hid, -, hremoving⟩ := hv.watcher
    refine ⟨w.markRemoved, Roster.watcher?_modify_self hw, hid, ?_, hremoving⟩
    exact iff_of_true rfl (.inl List.mem_cons_self)
  known := hv.known
  stages := fun hi => (hv.stages hi).frame (fun h => h) fun _ => .rfl

theorem Inv.aside (hv : Inv t o id v p) {a : Roster.Action} (ha : a.LeavesAlone t) :
    Inv t o id { v with roster := (v.roster.perform a).roster } p where
  lawful := hv.lawful
  watcher := by
    obtain ⟨w, hw, hid, hremoved, hremoving⟩ := hv.watcher
    obtain ⟨w', hw', halike⟩ := Roster.exists_alike_perform hw ha
    refine ⟨w', hw', halike.containerId.trans hid, ?_, halike.removing.trans hremoving⟩
    rw [halike.removed]
    exact hremoved
  known := hv.known
  stages := hv.stages

/-- A turn of one handling leaves the others where they are: none of them gets the lock or loses it. -/
theorem Inv.advance (hv : Inv t o id v p) (hi : v.handlings[i]? = some h) {r : Roster}
    {todo : Procedure Failure Unit} {out : Bool} (hl : Lawful o id events p')
    (hw : ∃ w, r.watcher? t = some w ∧ w.containerId = id ∧ (w.removed = true ↔ Aware o id events) ∧
      w.removing = p'.isSome)
    (hc : ∀ j ∈ checks events, j = i ∨ j ∈ checks v.history)
    (hp : ∀ j ≠ i, ∀ progress, p' = some (j, progress) ↔ p = some (j, progress))
    (hs : Stage t o id events i h.notice p' out todo) :
    Inv t o id { v.advance i h todo out with roster := r, history := events } p' where
  lawful := hl
  watcher := hw
  known := fun j hj => by
    rw [Vigil.advance, List.length_set]
    rcases hc j hj with rfl | hj
    · exact (List.getElem?_eq_some_iff.1 hi).1
    · exact hv.known j hj
  stages := fun {j h'} hj => by
    change (v.handlings.set i { h with rest := todo, out })[j]? = some h' at hj
    by_cases hij : j = i
    · subst hij
      rw [List.getElem?_set_self (List.getElem?_eq_some_iff.1 hi).1] at hj
      obtain rfl := Option.some.inj hj
      exact hs
    · rw [List.getElem?_set_ne (Ne.symm hij)] at hj
      exact (hv.stages hj).frame (fun hc' => (hc j hc').resolve_left hij) (hp j hij)

theorem Inv.stage (hv : Inv t o id v p) (hi : v.handlings[i]? = some h) {q : Question}
    {next : q.Answer → Procedure Failure Unit} (hr : h.rest = .ask q next) :
    Stage t o id v.history i h.notice p h.out (.ask q next) := hr ▸ hv.stages hi

theorem Inv.log (hv : Inv t o id v p) {record : LogRecord} {next : Unit → Procedure Failure Unit}
    (hi : v.handlings[i]? = some h) (hr : h.rest = .ask (.log record) next) :
    Inv t o id (v.advance i h (next ())) p := by
  refine hv.advance hi hv.lawful hv.watcher (fun j hj => .inr hj) (fun _ _ _ => .rfl) ?_
  have hs := hv.stage hi hr
  generalize h.out = out at hs
  cases hs with
  | log hs => exact hs

theorem Inv.call (hv : Inv t o id v p) {o' : Helper.Order}
    {next : Except Failure Helper.Result → Procedure Failure Unit} (hi : v.handlings[i]? = some h)
    (hr : h.rest = .ask (.invoke o') next) (ho : h.out = false) :
    Inv t o id { v.advance i h h.rest true with history := .called i o' :: v.history } (some (i, .called)) := by
  have hs := hv.stage hi hr
  rw [ho] at hs
  cases hs with
  | call hn hs =>
    obtain ⟨w, hw, hid, hremoved, hremoving⟩ := hv.watcher
    refine hv.advance hi (.called hv.lawful) ⟨w, hw, hid, hremoved.trans aware_called.symm, hremoving⟩
      (fun j hj => .inr hj) (fun j hj progress => ?_) ?_
    · simp [Ne.symm hj]
    · rw [hr]
      exact .answer hn fun a => (hs a).frame (fun h => h) fun _ => .rfl

theorem Inv.answer (hv : Inv t o id v p) {o' : Helper.Order}
    {next : Except Failure Helper.Result → Procedure Failure Unit} (hi : v.handlings[i]? = some h)
    (hr : h.rest = .ask (.invoke o') next) (ho : h.out = true) (a : Except Failure Helper.Result) :
    Inv t o id { v.advance i h (next a) with history := .answered i a :: v.history } (some (i, .answered a)) := by
  have hs := hv.stage hi hr
  rw [ho] at hs
  cases hs with
  | answer hn hs =>
    obtain ⟨w, hw, hid, hremoved, hremoving⟩ := hv.watcher
    have haware : Aware o id (.answered i a :: v.history) ↔ Aware o id v.history :=
      aware_answered hv.lawful.not_ended
    refine hv.advance hi (.answered hv.lawful a) ⟨w, hw, hid, hremoved.trans haware.symm, hremoving⟩
      (fun j hj => .inr hj) (fun j hj progress => ?_) ?_
    · simp [Ne.symm hj]
    · exact (hs a).frame (fun h => h) fun _ => .rfl

theorem Inv.observe (hv : Inv t o id v p) (hi : v.handlings[i]? = some h) (hc : i ∉ checks v.history)
    (hf : v.Free (.observe t h.notice)) :
    ∃ p', Inv t o id
      { v.advance i h (bif v.roster.holdsOf t (·.begins h.notice) then Watch.conclusion t (carryOut o)
          else .done ()) with
        roster := v.roster.modify t (·.observe h.notice)
        history := .taken i h.notice (v.roster.holdsOf t (·.begins h.notice)) :: v.history } p' := by
  obtain ⟨w, hw, hid, hremoved, hremoving⟩ := hv.watcher
  have hw' := Roster.watcher?_modify_self (f := (·.observe h.notice)) hw
  have hun : w.removed = false ↔ ¬ Aware o id v.history := by
    rw [← Bool.not_eq_true, hremoved]
  have htold (begun : Bool) : (w.observe h.notice).removed = true ↔
      Aware o id (.taken i h.notice begun :: v.history) := by
    rw [Watcher.removed_observe, aware_taken, hremoved, hid]
  rw [Roster.holdsOf_of_watcher? hw]
  cases hb : w.begins h.notice with
  | true =>
    -- A notice that may begin a removal waits for the lock, so nobody holds it now.
    obtain ⟨hn, hr⟩ := Watcher.begins_iff.1 hb
    rw [hid] at hn
    have hp : p = none := by
      have hf : w.awaitsLock h.notice = false := by
        rwa [Free, Roster.holdsOf_of_watcher? hw] at hf
      rw [Watcher.awaitsLock, Watcher.isCalledBy_iff.2 (hid ▸ hn), Bool.and_true, hremoving] at hf
      simpa using hf
    subst hp
    refine ⟨some (i, .checked), hv.advance hi (.checked hv.lawful hn (hun.1 hr) hc)
      ⟨_, hw', Watcher.containerId_observe.trans hid, htold true, ?_⟩ (fun j hj => List.mem_cons.1 hj)
      (fun j hj progress => by simp [Ne.symm hj]) (stage_conclusion hn)⟩
    rw [Watcher.removing_observe, hb]
    rfl
  | false =>
    have hn : ¬ (CallsFor id h.notice ∧ ¬ Aware o id v.history) := by
      rintro ⟨hn, hu⟩
      rw [Watcher.begins_iff.2 ⟨hid ▸ hn, hun.2 hu⟩] at hb
      cases hb
    refine ⟨p, hv.advance hi (.passed hv.lawful hn)
      ⟨_, hw', Watcher.containerId_observe.trans hid, htold false, ?_⟩ (fun j hj => .inr hj)
      (fun _ _ _ => .rfl) (.done (hv.ne_of_notMem_checks hc))⟩
    rw [Watcher.removing_observe, hb, Bool.false_or, hremoving]

theorem exists_succeeds_settled (o : Helper.Order) (a : Except Failure Helper.Result) :
    (∃ r, a.map o.settle = .ok r ∧ r.Succeeds) ↔ ∃ r, .ok r = a ∧ o.FulfilledBy r := by
  cases a with
  | error f => exact iff_of_false (fun ⟨_, h, _⟩ => nomatch h) fun ⟨_, h, _⟩ => nomatch h
  | ok r => simp [Except.map, Helper.Order.succeeds_settle_iff]

/-- When the removal ends, the watcher takes in what the helper answered. -/
theorem Inv.settle {a : Except Failure Helper.Result} (hv : Inv t o id v (some (i, .answered a)))
    (hi : v.handlings[i]? = some h) :
    Inv t o id
      { v.advance i h (ofExcept (Watch.verdict (a.map o.settle))) with
        roster := v.roster.modify t (·.settle (a.map o.settle))
        history := .ended i :: v.history } none := by
  obtain ⟨w, hw, hid, hremoved, -⟩ := hv.watcher
  have hw' := Roster.watcher?_modify_self (f := (·.settle (a.map o.settle))) hw
  refine hv.advance hi (.ended hv.lawful)
    ⟨_, hw', (Watcher.containerId_settle _).trans hid, ?_, Watcher.removing_settle _⟩
    (fun j hj => .inr hj) (fun j hj progress => by simp [Ne.symm hj])
    (stage_verdict (fun _ h => by cases h) _)
  rw [Watcher.removed_settle, aware_ended, hremoved]
  simp only [hv.lawful.answered_iff]
  exact or_congr_right (exists_succeeds_settled o a)

theorem Inv.act (hv : Inv t o id v p) {a : Roster.Action} {next : a.Reply → Procedure Failure Unit}
    (hi : v.handlings[i]? = some h) (hr : h.rest = .ask (.act a) next) (hf : v.Free a) :
    ∃ p', Inv t o id
      { v.advance i h (next (v.roster.perform a).reply) with
        roster := (v.roster.perform a).roster
        history := eventsOf t i a (v.roster.perform a).reply ++ v.history } p' := by
  have hs := hv.stage hi hr
  generalize h.out = out at hs
  cases hs with
  | fresh hc hp => simpa [eventsOf, Roster.perform] using hv.observe hi hc hf
  | settle hn a => exact ⟨none, by simpa [eventsOf, Roster.perform] using hv.settle hi⟩

theorem Inv.turn (hv : Inv t o id v p) (ht : Turn t i v v') : ∃ p', Inv t o id v' p' := by
  cases ht with
  | log hi hr => exact ⟨p, hv.log hi hr⟩
  | act hi hr hf => exact hv.act hi hr hf
  | call hi hr ho => exact ⟨_, hv.call hi hr ho⟩
  | answer hi hr ho a => exact ⟨_, hv.answer hi hr ho a⟩

theorem Inv.step (hv : Inv t o id v p) (hs : Step t (carryOut o) v v') : ∃ p', Inv t o id v' p' := by
  cases hs with
  | tell n => exact ⟨p, hv.tell n⟩
  | mark => exact ⟨p, hv.mark⟩
  | aside ha => exact ⟨p, hv.aside ha⟩
  | turn ht => exact hv.turn ht

theorem Inv.runs (hv : Inv t o id v p) (hs : Runs t (carryOut o) v v') : ∃ p', Inv t o id v' p' := by
  induction hs with
  | refl => exact ⟨p, hv⟩
  | tail _ hs ih =>
    obtain ⟨p', hv'⟩ := ih
    exact hv'.step hs

end Inv

/-! ## What holds throughout -/

/-- The helper was called for a removal that has not ended yet. -/
def InFlight (events : List Event) (i : Nat) : Prop := (∃ o, .called i o ∈ events) ∧ .ended i ∉ events

section Orderly
variable {t : Ticket} {o : Helper.Order} {id : String} {v v' : Vigil} {p : Holder} {i j : Nat} {h : Handling}
  {n : Notice} {events : List Event}

theorem Inv.removed_iff (hv : Inv t o id v p) : v.removed t = true ↔ Aware o id v.history := by
  obtain ⟨w, hw, -, hremoved, -⟩ := hv.watcher
  rw [Vigil.removed, Roster.holdsOf_of_watcher? hw, hremoved]

theorem Step.exists_history (hs : Step t (carryOut o) v v') : ∃ later, v'.history = later ++ v.history := by
  cases hs with
  | tell n => exact ⟨[], rfl⟩
  | mark => exact ⟨[.marked], rfl⟩
  | aside ha => exact ⟨[], rfl⟩
  | turn ht => cases ht with
    | log hi hr => exact ⟨[], rfl⟩
    | act hi hr hf => exact ⟨_, rfl⟩
    | call hi hr ho => exact ⟨[_], rfl⟩
    | answer hi hr ho a => exact ⟨[_], rfl⟩

theorem exists_history_of_runs (hs : Runs t (carryOut o) v v') : ∃ later, v'.history = later ++ v.history := by
  induction hs with
  | refl => exact ⟨[], rfl⟩
  | tail _ hs ih =>
    obtain ⟨later, hlater⟩ := ih
    obtain ⟨latest, hlatest⟩ := hs.exists_history
    exact ⟨latest ++ later, by rw [hlatest, hlater, List.append_assoc]⟩

theorem Inv.stays (hv : Inv t o id v p) (hs : Runs t (carryOut o) v v') (hr : v.removed t = true) :
    v'.removed t = true := by
  obtain ⟨p', hv'⟩ := hv.runs hs
  obtain ⟨later, hlater⟩ := exists_history_of_runs hs
  refine hv'.removed_iff.2 ?_
  rw [hlater]
  exact (hv.removed_iff.1 hr).append later

theorem Inv.alone (hv : Inv t o id v p) (hi : InFlight v.history i) (hj : InFlight v.history j) : i = j := by
  obtain ⟨⟨oi, hi⟩, hi'⟩ := hi
  obtain ⟨⟨oj, hj⟩, hj'⟩ := hj
  obtain ⟨_, rfl⟩ := hv.lawful.exists_holder hi hi'
  obtain ⟨_, heq⟩ := hv.lawful.exists_holder hj hj'
  cases heq
  rfl

theorem Stage.ne_ofExcept {progress : Progress} {out : Bool} {todo : Procedure Failure Unit}
    (hs : Stage t o id events i n (some (i, progress)) out todo) (result : Except Failure Unit) :
    todo ≠ ofExcept result := by
  rintro rfl
  cases result with
  | ok _ => cases hs with
    | done hp => exact hp _ rfl
  | error f => cases hs with
    | fail hp _ => exact hp _ rfl

theorem Inv.finished (hv : Inv t o id v p) {result : Except Failure Unit} (hi : v.handlings[i]? = some h)
    (hr : h.rest = ofExcept result) : ¬ InFlight v.history i := by
  rintro ⟨⟨o', hc⟩, he⟩
  obtain ⟨progress, rfl⟩ := hv.lawful.exists_holder hc he
  exact (hv.stages hi).ne_ofExcept result hr

theorem Inv.counted (hv : Inv t o id v p) :
    ∃ waiting, checks v.history = waiting ++ calls v.history ∧ waiting.length ≤ 1 ∧
      ∀ i ∈ waiting, ∃ h, v.handlings[i]? = some h ∧ ∀ result, h.rest ≠ ofExcept result := by
  refine ⟨onTheWay p, hv.lawful.checks_eq, ?_, ?_⟩
  · unfold onTheWay
    split <;> simp
  · rcases p with - | ⟨i, progress⟩
    · exact fun i hi => absurd hi List.not_mem_nil
    · intro j hj
      cases progress with
      | called => exact absurd hj List.not_mem_nil
      | answered a => exact absurd hj List.not_mem_nil
      | checked =>
        obtain rfl := List.mem_singleton.1 hj
        have hlt := hv.known j hv.lawful.mem_checks
        have hh := List.getElem?_eq_getElem hlt
        exact ⟨_, hh, (hv.stages hh).ne_ofExcept⟩

end Orderly

end Vigil

end ContainerLaunch.Launch
