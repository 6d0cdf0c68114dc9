import ContainerLaunch.Proofs.Launch.Listener
/-!
# A listener heeds what it hears until its watcher is closed

`heedful_of_runs`: the listener takes in the notices that it heard before anyone closed its watcher, all of them and
in their order, whatever becomes of the removals that they ask for.

The invariant says where the listener stands between two signals (`Phase`): it is done with the last one, is about to
take it in, or has begun a removal for it and holds the lock.
-/

namespace ContainerLaunch.Launch

open Cleanup
open Lifecycle (Notice)
open Procedure

/-! ## Removals that nobody interrupts -/

/-- The removal only logs, for others than watchers, and calls the helper. It breaks off only with errors, as long
as the helper does. -/
def Tidy : Removal → Prop
  | .done _ => True
  | .fail f => f.isOrdinary
  | .ask (.log record) next => record.component ≠ .watch ∧ Tidy (next ())
  | .ask (.invoke _) next => ∀ a, (∀ f, a = .error f → f.isOrdinary) → Tidy (next a)
  | .ask _ _ => False

theorem tidy_logs_bind {records : List LogRecord} {next : Unit → Removal}
    (hr : ∀ record ∈ records, record.component ≠ .watch) (h : Tidy (next ())) : Tidy (logs records >>= next) := by
  induction records with
  | nil => exact h
  | cons record records ih =>
    obtain ⟨hrecord, hr⟩ := List.forall_mem_cons.1 hr
    exact ⟨hrecord, ih hr⟩

theorem component_of_mem_resultLog {o : Helper.Order} {r : Helper.Result} :
    ∀ record ∈ o.resultLog r, record.component ≠ .watch := by
  intro record h
  unfold Helper.Order.resultLog Helper.Result.callLog Helper.Result.removalLog at h
  have hrecord : record.component = .helper := by
    rcases List.mem_append.1 h with h | h
    · split at h
      · rw [List.mem_singleton.1 h]; rfl
      · cases h
    · split at h
      · split at h
        · rw [List.mem_singleton.1 h]; rfl
        · cases h
      · cases h
  rw [hrecord]
  decide

theorem tidy_carryOut (o : Helper.Order) : Tidy (carryOut o) := by
  refine tidy_logs_bind (fun record h => ?_) fun a ha => ?_
  · rw [List.mem_singleton.1 h]
    exact nofun
  · cases a with
    | error f => exact ha f rfl
    | ok r => exact tidy_logs_bind component_of_mem_resultLog trivial

namespace Listening

/-! ## The invariant -/

/-- The listener has heard that its source is over, or that anything came after the watcher was closed. -/
def Over (t : Ticket) (history : List Occurrence) : Prop :=
  ∃ before s, before ++ [.act (.hear t s)] <+: history ∧
    (.act (.close t) ∈ before ∨ signalled? s = none)

/-- What the listener heard last is a notice, and nobody had closed the watcher. -/
def InHand (t : Ticket) (history : List Occurrence) (n : Notice) : Prop :=
  ∃ earlier between, history = earlier ++ .act (.hear t (.notice n)) :: between ∧
    (∀ s, .act (.hear t s) ∉ between) ∧ .act (.close t) ∉ earlier

/-- The notices that the listener heard before anyone closed the watcher. -/
def due (t : Ticket) (history : List Occurrence) : List Notice := (heeded t history).filterMap signalled?

/-- Where the listener stands, given what has happened and whether it holds the lock. -/
inductive Phase (t : Ticket) (remove : Removal) (id : String) (history : List Occurrence) :
    Bool → Procedure Empty Unit → Prop where
  | waiting {rest} (hrest : rest = .done ()) (h : taken t history = due t history) :
    Phase t remove id history false rest
  | taking {n rest} (hrest : rest = Watch.reaction t remove (some n)) (hn : InHand t history n)
    (h : taken t history ++ [n] = due t history) : Phase t remove id history false rest
  | removing {n removal rest} (hrest : rest = Watch.ending t removal) (hr : Tidy removal)
    (hn : InHand t history n) (hc : CallsFor id n) (h : taken t history = due t history) :
    Phase t remove id history true rest

/-- The watcher is as the history says. -/
structure Fits (t : Ticket) (id : String) (history : List Occurrence) (w : Watcher) : Prop where
  containerId : w.containerId = id
  stopping : w.stopping = true ↔ .act (.close t) ∈ history
  idle : w.listener = .idle ↔ .act (.start t) ∉ history
  ended : w.listener = .ended ↔ Over t history

/-- The line about a source that failed. -/
def failureLine (id message : String) : LogRecord :=
  .warning .watch ("Event stream for " ++ id ++ " ended: " ++ message)

/-- The place of the listener fits what has happened. -/
structure Inv (t : Ticket) (remove : Removal) (id : String) (l : Listening) : Prop where
  watcher : ∃ w, l.roster.watcher? t = some w ∧ Fits t id l.history w ∧ Phase t remove id l.history w.removing l.rest
  called : ∀ before o, before ++ [.call o] <+: l.history → ∃ n, InHand t before n ∧ CallsFor id n
  stays : .act (.leave t) ∉ l.history
  warned : ∀ m, failureLine id m ∈ l.logs ↔ .failed m ∈ heeded t l.history

section Histories
variable {t : Ticket} {e : Occurrence} {history : List Occurrence} {id : String} {w w' : Watcher} {n : Notice}

theorem over_concat_iff :
    Over t (history ++ [e]) ↔ Over t history ∨
      ∃ s, e = .act (.hear t s) ∧ (.act (.close t) ∈ history ∨ signalled? s = none) := by
  simp only [Over, List.prefix_concat_iff]
  constructor
  · rintro ⟨before, s, h | h, hs⟩
    · obtain ⟨rfl, he⟩ := List.append_inj' h rfl
      exact .inr ⟨s, (List.cons.inj he).1.symm, hs⟩
    · exact .inl ⟨before, s, h, hs⟩
  · rintro (⟨before, s, h, hs⟩ | ⟨s, rfl, hs⟩)
    · exact ⟨before, s, .inr h, hs⟩
    · exact ⟨history, s, .inl rfl, hs⟩

theorem InHand.concat (h : InHand t history n) (he : ∀ s, e ≠ .act (.hear t s)) : InHand t (history ++ [e]) n := by
  obtain ⟨earlier, between, rfl, hbetween, hopen⟩ := h
  refine ⟨earlier, between ++ [e], by rw [List.append_assoc, List.cons_append], fun s hs => ?_, hopen⟩
  rcases List.mem_append.1 hs with hs | hs
  · exact hbetween s hs
  · exact he s (List.mem_singleton.1 hs).symm

theorem heeded_concat_of_ne (he : ∀ s, e ≠ .act (.hear t s)) : heeded t (history ++ [e]) = heeded t history := by
  by_cases hc : .act (.close t) ∈ history
  · exact heeded_concat_of_closed hc
  · have hnone : e.heard? t = none :=
      Option.eq_none_iff_forall_ne_some.2 fun s hs => he s (Occurrence.heard?_eq_some_iff.1 hs)
    rw [heeded_concat_of_open hc, hnone]
    exact List.append_nil _

/-- What bears neither on the closing and the starting of the watcher nor on what it hears. -/
theorem Fits.concat (h : Fits t id history w) (hid : w'.containerId = w.containerId)
    (hstopping : w'.stopping = w.stopping) (hlistener : w'.listener = w.listener) (hclose : e ≠ .act (.close t))
    (hstart : e ≠ .act (.start t)) (hhear : ∀ s, e ≠ .act (.hear t s)) : Fits t id (history ++ [e]) w' where
  containerId := hid.trans h.containerId
  stopping := by
    rw [hstopping, h.stopping, List.mem_append, List.mem_singleton]
    exact (or_iff_left fun he => hclose he.symm).symm
  idle := by
    rw [hlistener, h.idle, List.mem_append, List.mem_singleton]
    exact not_congr (or_iff_left fun he => hstart he.symm).symm
  ended := by
    rw [hlistener, h.ended, over_concat_iff]
    exact (or_iff_left fun ⟨s, he, _⟩ => hhear s he).symm

theorem Fits.start (h : Fits t id history w) : Fits t id (history ++ [.act (.start t)]) w.start where
  containerId := w.alike_start.containerId.trans h.containerId
  stopping := by rw [Watcher.stopping_start, h.stopping]; simp
  idle := by
    have hstarted : w.start.listener ≠ .idle := by
      unfold Watcher.start
      split
      · exact nofun
      · next hne => exact hne
    simp [hstarted]
  ended := by
    have hended : w.start.listener = .ended ↔ w.listener = .ended := by
      unfold Watcher.start
      split
      · next hidle => simp [hidle]
      · exact Iff.rfl
    rw [hended, h.ended, over_concat_iff]
    exact (or_iff_left fun ⟨s, he, _⟩ => by cases he).symm

theorem Fits.close (h : Fits t id history w) : Fits t id (history ++ [.act (.close t)]) w.close where
  containerId := h.containerId
  stopping := by simp [Watcher.close]
  idle := by
    rw [List.mem_append, List.mem_singleton]
    exact h.idle.trans (not_congr (or_iff_left nofun).symm)
  ended := by
    rw [over_concat_iff]
    exact h.ended.trans (or_iff_left fun ⟨s, he, _⟩ => by cases he).symm

/-- What others do leaves the watcher as the history says, and the lock as it is. -/
theorem exists_fits_of_other {r : Roster} {a : Roster.Action} (hw : r.watcher? t = some w)
    (h : Fits t id history w) (ha : ¬ Own t a) :
    ∃ w', (r.perform a).roster.watcher? t = some w' ∧ w'.removing = w.removing ∧ Fits t id (history ++ [.act a]) w' := by
  have hkept (hclose : a ≠ .close t) (hstart : a ≠ .start t) (hhear : ∀ s, a ≠ .hear t s) :
      Fits t id (history ++ [.act a]) w :=
    h.concat rfl rfl rfl (fun he => hclose (Occurrence.act.inj he)) (fun he => hstart (Occurrence.act.inj he))
      fun s he => hhear s (Occurrence.act.inj he)
  cases a with
  | enrol containerId source => exact ⟨w, Roster.watcher?_enrol hw _, rfl, hkept nofun nofun nofun⟩
  | register t' => exact ⟨w, Roster.watcher?_register.trans hw, rfl, hkept nofun nofun nofun⟩
  | deregister containerId => exact ⟨w, hw, rfl, hkept nofun nofun nofun⟩
  | start t' =>
    by_cases ht : t' = t
    · subst ht
      exact ⟨w.start, Roster.watcher?_modify_self hw, w.alike_start.removing, h.start⟩
    · exact ⟨w, (Roster.watcher?_modify_of_ne ht).trans hw, rfl, hkept nofun (fun he => ht (by cases he; rfl)) nofun⟩
  | close t' =>
    by_cases ht : t' = t
    · subst ht
      exact ⟨w.close, Roster.watcher?_modify_self hw, rfl, h.close⟩
    · exact ⟨w, (Roster.watcher?_modify_of_ne ht).trans hw, rfl, hkept (fun he => ht (by cases he; rfl)) nofun nofun⟩
  | markRemoved t' =>
    by_cases ht : t' = t
    · subst ht
      exact ⟨w.markRemoved, Roster.watcher?_modify_self hw, rfl, h.concat rfl rfl rfl nofun nofun nofun⟩
    · exact ⟨w, (Roster.watcher?_modify_of_ne ht).trans hw, rfl, hkept nofun nofun nofun⟩
  | observe t' n => exact ⟨w, (Roster.watcher?_modify_of_ne ha).trans hw, rfl, hkept nofun nofun nofun⟩
  | hear t' s =>
    exact ⟨w, (Roster.watcher?_modify_of_ne ha).trans hw, rfl, hkept nofun nofun fun s he => ha (by cases he; rfl)⟩
  | settle t' answer => exact ⟨w, (Roster.watcher?_modify_of_ne ha).trans hw, rfl, hkept nofun nofun nofun⟩
  | leave t' => exact ⟨w, (Roster.watcher?_modify_of_ne ha).trans hw, rfl, hkept nofun nofun nofun⟩

theorem Phase.concat {remove : Removal} {lock : Bool} {rest : Procedure Empty Unit}
    (h : Phase t remove id history lock rest) (hhear : ∀ s, e ≠ .act (.hear t s)) (htaken : e.taken? t = none) :
    Phase t remove id (history ++ [e]) lock rest := by
  have hdue : due t (history ++ [e]) = due t history := by
    unfold due
    rw [heeded_concat_of_ne hhear]
  have htaken : taken t (history ++ [e]) = taken t history := by
    rw [taken_concat, htaken]
    exact List.append_nil _
  cases h with
  | waiting hrest h => exact .waiting hrest (by rw [htaken, hdue, h])
  | taking hrest hn h => exact .taking hrest (hn.concat hhear) (by rw [htaken, hdue, h])
  | removing hrest hr hn hc h => exact .removing hrest hr (hn.concat hhear) hc (by rw [htaken, hdue, h])

end Histories

section Inv
variable {t : Ticket} {remove : Removal} {id : String} {l l' : Listening} {e : Occurrence}

theorem inv_start (r : Roster) (id : String) (source : Source) :
    Inv r.watchers.length remove id (start r id source) where
  watcher := by
    refine ⟨{ containerId := id, source }, List.getElem?_concat_length, ⟨rfl, ?_, ?_, ?_⟩, .waiting rfl rfl⟩
    · simp [start]
    · simp [start]
    · simp [start, Over]
  called := fun before o h => by
    have h := List.eq_nil_of_prefix_nil h
    simp at h
  stays := List.not_mem_nil
  warned := fun m => iff_of_false List.not_mem_nil List.not_mem_nil

/-- Something happened that the listener did not hear. -/
theorem Inv.next (hv : Inv t remove id l) (hh : l'.history = l.history ++ [e]) (hhear : ∀ s, e ≠ .act (.hear t s))
    (hleave : e ≠ .act (.leave t)) (hcall : ∀ o, e = .call o → ∃ n, InHand t l.history n ∧ CallsFor id n)
    (hlogs : ∀ m, failureLine id m ∈ l'.logs ↔ failureLine id m ∈ l.logs)
    (hw : ∃ w, l'.roster.watcher? t = some w ∧ Fits t id (l.history ++ [e]) w ∧
      Phase t remove id (l.history ++ [e]) w.removing l'.rest) : Inv t remove id l' where
  watcher := hh ▸ hw
  called := fun before o h => by
    rw [hh, List.prefix_concat_iff] at h
    rcases h with h | h
    · obtain ⟨rfl, he⟩ := List.append_inj' h rfl
      exact hcall o (List.cons.inj he).1.symm
    · exact hv.called before o h
  stays := fun h => by
    rw [hh, List.mem_append, List.mem_singleton] at h
    exact h.elim hv.stays fun he => hleave he.symm
  warned := fun m => by rw [hlogs, hv.warned, hh, heeded_concat_of_ne hhear]

theorem Inv.other (hv : Inv t remove id l) {a : Roster.Action} (ha : ¬ Own t a) :
    Inv t remove id { l with roster := (l.roster.perform a).roster, history := l.history ++ [.act a] } := by
  obtain ⟨w, hw, hfits, hphase⟩ := hv.watcher
  obtain ⟨w', hw', hremoving, hfits'⟩ := exists_fits_of_other hw hfits ha
  have hhear (s : Signal) : Occurrence.act a ≠ .act (.hear t s) := by
    rintro ⟨⟩
    exact ha rfl
  have htaken : (Occurrence.act a).taken? t = none := by
    unfold Occurrence.taken?
    split
    · next he =>
      cases he
      exact if_neg ha
    · rfl
  refine hv.next rfl hhear ?_ nofun (fun _ => .rfl) ⟨w', hw', hfits', ?_⟩
  · rintro ⟨⟩
    exact ha rfl
  · rw [hremoving]
    exact hphase.concat hhear htaken

theorem failureLine_inj {m m' : String} : failureLine id m = failureLine id m' ↔ m = m' := by
  refine ⟨fun h => ?_, congrArg _⟩
  have htext := congrArg (fun record => record.message.toList) h
  simp only [failureLine, LogRecord.warning, String.toList_append] at htext
  exact String.toList_inj.1 (List.append_cancel_left htext)

/-- What is said about a removal is something else. -/
theorem failureLine_notMem_settleLog (w : Watcher) (answer : Except Failure Helper.Result) (m : String) :
    failureLine id m ∉ w.settleLog answer := by
  intro h
  rcases answer with f | r
  · simp only [Watcher.settleLog] at h
    split at h
    · have htext := congrArg (fun record => record.message.toList) (List.mem_singleton.1 h)
      simp [failureLine, LogRecord.warning] at htext
    · cases h
  · simp only [Watcher.settleLog] at h
    split at h
    · cases List.mem_singleton.1 h
    · have htext := congrArg (fun record => record.message.toList) (List.mem_singleton.1 h)
      simp [failureLine, LogRecord.warning] at htext

theorem Phase.of_done {history : List Occurrence} {lock : Bool} (h : Phase t remove id history lock (.done ())) :
    lock = false ∧ taken t history = due t history := by
  cases h with
  | waiting _ h => exact ⟨rfl, h⟩
  | taking hrest => rw [Watch.reaction_some] at hrest; cases hrest
  | @removing n removal _ hrest hr =>
    cases removal with
    | done r => rw [Watch.ending_done] at hrest; cases hrest
    | fail f => rw [Watch.ending_fail t hr] at hrest; cases hrest
    | ask q next => rw [Watch.ending_ask] at hrest; cases hrest

/-- What a listener takes in that is at work. -/
theorem Fits.accepted?_eq {history : List Occurrence} {w : Watcher} {s : Signal} (h : Fits t id history w)
    (hl : w.isListening = true) :
    w.accepted? s = none ∧ (.act (.close t) ∈ history ∨ signalled? s = none) ∨
      ∃ n, w.accepted? s = some n ∧ s = .notice n ∧ .act (.close t) ∉ history := by
  cases s with
  | notice n =>
    simp only [Watcher.accepted?, hl, Bool.true_and, ← h.stopping]
    cases w.stopping <;> simp
  | ended => exact .inl ⟨rfl, .inr rfl⟩
  | failed m => exact .inl ⟨rfl, .inr rfl⟩

theorem Fits.hear {history : List Occurrence} {w : Watcher} {s : Signal} (h : Fits t id history w)
    (hl : w.isListening = true) : Fits t id (history ++ [.act (.hear t s)]) (w.hear s) := by
  have hlistening : w.listener = .listening := by simpa [Watcher.isListening] using hl
  have hstarted : .act (.start t) ∈ history := by
    by_contra hne
    exact Listener.noConfusion (hlistening.symm.trans (h.idle.2 hne))
  have hover : ¬ Over t history := fun ho => Listener.noConfusion (hlistening.symm.trans (h.ended.2 ho))
  refine ⟨(w.alike_hear s).containerId.trans h.containerId, ?_, ?_, ?_⟩
  · rw [w.stopping_hear, h.stopping]
    simp
  · have hidle : (w.hear s).listener ≠ .idle := by
      unfold Watcher.hear Watcher.leave
      intro hidle
      split at hidle
      · cases hidle
      · cases hlistening.symm.trans hidle
    simp [hidle, hstarted]
  · rw [over_concat_iff]
    unfold Watcher.hear
    rcases h.accepted?_eq (s := s) hl with ⟨hn, hs⟩ | ⟨n, hn, rfl, hc⟩
    · simp [hl, hn, hs, Watcher.leave]
    · simp [hn, hlistening, hover, hc, signalled?]

theorem due_hear {history : List Occurrence} {s : Signal} (h : .act (.close t) ∈ history ∨ signalled? s = none) :
    due t (history ++ [.act (.hear t s)]) = due t history := by
  unfold due
  by_cases hc : .act (.close t) ∈ history
  · rw [heeded_concat_of_closed hc]
  · rw [heeded_concat_of_open hc, List.filterMap_append]
    simp [Occurrence.heard?, h.resolve_left hc]

/-- A failing source is the only thing that a listener says something about at once. -/
theorem Fits.warned_hear {history : List Occurrence} {w : Watcher} {s : Signal} (h : Fits t id history w)
    (hl : w.isListening = true) (m : String) :
    failureLine id m ∈ w.hearLog s ↔ .act (.close t) ∉ history ∧ s = .failed m := by
  rw [← h.stopping]
  cases s with
  | failed m' =>
    have hline : LogRecord.warning .watch ("Event stream for " ++ w.containerId ++ " ended: " ++ m') =
        failureLine id m' := by rw [h.containerId]; rfl
    simp only [Watcher.hearLog, hl, hline]
    cases w.stopping <;> simp [failureLine_inj, eq_comm]
  | _ => simp [Watcher.hearLog]

theorem Inv.deliver (hv : Inv t remove id l) {s : Signal} (hl : l.roster.holdsOf t (·.isListening) = true)
    (hrest : l.rest = .done ()) : Inv t remove id (l.does (.hear t s) (Watch.reaction t remove)) := by
  obtain ⟨w, hw, hfits, hphase⟩ := hv.watcher
  rw [Roster.holdsOf_of_watcher? hw] at hl
  rw [hrest] at hphase
  obtain ⟨hlock, htaken⟩ := hphase.of_done
  have hreply : (l.roster.perform (.hear t s)).reply = w.accepted? s := by
    show (l.roster.watcher? t).bind _ = _
    rw [hw]
    rfl
  have hlogs : (l.roster.perform (.hear t s)).logs = w.hearLog s := by
    show l.roster.logsOf t _ = _
    simp [Roster.logsOf, hw]
  have hnothing : taken t (l.history ++ [.act (.hear t s)]) = taken t l.history :=
    taken_concat.trans (List.append_nil _)
  refine ⟨⟨w.hear s, Roster.watcher?_modify_self hw, hfits.hear hl, ?_⟩, fun before o h => ?_, fun h => ?_, fun m => ?_⟩
  · show Phase t remove id (l.history ++ [.act (.hear t s)]) (w.hear s).removing (Watch.reaction t remove _)
    rw [(w.alike_hear s).removing, hlock, hreply]
    rcases hfits.accepted?_eq (s := s) hl with ⟨hn, hs⟩ | ⟨n, hn, rfl, hc⟩
    · rw [hn]
      exact .waiting rfl (by rw [hnothing, htaken, due_hear hs])
    · rw [hn]
      refine .taking rfl ⟨l.history, [], rfl, fun _ => List.not_mem_nil, hc⟩ ?_
      rw [hnothing, htaken, due, due, heeded_concat_of_open hc, List.filterMap_append]
      simp [Occurrence.heard?, signalled?]
  · rcases List.prefix_concat_iff.1 h with h | h
    · cases (List.cons.inj (List.append_inj' h rfl).2).1
    · exact hv.called before o h
  · rcases List.mem_append.1 h with h | h
    · exact hv.stays h
    · cases List.mem_singleton.1 h
  · show _ ∈ l.logs ++ _ ↔ _ ∈ heeded t (l.history ++ [_])
    rw [hlogs, List.mem_append, hv.warned, hfits.warned_hear hl]
    by_cases hc : .act (.close t) ∈ l.history
    · rw [heeded_concat_of_closed hc]
      simp [hc]
    · rw [heeded_concat_of_open hc, List.mem_append]
      simp [hc, Occurrence.heard?, eq_comm]

/-- Nothing happened on the roster, but the listener has something else left to do. -/
theorem Inv.proceed (hv : Inv t remove id l) (hroster : l'.roster = l.roster) (hh : l'.history = l.history)
    (hlogs : ∀ m, failureLine id m ∈ l'.logs ↔ failureLine id m ∈ l.logs)
    (hphase : Phase t remove id l.history (l.roster.holdsOf t (·.removing)) l'.rest) : Inv t remove id l' := by
  obtain ⟨w, hw, hfits, -⟩ := hv.watcher
  rw [Roster.holdsOf_of_watcher? hw] at hphase
  refine ⟨⟨w, hroster ▸ hw, hh ▸ hfits, hh ▸ hphase⟩, ?_, ?_, fun m => ?_⟩
  · rw [hh]
    exact hv.called
  · rw [hh]
    exact hv.stays
  · rw [hlogs, hh, hv.warned]

theorem Inv.observe (hv : Inv t remove id l) (hremove : Tidy remove) {n : Notice} (hn : InHand t l.history n)
    (h : taken t l.history ++ [n] = due t l.history) (hlock : l.roster.holdsOf t (·.removing) = false) :
    Inv t remove id
      (l.does (.observe t n) fun begun => bif begun then Watch.ending t remove else .done ()) := by
  obtain ⟨w, hw, hfits, -⟩ := hv.watcher
  rw [Roster.holdsOf_of_watcher? hw] at hlock
  have htaken : taken t (l.history ++ [.act (.observe t n)]) = due t (l.history ++ [.act (.observe t n)]) := by
    have hheeded : heeded t (l.history ++ [.act (.observe t n)]) = heeded t l.history := heeded_concat_of_ne nofun
    rw [taken_concat, due, hheeded]
    refine Eq.trans (congrArg _ ?_) h
    simp [Occurrence.taken?]
  refine hv.next rfl nofun nofun nofun (fun m => ?_) ⟨w.observe n, Roster.watcher?_modify_self hw, ?_, ?_⟩
  · exact (congrArg (_ ∈ ·) (List.append_nil l.logs)).to_iff
  · exact hfits.concat Watcher.containerId_observe (w.stopping_observe n) (w.listener_observe n) nofun nofun nofun
  · show Phase t remove id _ _ (bif l.roster.holdsOf t (·.begins n) then _ else _)
    rw [Roster.holdsOf_of_watcher? hw, Watcher.removing_observe, hlock, Bool.or_false]
    cases hb : w.begins n with
    | true => exact .removing rfl hremove (hn.concat nofun) (hfits.containerId ▸ (Watcher.begins_iff.1 hb).1) htaken
    | false => exact .waiting rfl htaken

theorem Inv.settle (hv : Inv t remove id l) (answer : Except Failure Helper.Result)
    (h : taken t l.history = due t l.history) :
    Inv t remove id (l.does (.settle t answer) fun _ => .done ()) := by
  obtain ⟨w, hw, hfits, -⟩ := hv.watcher
  refine hv.next rfl nofun nofun nofun (fun m => ?_) ⟨w.settle answer, Roster.watcher?_modify_self hw, ?_, ?_⟩
  · show _ ∈ l.logs ++ l.roster.logsOf t _ ↔ _
    rw [List.mem_append, Roster.logsOf, hw]
    exact or_iff_left (failureLine_notMem_settleLog w answer m)
  · exact hfits.concat (w.containerId_settle answer) (w.stopping_settle answer) (w.listener_settle answer) nofun nofun
      nofun
  · rw [w.removing_settle answer]
    exact (Phase.waiting rfl h).concat nofun rfl

theorem Turn.ne_done (ht : Turn l l') : l.rest ≠ .done () := by
  cases ht with
  | log hask => rw [hask]; exact nofun
  | act hask => rw [hask]; exact nofun
  | call hask => rw [hask]; exact nofun
  | answer hask => rw [hask]; exact nofun

theorem Turn.eq_does (ht : Turn l l') {a : Roster.Action} {next : a.Reply → Procedure Empty Unit}
    (hrest : l.rest = .ask (.act a) next) : l' = l.does a next := by
  cases ht with
  | act hask => cases hask.symm.trans hrest; rfl
  | log hask => cases hask.symm.trans hrest
  | call hask => cases hask.symm.trans hrest
  | answer hask => cases hask.symm.trans hrest

/-- A turn of a listener that holds the lock. -/
theorem Inv.turn_removing (hv : Inv t remove id l) {removal : Removal} (hrest : l.rest = Watch.ending t removal)
    (hr : Tidy removal) {n : Notice} (hn : InHand t l.history n) (hc : CallsFor id n)
    (h : taken t l.history = due t l.history) (hlock : l.roster.holdsOf t (·.removing) = true) (ht : Turn l l') :
    Inv t remove id l' := by
  cases removal with
  | done r =>
    obtain rfl := ht.eq_does (hrest.trans (Watch.ending_done t r))
    exact hv.settle (.ok r) h
  | fail f =>
    obtain rfl := ht.eq_does (hrest.trans (Watch.ending_fail t hr))
    exact hv.settle (.error f) h
  | ask q next =>
    have hstill {next : Removal} (hnext : Tidy next) :
        Phase t remove id l.history (l.roster.holdsOf t (·.removing)) (Watch.ending t next) :=
      hlock ▸ .removing rfl hnext hn hc h
    have hask := hrest.trans (Watch.ending_ask t q next)
    cases ht with
    | act hact => cases hact.symm.trans hask; exact hr.elim
    | log hlog =>
      cases hlog.symm.trans hask
      refine hv.proceed rfl rfl (fun m => ?_) (hstill hr.2)
      rw [List.mem_append, List.mem_singleton]
      exact or_iff_left fun he => hr.1 (by rw [← he]; rfl)
    | call hcall =>
      cases hcall.symm.trans hask
      obtain ⟨w, hw, hfits, -⟩ := hv.watcher
      refine hv.next rfl nofun nofun (fun _ _ => ⟨n, hn, hc⟩) (fun _ => .rfl) ⟨w, hw, ?_, ?_⟩
      · exact hfits.concat rfl rfl rfl nofun nofun nofun
      · rw [← Roster.holdsOf_of_watcher? hw (·.removing)]
        exact (hrest ▸ hstill hr).concat nofun rfl
    | answer hanswer _ a ha =>
      cases hanswer.symm.trans hask
      exact hv.proceed rfl rfl (fun _ => .rfl) (hstill (hr a ha))

theorem Inv.turn (hv : Inv t remove id l) (hremove : Tidy remove) (ht : Turn l l') : Inv t remove id l' := by
  obtain ⟨w, hw, hfits, hphase⟩ := hv.watcher
  rw [← Roster.holdsOf_of_watcher? hw (·.removing)] at hphase
  generalize hlock : l.roster.holdsOf t (·.removing) = lock at hphase
  cases hphase with
  | waiting hrest _ => exact (ht.ne_done hrest).elim
  | taking hrest hn h =>
    obtain rfl := ht.eq_does (hrest.trans (Watch.reaction_some t remove _))
    exact hv.observe hremove hn h hlock
  | removing hrest hr hn hc h => exact hv.turn_removing hrest hr hn hc h hlock ht

theorem Inv.step (hv : Inv t remove id l) (hremove : Tidy remove) (hs : Step t remove l l') :
    Inv t remove id l' := by
  cases hs with
  | other ha => exact hv.other ha
  | deliver hl hrest hs =>
    rw [Watch.hear_eq] at hs
    cases hs
    exact hv.deliver hl hrest
  | turn ht => exact hv.turn hremove ht

theorem Inv.runs (hv : Inv t remove id l) (hremove : Tidy remove) (hs : Runs t remove l l') : Inv t remove id l' := by
  induction hs with
  | refl => exact hv
  | tail _ hs ih => exact ih.step hremove hs

end Inv

/-! ## What holds throughout -/

/-- The listener takes in what it hears, notice by notice and in order, for as long as nobody has closed the watcher,
and nothing that a removal comes to ends it. -/
structure Heedful (t : Ticket) (id : String) (l : Listening) : Prop where
  /-- Whenever the listener is done with a signal, it has taken in what was due, in that order. -/
  taken_eq : l.rest = .done () → taken t l.history = due t l.history
  /-- Otherwise there may be one notice that it takes in next. -/
  taken_or_next : taken t l.history = due t l.history ∨
    ∃ n next, taken t l.history ++ [n] = due t l.history ∧ l.rest = .ask (.act (.observe t n)) next
  /-- The helper is called for a notice that was heard last, before anyone closed the watcher. -/
  called : ∀ before o, before ++ [.call o] <+: l.history → ∃ n, InHand t before n ∧ CallsFor id n
  /-- The listener is never stuck, and it is done with a signal after finitely many turns. -/
  goesOn : l.rest ≠ .done () → ∃ l', Turn l l'
  ends : Acc (fun later now => Turn now later) l
  /-- Once started, it ends because of what it hears, and of nothing else; in particular it is not thrown out. -/
  listens_iff : l.roster.holdsOf t (·.isListening) = true ↔ .act (.start t) ∈ l.history ∧ ¬ Over t l.history
  stays : .act (.leave t) ∉ l.history
  warned_iff : ∀ m, failureLine id m ∈ l.logs ↔ .failed m ∈ heeded t l.history
  /-- To start it again changes nothing, and nothing is said about it. -/
  again : .act (.start t) ∈ l.history →
    (l.roster.perform (.start t)).roster = l.roster ∧ (l.roster.perform (.start t)).logs = []

section Heedful
variable {t : Ticket} {remove : Removal} {id : String} {l l' : Listening}

theorem Inv.goesOn (hv : Inv t remove id l) (hrest : l.rest ≠ .done ()) : ∃ l', Turn l l' := by
  obtain ⟨w, hw, -, hphase⟩ := hv.watcher
  generalize hlock : w.removing = lock at hphase
  cases hphase with
  | waiting h _ => exact (hrest h).elim
  | @taking n _ h _ _ =>
    refine ⟨_, .act (h.trans (Watch.reaction_some t remove n)) ?_⟩
    show l.roster.holdsOf t (·.awaitsLock n) = false
    rw [Roster.holdsOf_of_watcher? hw, Watcher.awaitsLock, hlock, Bool.false_and]
  | @removing n removal _ h hr _ _ _ =>
    cases removal with
    | done r => exact ⟨_, .act (h.trans (Watch.ending_done t r)) trivial⟩
    | fail f => exact ⟨_, .act (h.trans (Watch.ending_fail t hr)) trivial⟩
    | ask q next =>
      have hask := h.trans (Watch.ending_ask t q next)
      cases q with
      | log record => exact ⟨_, .log hask⟩
      | invoke o =>
        cases hout : l.out with
        | false => exact ⟨_, .call hask hout⟩
        | true => exact ⟨_, .answer hask hout (.ok {}) nofun⟩
      | _ => exact hr.elim

theorem Inv.heedful (hv : Inv t remove id l) : Heedful t id l := by
  obtain ⟨w, hw, hfits, hphase⟩ := hv.watcher
  have hidle : w.listener ≠ .idle ↔ .act (.start t) ∈ l.history := by rw [Ne, hfits.idle, not_not]
  exact {
    taken_eq := fun hrest => (hrest ▸ hphase).of_done.2
    taken_or_next := by
      generalize w.removing = lock at hphase
      cases hphase with
      | waiting _ h => exact .inl h
      | taking hrest _ h => exact .inr ⟨_, _, h, hrest.trans (Watch.reaction_some t remove _)⟩
      | removing _ _ _ _ h => exact .inl h
    called := hv.called
    goesOn := hv.goesOn
    ends := acc_turn l
    listens_iff := by
      rw [Roster.holdsOf_of_watcher? hw, ← hidle, ← hfits.ended, Watcher.isListening, beq_iff_eq]
      cases w.listener <;> simp
    stays := hv.stays
    warned_iff := hv.warned
    again := fun hstart => by
      have hne := hidle.2 hstart
      refine ⟨Roster.modify_eq_self hw (if_neg hne), ?_⟩
      show l.roster.logsOf t _ = []
      simp [Roster.logsOf, hw, Watcher.startLog, hne] }

/-- Whatever the source brings and however it ends, whatever removals come to, and whenever anyone starts the watcher
or closes it. -/
theorem heedful_of_runs (r : Roster) (id : String) (source : Source) (o : Helper.Order) {l : Listening}
    (hs : Runs r.watchers.length (carryOut o) (start r id source) l) :
    Heedful r.watchers.length id l :=
  ((inv_start r id source).runs (tidy_carryOut o) hs).heedful

end Heedful

/-- The watcher is closed in the middle of a removal that fails, and hears of one more notice. -/
theorem heedful_of_runs_closed :
    ∃ l, Runs 0 (carryOut default) (start {} "c" {}) l ∧ Heedful 0 "c" l ∧
      taken 0 l.history = [⟨"c", .died, default⟩] ∧ l.roster.holdsOf 0 (·.isListening) = false := by
  suffices h : ∃ l, Runs 0 (carryOut default) (start {} "c" {}) l ∧ taken 0 l.history = [⟨"c", .died, default⟩] ∧
      l.roster.holdsOf 0 (·.isListening) = false by
    obtain ⟨l, hl, hP⟩ := h
    exact ⟨l, hl, heedful_of_runs {} "c" {} default hl, hP⟩
  refine exists_runs_of_step (.other (a := .start 0) nofun) ?_
  refine exists_runs_of_step (.deliver (s := .notice ⟨"c", .died, default⟩) rfl rfl (Watch.hear_eq ..)) ?_
  refine exists_runs_of_step (.turn (.act rfl rfl)) ?_
  refine exists_runs_of_step (.turn (.log rfl)) ?_
  refine exists_runs_of_step (.other (a := .close 0) nofun) ?_
  refine exists_runs_of_step (.turn (.call rfl rfl)) ?_
  refine exists_runs_of_step (.turn (.answer rfl rfl (.error ⟨.other, "lost"⟩) fun f hf => by cases hf; rfl)) ?_
  refine exists_runs_of_step (.turn (.act rfl trivial)) ?_
  refine exists_runs_of_step (.deliver (s := .notice ⟨"c", .stopped, default⟩) rfl rfl (Watch.hear_eq ..)) ?_
  exact ⟨_, .refl, rfl, rfl⟩

end Listening

end ContainerLaunch.Launch
