import ContainerLaunch.Proofs.Cleanup.Charge
import ContainerLaunch.Proofs.Launch.Conduct
import Mathlib.Data.Set.Card
/-!
# In whose custody a watcher is

Whoever shares a roster may put watchers in charge, take them out of charge and ask who is in charge. `visits` is
what comes of such calls, the latest first, and `Kept` what the roster owes to those who call: it tells who was put
in charge last, and no watcher is lost on the way. One that is not in charge any more was handed back or closed
(`kept_visits`).
-/

namespace ContainerLaunch.Launch

open Cleanup
open Procedure

namespace Custody

/-- What may be asked of a roster on which `n` watchers are enrolled. -/
inductive Call (n : Nat) where
  | register (t : Fin n)
  | deregister (containerId : String)
  | get (containerId : String)

/-- A call, the roster before and after it, and what it came to. -/
structure Visit (n : Nat) where
  call : Call n
  before : Roster
  after : Roster
  result : Except Failure (Option Ticket)

/-- What a procedure comes to on a roster, and the roster after it. -/
def onRoster {α : Type} (told : Told) (r : Roster) (p : Procedure Failure α) : Except Failure α × Roster :=
  let (result, after, _) := (p.run (respond told)).run (r, [])
  (result, after)

/-- What a call comes to, and the roster after it. -/
def serve {n : Nat} (told : Told) (r : Roster) : Call n → Except Failure (Option Ticket) × Roster
  | .register t => onRoster told r do
    Watch.register t
    return none
  | .deregister containerId => onRoster told r (act (.deregister containerId))
  | .get containerId => (.ok (r.get? containerId), r)

/-- A call on a roster, with what comes of it. -/
def visit {n : Nat} (told : Told) (r : Roster) (c : Call n) : Visit n where
  call := c
  before := r
  after := (serve told r c).2
  result := (serve told r c).1

section
variable (told : Told) (watchers : List Watcher)

/-- The roster after calls, of which the latest comes first. At the beginning nobody is in charge. -/
def roster : List (Call watchers.length) → Roster
  | [] => { watchers }
  | c :: earlier => (visit told (roster earlier) c).after

/-- What came of each of the calls, the latest first. -/
def visits : List (Call watchers.length) → List (Visit watchers.length)
  | [] => []
  | c :: earlier => visit told (roster told watchers earlier) c :: visits earlier

end

/-! ## What callers are owed -/

section
variable (watchers : List Watcher)

/-- The call decides who is in charge of a container. -/
def Call.Decides (containerId : String) : Call watchers.length → Prop
  | .register t => watchers[t].containerId = containerId
  | .deregister containerId' => containerId' = containerId
  | .get _ => False

/-- The watcher was put in charge of the container, and nothing has been decided about that since. -/
def LastRegistered (calls : List (Call watchers.length)) (containerId : String) (t : Ticket) : Prop :=
  ∃ since u earlier, calls = since ++ .register u :: earlier ∧ watchers[u].containerId = containerId ∧ u.val = t ∧
    ∀ c ∈ since, ¬ c.Decides watchers containerId

end

/-- How often the source of a watcher was closed. -/
def closes (r : Roster) (t : Ticket) : Nat := ((r.watcher? t).map (·.source.closes)).getD 0

namespace Visit
variable {n : Nat}

/-- The watcher is taken out of charge and handed to the caller. -/
def Returns (v : Visit n) (t : Ticket) : Prop :=
  (∃ containerId, v.call = .deregister containerId) ∧ v.result = .ok (some t)

/-- The watcher is closed, once. -/
def Closes (v : Visit n) (t : Ticket) : Prop := closes v.after t = closes v.before t + 1

/-- Another watcher takes the place of this one. -/
def Displaces {watchers : List Watcher} (v : Visit watchers.length) (t : Ticket) : Prop :=
  ∃ u, v.call = .register u ∧ v.before.get? watchers[u].containerId = some t ∧ t ≠ u

/-- A call tells its caller what was so before it, and closes the watcher that it displaces and no other, even if
closing goes wrong. -/
structure Lawful {watchers : List Watcher} (v : Visit watchers.length) : Prop where
  result : v.result = .ok (match v.call with
    | .register _ => none
    | .deregister containerId | .get containerId => v.before.get? containerId)
  closes_displaced : ∀ t, v.Displaces t → v.Closes t
  closes_other : ∀ t, ¬ v.Displaces t → closes v.after t = closes v.before t

end Visit

/-- The watcher has left the roster as `leaves` says, and nothing has happened to it since. -/
def LastLeft {n : Nat} (visits : List (Visit n)) (t : Fin n) (leaves : Visit n → Prop) : Prop :=
  ∃ since v earlier, visits = since ++ v :: earlier ∧ leaves v ∧
    ∀ v' ∈ since, v'.call ≠ .register t ∧ ¬ v'.Returns t ∧ ¬ v'.Closes t

/-- Who is in charge is whom the calls put in charge last, all calls are lawful, and every watcher that was put in
charge is still there, or was handed to a caller, or was closed when it lost its place. -/
structure Kept (watchers : List Watcher) (calls : List (Call watchers.length))
    (visits : List (Visit watchers.length)) (r : Roster) : Prop where
  get? : ∀ containerId t, r.get? containerId = some t ↔ LastRegistered watchers calls containerId t
  size : r.size = {containerId | ∃ t, r.get? containerId = some t}.ncard
  lawful : ∀ v ∈ visits, v.Lawful
  custody : ∀ t, .register t ∈ calls →
    r.get? watchers[t].containerId = some t.val ∨ LastLeft visits t (·.Returns t) ∨ LastLeft visits t (·.Closes t)

/-! ## One call -/

section Serve
variable {told : Told} {r : Roster} {n : Nat} {t : Ticket}

/-- The roster after a watcher was put in charge. Another one that lost its place is closed. -/
def replaced (r : Roster) (t : Ticket) : Roster :=
  match r.displaced? t with
  | none => r.register t
  | some displaced => (r.register t).modify displaced (·.close)

theorem serve_register (t : Fin n) : serve told r (.register t) = (.ok none, replaced r t) := by
  -- Registering begins with the action, and only what follows it depends on who lost a place.
  have hserve : ∀ next, (do Watch.register t; return none) = Procedure.ask (.act (.register t)) next →
      serve told r (.register t) = onRoster told (r.register t) (next (r.displaced? t)) := by
    intro next hnext
    show onRoster told r (do Watch.register t; return none) = _
    rw [hnext]
    rfl
  rw [hserve _ rfl, replaced]
  cases r.displaced? t <;> rfl

theorem get?_replaced (containerId : String) : (replaced r t).get? containerId = (r.register t).get? containerId := by
  unfold replaced
  split <;> rfl

theorem watched_replaced : (replaced r t).watched = (r.register t).watched := by
  unfold replaced
  split <;> rfl

theorem closes_register (t u : Ticket) : closes (r.register t) u = closes r u :=
  congrArg (fun w? => (Option.map _ w?).getD 0) Roster.watcher?_register

theorem closes_modify_close {w : Watcher} (h : r.watcher? t = some w) (u : Ticket) :
    closes (r.modify t (·.close)) u = closes r u + if u = t then 1 else 0 := by
  unfold closes
  split
  · next hu =>
    subst hu
    rw [Roster.watcher?_modify_self h, h]
    rfl
  · next hu => rw [Roster.watcher?_modify_of_ne (Ne.symm hu), Nat.add_zero]

end Serve

/-! ## Any number of calls -/

section Decides
variable {watchers : List Watcher} {calls : List (Call watchers.length)} {c : Call watchers.length}
  {containerId : String} {t : Ticket}

theorem not_lastRegistered_nil : ¬ LastRegistered watchers [] containerId t := by
  rintro ⟨since, u, earlier, h, -⟩
  exact List.append_ne_nil_of_right_ne_nil since (List.cons_ne_nil _ _) h.symm

theorem lastRegistered_cons_of_decides (hc : c.Decides watchers containerId) :
    LastRegistered watchers (c :: calls) containerId t ↔ ∃ u, c = .register u ∧ u.val = t := by
  constructor
  · rintro ⟨since, u, earlier, h, -, rfl, hsince⟩
    cases since with
    | nil => exact ⟨u, (List.cons.inj h).1, rfl⟩
    | cons c' since =>
      obtain ⟨rfl, -⟩ := List.cons.inj h
      exact absurd hc (hsince c List.mem_cons_self)
  · rintro ⟨u, rfl, rfl⟩
    exact ⟨[], u, calls, rfl, hc, rfl, fun _ h => nomatch h⟩

theorem lastRegistered_cons_of_not_decides (hc : ¬ c.Decides watchers containerId) :
    LastRegistered watchers (c :: calls) containerId t ↔ LastRegistered watchers calls containerId t := by
  constructor
  · rintro ⟨since, u, earlier, h, hu, rfl, hsince⟩
    cases since with
    | nil =>
      obtain ⟨rfl, -⟩ := List.cons.inj h
      exact absurd hu hc
    | cons c' since =>
      exact ⟨since, u, earlier, (List.cons.inj h).2, hu, rfl, (List.forall_mem_cons.1 hsince).2⟩
  · rintro ⟨since, u, earlier, rfl, hu, rfl, hsince⟩
    exact ⟨c :: since, u, earlier, rfl, hu, rfl, List.forall_mem_cons.2 ⟨hc, hsince⟩⟩

end Decides

/-- The roster is what the calls have made of it. -/
structure Inv (watchers : List Watcher) (calls : List (Call watchers.length)) (r : Roster) : Prop where
  get? : ∀ containerId t, r.get? containerId = some t ↔ LastRegistered watchers calls containerId t
  watcher : ∀ t : Fin watchers.length, ∃ w, r.watcher? t = some w ∧ w.containerId = watchers[t].containerId
  nodup : r.watched.Nodup

theorem inv_nil (watchers : List Watcher) : Inv watchers [] { watchers } where
  get? := fun _ _ => iff_of_false (fun h => nomatch h) not_lastRegistered_nil
  watcher := fun t => ⟨watchers[t], List.getElem?_eq_getElem t.isLt, rfl⟩
  nodup := List.nodup_nil

namespace Inv
variable {watchers : List Watcher} {calls : List (Call watchers.length)} {r : Roster}
  {containerId : String} {t : Ticket}

theorem exists_of_get? (h : Inv watchers calls r) (hg : r.get? containerId = some t) :
    ∃ u : Fin watchers.length, u.val = t ∧ watchers[u].containerId = containerId := by
  obtain ⟨_, u, _, _, hu, hut, _⟩ := (h.get? containerId t).1 hg
  exact ⟨u, hut, hu⟩

theorem displaced?_eq_some_iff (h : Inv watchers calls r) (u : Fin watchers.length) :
    r.displaced? u = some t ↔ r.get? watchers[u].containerId = some t ∧ t ≠ u := by
  obtain ⟨w, hw, hid⟩ := h.watcher u
  rw [Roster.displaced?_eq hw, hid, Option.filter_eq_some_iff, bne_iff_ne]

theorem get?_register (h : Inv watchers calls r) (u : Fin watchers.length) (containerId : String) :
    (r.register u).get? containerId =
      if watchers[u].containerId = containerId then some u.val else r.get? containerId := by
  obtain ⟨w, hw, hid⟩ := h.watcher u
  rw [Roster.get?_register hw, hid]

theorem closes_replaced (h : Inv watchers calls r) (u : Fin watchers.length) (t : Ticket) :
    closes (replaced r u) t = closes r t + if r.displaced? u = some t then 1 else 0 := by
  unfold replaced
  cases hd : r.displaced? u with
  | none => exact closes_register u t
  | some displaced =>
    obtain ⟨hg, -⟩ := (h.displaced?_eq_some_iff u).1 hd
    obtain ⟨v, rfl, -⟩ := h.exists_of_get? hg
    obtain ⟨w, hw, -⟩ := h.watcher v
    dsimp only
    rw [closes_modify_close (Roster.watcher?_register.trans hw), closes_register]
    simp only [Option.some.injEq, eq_comm]

theorem register (h : Inv watchers calls r) (u : Fin watchers.length) :
    Inv watchers (.register u :: calls) (replaced r u) where
  get? containerId t := by
    rw [get?_replaced, h.get?_register]
    split
    · next hc =>
      have hc : (Call.register u).Decides watchers containerId := hc
      rw [lastRegistered_cons_of_decides hc]
      simp
    · next hc =>
      have hc : ¬ (Call.register u).Decides watchers containerId := hc
      rw [lastRegistered_cons_of_not_decides hc, h.get?]
  watcher t := by
    obtain ⟨w, hw, hid⟩ := h.watcher t
    have hw : (r.register u).watcher? t = some w := Roster.watcher?_register.trans hw
    unfold replaced
    split
    · exact ⟨w, hw, hid⟩
    · exact Roster.exists_modify hw (fun w => w.containerId = watchers[t].containerId) hid hid
  nodup := watched_replaced ▸ Roster.nodup_watched_perform h.nodup (.register u)

theorem deregister (h : Inv watchers calls r) (containerId : String) :
    Inv watchers (.deregister containerId :: calls) (r.deregister containerId) where
  get? other t := by
    by_cases hc : (Call.deregister containerId).Decides watchers other
    · rw [lastRegistered_cons_of_decides hc]
      obtain rfl : containerId = other := hc
      rw [r.get?_deregister_self]
      simp
    · have hne : other ≠ containerId := Ne.symm hc
      rw [r.get?_deregister_of_ne hne, lastRegistered_cons_of_not_decides hc, h.get?]
  watcher := h.watcher
  nodup := Roster.nodup_watched_perform h.nodup (.deregister containerId)

theorem step (h : Inv watchers calls r) (told : Told) (c : Call watchers.length) :
    Inv watchers (c :: calls) (visit told r c).after := by
  cases c with
  | register u =>
    show Inv _ _ (serve told r (.register u)).2
    rw [serve_register]
    exact h.register u
  | deregister containerId => exact h.deregister containerId
  | get containerId =>
    exact ⟨fun _ _ => (h.get? _ _).trans (lastRegistered_cons_of_not_decides id).symm, h.watcher, h.nodup⟩

theorem lawful_visit (h : Inv watchers calls r) (told : Told) (c : Call watchers.length) :
    (visit told r c).Lawful := by
  cases c with
  | register u =>
    have hserve : serve told r (.register u) = (.ok none, replaced r u) := serve_register u
    have hdisplaces (t : Ticket) : (visit told r (.register u)).Displaces t ↔ r.displaced? u = some t := by
      rw [h.displaced?_eq_some_iff]
      constructor
      · rintro ⟨_, ⟨⟩, ht⟩
        exact ht
      · exact fun ht => ⟨u, rfl, ht⟩
    have hcloses (t : Ticket) := h.closes_replaced u t
    refine ⟨congrArg Prod.fst hserve, fun t ht => ?_, fun t ht => ?_⟩
    · show closes (serve told r (.register u)).2 t = closes r t + 1
      rw [hserve, hcloses, if_pos ((hdisplaces t).1 ht)]
    · show closes (serve told r (.register u)).2 t = closes r t
      rw [hserve, hcloses, if_neg (mt (hdisplaces t).2 ht), Nat.add_zero]
  | deregister containerId => exact ⟨rfl, fun _ ⟨_, hu, _⟩ => (nomatch hu), fun _ _ => rfl⟩
  | get containerId => exact ⟨rfl, fun _ ⟨_, hu, _⟩ => (nomatch hu), fun _ _ => rfl⟩

theorem size_eq (h : Inv watchers calls r) : r.size = {containerId | ∃ t, r.get? containerId = some t}.ncard := by
  have hset : {containerId | ∃ t, r.get? containerId = some t} = ↑r.watched.toFinset := by
    ext containerId
    rw [Set.mem_ofPred_eq, Finset.mem_coe, List.mem_toFinset, Roster.mem_watched, Option.isSome_iff_exists]
  rw [hset, Set.ncard_coe_finset, List.toFinset_card_of_nodup h.nodup, Roster.length_watched]

/-- Only who is in charge can be handed back or closed. -/
theorem not_leaves (h : Inv watchers calls r) {u : Fin watchers.length}
    (hg : r.get? watchers[u].containerId ≠ some u.val) (told : Told) (c : Call watchers.length) :
    ¬ (visit told r c).Returns u ∧ ¬ (visit told r c).Closes u := by
  have habsent (containerId : String) : r.get? containerId ≠ some u.val := by
    intro hg'
    obtain ⟨v, hvu, rfl⟩ := h.exists_of_get? hg'
    exact hg (Fin.ext hvu ▸ hg')
  refine ⟨fun ⟨⟨containerId, hc⟩, hr⟩ => ?_, fun hcl => ?_⟩
  · obtain rfl : c = .deregister containerId := hc
    exact habsent containerId (Except.ok.inj hr)
  · have hnot : ¬ (visit told r c).Displaces u.val := fun ⟨_, _, hg', _⟩ => habsent _ hg'
    have hsame := (h.lawful_visit told c).closes_other u hnot
    rw [Visit.Closes] at hcl
    omega

/-- Who is not in charge any more was handed back or closed. -/
theorem leaves (h : Inv watchers calls r) {told : Told} {u : Fin watchers.length} {c : Call watchers.length}
    (hg : r.get? watchers[u].containerId = some u.val)
    (hg' : (visit told r c).after.get? watchers[u].containerId ≠ some u.val) :
    (visit told r c).Returns u ∨ (visit told r c).Closes u := by
  cases c with
  | register v =>
    have hafter : (visit told r (.register v)).after = replaced r v := congrArg Prod.snd (serve_register v)
    rw [hafter, get?_replaced, h.get?_register] at hg'
    split at hg'
    · next hid =>
      refine .inr ((h.lawful_visit told _).closes_displaced u ⟨v, rfl, ?_, fun hvu => hg' (hvu ▸ rfl)⟩)
      exact hid ▸ hg
    · exact absurd hg hg'
  | deregister containerId =>
    by_cases hid : containerId = watchers[u].containerId
    · exact .inl ⟨⟨containerId, rfl⟩, congrArg Except.ok (hid ▸ hg)⟩
    · exact absurd ((r.get?_deregister_of_ne (Ne.symm hid)).trans hg) hg'
  | get containerId => exact absurd hg hg'

end Inv

section Kept
variable {n : Nat} {past : List (Visit n)} {t : Fin n} {leaves : Visit n → Prop} {v : Visit n}

theorem lastLeft_cons_self (h : leaves v) : LastLeft (v :: past) t leaves :=
  ⟨[], v, past, rfl, h, fun _ h => nomatch h⟩

theorem LastLeft.cons (h : LastLeft past t leaves) (hv : v.call ≠ .register t ∧ ¬ v.Returns t ∧ ¬ v.Closes t) :
    LastLeft (v :: past) t leaves := by
  obtain ⟨since, left, earlier, rfl, hl, hsince⟩ := h
  exact ⟨v :: since, left, earlier, rfl, hl, List.forall_mem_cons.2 ⟨hv, hsince⟩⟩

end Kept

theorem inv_roster (told : Told) (watchers : List Watcher) (calls : List (Call watchers.length)) :
    Inv watchers calls (roster told watchers calls) := by
  induction calls with
  | nil => exact inv_nil watchers
  | cons c calls ih => exact ih.step told c

theorem lastLeft_of_not_current (told : Told) {watchers : List Watcher} {calls : List (Call watchers.length)}
    {t : Fin watchers.length} (hreg : .register t ∈ calls)
    (ht : (roster told watchers calls).get? watchers[t].containerId ≠ some t.val) :
    LastLeft (visits told watchers calls) t (·.Returns t) ∨ LastLeft (visits told watchers calls) t (·.Closes t) := by
  induction calls with
  | nil => cases hreg
  | cons c calls ih =>
    have hinv := inv_roster told watchers calls
    by_cases hcur : (roster told watchers calls).get? watchers[t].containerId = some t.val
    · exact (hinv.leaves hcur ht).imp lastLeft_cons_self lastLeft_cons_self
    · -- It has left before, and this call neither brings it back nor has anything to do with it.
      have hc : c ≠ .register t := by
        rintro rfl
        have hdec : (Call.register t).Decides watchers watchers[t].containerId := rfl
        exact ht (((hinv.step told _).get? _ _).2 ((lastRegistered_cons_of_decides hdec).2 ⟨t, rfl, rfl⟩))
      have hkept := And.intro hc (hinv.not_leaves hcur told c)
      exact (ih (List.mem_of_ne_of_mem hc.symm hreg) hcur).imp (·.cons hkept) (·.cons hkept)

/-- The roster keeps what it owes, whoever is put in charge however often, and even if sources cannot be closed. -/
theorem kept_visits (told : Told) (watchers : List Watcher) (calls : List (Call watchers.length)) :
    Kept watchers calls (visits told watchers calls) (roster told watchers calls) where
  get? := (inv_roster told watchers calls).get?
  size := (inv_roster told watchers calls).size_eq
  lawful := by
    induction calls with
    | nil => exact fun _ h => nomatch h
    | cons c calls ih => exact List.forall_mem_cons.2 ⟨(inv_roster told watchers calls).lawful_visit told c, ih⟩
  custody := fun _ hreg => or_iff_not_imp_left.2 (lastLeft_of_not_current told hreg)

end Custody

end ContainerLaunch.Launch
