import ContainerLaunch.Proofs.Cleanup.Deeds
import Mathlib.Data.List.Nodup
/-!
# The roster that deeds leave

`InForce id deeds st r`: the deeds are recorded, and the roster `r` is as they say. Every action of a launch
and of a listener keeps it (`InForce.act`, `InForce.listen`).

From it follow what the roster tells about who is in charge, and how many are (`InForce.size_eq`).
-/

namespace ContainerLaunch.Cleanup

open Function (update)

namespace Roster
variable {r : Roster} {containerId c : String} {t : Ticket} {w : Watcher} {a : Action}

/-- The containers that someone is in charge of. -/
def watched (r : Roster) : List String := r.current.map Prod.fst

theorem length_watched (r : Roster) : r.watched.length = r.size := List.length_map _

theorem mem_watched : containerId ∈ r.watched ↔ (r.get? containerId).isSome := by
  rw [get?, List.lookup_isSome_iff, watched, List.mem_map]
  refine exists_congr fun p => and_congr_right fun _ => ?_
  rw [beq_iff_eq, eq_comm]

theorem watched_deregister : (r.deregister containerId).watched = r.watched.filter (· != containerId) := by
  rw [watched, watched, List.filter_map]
  rfl

theorem watched_register (h : r.watcher? t = some w) :
    (r.register t).watched = w.containerId :: r.watched.filter (· != w.containerId) := by
  rw [← watched_deregister]
  unfold register
  rw [h]
  rfl

theorem nodup_watched_perform (h : r.watched.Nodup) (a : Action) : (r.perform a).roster.watched.Nodup := by
  cases a with
  | register t =>
    show (r.register t).watched.Nodup
    cases ht : r.watcher? t with
    | none =>
      unfold register
      rw [ht]
      exact h
    | some w =>
      rw [watched_register ht, List.nodup_cons]
      refine ⟨fun hm => ?_, h.filter _⟩
      have hne := (List.mem_filter.1 hm).2
      rw [bne_self_eq_false] at hne
      cases hne
  | deregister id =>
    show (r.deregister id).watched.Nodup
    rw [watched_deregister]
    exact h.filter _
  | _ => exact h

/-- Taking someone out of charge makes the roster smaller by one. -/
theorem size_deregister (h : r.watched.Nodup) (containerId : String) :
    (r.deregister containerId).size + (if (r.get? containerId).isSome then 1 else 0) = r.size := by
  rw [← length_watched, ← length_watched, watched_deregister, ← h.erase_eq_filter]
  split
  · next hc => exact List.length_erase_add_one (mem_watched.2 hc)
  · next hc => rw [List.erase_of_not_mem (mt mem_watched.1 hc), Nat.add_zero]

theorem get?_perform_of_aside (h : a.registers = false) (h' : a.deregisters = false) :
    (r.perform a).roster.get? c = r.get? c := by
  cases a with
  | register _ => cases h
  | deregister _ => cases h'
  | _ => rfl

theorem get?_register (h : r.watcher? t = some w) (c : String) :
    (r.register t).get? c = if w.containerId = c then some t else r.get? c := by
  split
  · next hc => rw [← hc, get?_register_self h]
  · next hc => exact get?_register_of_ne h (Ne.symm hc)

theorem displaced?_eq (h : r.watcher? t = some w) :
    r.displaced? t = (r.get? w.containerId).filter (· != t) := by
  rw [displaced?, h, Option.bind_some]

theorem exists_containerId_perform (a : Action) (h : r.watcher? t = some w) :
    ∃ w', (r.perform a).roster.watcher? t = some w' ∧ w'.containerId = w.containerId := by
  let P (w' : Watcher) : Prop := w'.containerId = w.containerId
  have hw : P w := rfl
  cases a with
  | enrol id source => exact ⟨w, watcher?_enrol h _, hw⟩
  | register t' => exact ⟨w, watcher?_register.trans h, hw⟩
  | deregister id => exact ⟨w, h, hw⟩
  | start t' => exact exists_modify h P hw w.alike_start.containerId
  | close t' => exact exists_modify h P hw hw
  | markRemoved t' => exact exists_modify h P hw hw
  | observe t' n => exact exists_modify h P hw w.containerId_observe
  | hear t' s => exact exists_modify h P hw (w.alike_hear s).containerId
  | settle t' answer => exact exists_modify h P hw (w.containerId_settle answer)
  | leave t' => exact exists_modify h P hw hw

end Roster

/-- The deeds are on record, and the roster is what they make it. -/
structure InForce (id : Nat → String) (deeds : List Deed) (st : Nat → Standing) (r : Roster) : Prop where
  recorded : Recorded id deeds st
  get? : ∀ containerId, r.get? containerId = charge id containerId deeds
  nodup : r.watched.Nodup
  watcher : ∀ i t, (st i).ticket? = some t → ∃ w, r.watcher? t = some w ∧ w.containerId = id i

theorem inForce_empty (id : Nat → String) : InForce id [] (fun _ => .unwatched) {} where
  recorded := .nil
  get? := fun _ => rfl
  nodup := List.nodup_nil
  watcher := fun _ _ h => by cases h

namespace InForce
variable {id : Nat → String} {deeds : List Deed} {st : Nat → Standing} {r : Roster} {i : Nat} {a : Roster.Action}
  {s : Standing}

theorem get?_register (h : InForce id deeds st r) {t : Ticket} (ht : (st i).ticket? = some t) (c : String) :
    (r.register t).get? c = if id i = c then some t else r.get? c := by
  obtain ⟨w, hw, hid⟩ := h.watcher i t ht
  rw [Roster.get?_register hw, hid]

theorem displaced?_eq (h : InForce id deeds st r) {t : Ticket} (ht : (st i).ticket? = some t) :
    r.displaced? t = (charge id (id i) deeds).filter (· != t) := by
  obtain ⟨w, hw, hid⟩ := h.watcher i t ht
  rw [Roster.displaced?_eq hw, hid, h.get?]

theorem due (h : InForce id deeds st r) (hs : (st i).Step (id i) a (r.perform a).reply s) :
    Due id st deeds i a (r.perform a).reply := by
  generalize hr : (r.perform a).reply = reply at hs ⊢
  generalize hst : st i = x at hs
  have ht : ∀ t, x.ticket? = some t → r.displaced? t = (charge id (id i) deeds).filter (· != t) := by
    intro t ht
    rw [← hst] at ht
    exact h.displaced?_eq ht
  cases hs with
  | enrol source t =>
    intro j hj
    obtain ⟨w, hw, -⟩ := h.watcher j t hj
    obtain ⟨hlt, -⟩ := List.getElem?_eq_some_iff.1 hw
    have hlen : r.watchers.length = t := hr
    omega
  | register t => exact hr.symm.trans (ht t rfl)
  | replace t displaced => exact hr.symm.trans (ht t rfl)
  | deregister t found => exact hr.symm.trans (h.get? _)
  | _ => trivial

theorem get?_act (h : InForce id deeds st r) (hs : (st i).Step (id i) a (r.perform a).reply s) (c : String) :
    (r.perform a).roster.get? c = charge id c (⟨some i, a, (r.perform a).reply⟩ :: deeds) := by
  generalize (r.perform a).reply = reply at hs ⊢
  generalize hst : st i = x at hs
  have hregister : ∀ t displaced, x.ticket? = some t →
      (r.register t).get? c = charge id c (⟨some i, .register t, displaced⟩ :: deeds) := by
    intro t displaced ht
    rw [← hst] at ht
    rw [h.get?_register ht]
    split
    · next hc => exact (charge_cons_of_some (decides?_register_self hc)).symm
    · next hc => exact (h.get? c).trans (charge_cons_of_none (decides?_register_of_ne hc)).symm
  cases hs with
  | register t => exact hregister t none rfl
  | replace t displaced => exact hregister t _ rfl
  | deregister t found =>
    by_cases hc : c = id i
    · subst hc
      exact (r.get?_deregister_self _).trans (charge_cons_of_some decides?_deregister_self).symm
    · refine ((r.get?_deregister_of_ne hc).trans (h.get? c)).trans (Eq.symm ?_)
      exact charge_cons_of_none (decides?_deregister_of_ne (Ne.symm hc))
  | _ => exact h.get? c

theorem watcher_perform (h : InForce id deeds st r) (a : Roster.Action) {j : Nat} {t : Ticket}
    (ht : (st j).ticket? = some t) : ∃ w, (r.perform a).roster.watcher? t = some w ∧ w.containerId = id j := by
  obtain ⟨w, hw, hid⟩ := h.watcher j t ht
  obtain ⟨w', hw', hid'⟩ := Roster.exists_containerId_perform a hw
  exact ⟨w', hw', hid'.trans hid⟩

theorem watcher_act (h : InForce id deeds st r) (hs : (st i).Step (id i) a (r.perform a).reply s) {t : Ticket}
    (ht : s.ticket? = some t) : ∃ w, (r.perform a).roster.watcher? t = some w ∧ w.containerId = id i := by
  generalize hr : (r.perform a).reply = reply at hs
  generalize hst : st i = x at hs
  have hkept : x.ticket? = s.ticket? →
      ∃ w, (r.perform a).roster.watcher? t = some w ∧ w.containerId = id i :=
    fun he => h.watcher_perform a ((congrArg Standing.ticket? hst).trans (he.trans ht))
  cases hs with
  | enrol source t' =>
    cases ht
    have hlen : r.watchers.length = t := hr
    refine ⟨{ containerId := id i, source }, ?_, rfl⟩
    show (r.watchers ++ [_])[t]? = _
    rw [← hlen, List.getElem?_concat_length]
  | _ => exact hkept rfl

theorem act (h : InForce id deeds st r) (hs : (st i).Step (id i) a (r.perform a).reply s) :
    InForce id (⟨some i, a, (r.perform a).reply⟩ :: deeds) (update st i s) (r.perform a).roster where
  recorded := h.recorded.launch hs (h.due hs)
  get? := h.get?_act hs
  nodup := Roster.nodup_watched_perform h.nodup a
  watcher := fun j t ht => by
    by_cases hj : j = i
    · subst hj
      rw [Function.update_self] at ht
      exact h.watcher_act hs ht
    · rw [Function.update_of_ne hj] at ht
      exact h.watcher_perform a ht

theorem listen (h : InForce id deeds st r) (ha : a.IsListening) :
    InForce id (⟨none, a, (r.perform a).reply⟩ :: deeds) st (r.perform a).roster where
  recorded := h.recorded.listener ha
  get? := fun c => by
    have hr : a.registers = false ∧ a.deregisters = false := by
      cases a <;> first | exact ⟨rfl, rfl⟩ | cases ha
    rw [Roster.get?_perform_of_aside hr.1 hr.2, charge_of_listening ha, h.get?]
  nodup := Roster.nodup_watched_perform h.nodup a
  watcher := fun _ _ ht => h.watcher_perform a ht

/-- With a container for each launch, the roster counts the launches that have put a watcher in charge and
not taken it out of charge. -/
theorem size_eq (h : InForce id deeds st r) (ha : Apart id st) {n : Nat} (hn : ∀ i, n ≤ i → st i = .unwatched) :
    r.size = ((List.range n).filter (watching deeds)).length := by
  have hmem : ∀ i, i ∈ (List.range n).filter (watching deeds) ↔ (st i).charge?.isSome := by
    intro i
    rw [List.mem_filter, List.mem_range, h.recorded.watching_eq]
    refine and_iff_right_of_imp fun hi => ?_
    by_contra hlt
    rw [hn i (Nat.le_of_not_lt hlt)] at hi
    cases hi
  have hne : ∀ i ∈ (List.range n).filter (watching deeds), st i ≠ .unwatched := by
    intro i hi hu
    rw [hmem, hu] at hi
    cases hi
  have hperm : r.watched.Perm (((List.range n).filter (watching deeds)).map id) := by
    refine (List.perm_ext_iff_of_nodup h.nodup ?_).2 fun c => ?_
    · refine List.Nodup.map_on (fun i hi j hj => ha i j (hne i hi) (hne j hj)) ?_
      exact List.nodup_range.filter _
    · rw [Roster.mem_watched, h.get?, Option.isSome_iff_exists, List.mem_map]
      constructor
      · rintro ⟨t, ht⟩
        obtain ⟨i, hi, hc⟩ := (h.recorded.charge_eq_some_iff ha).1 ht
        exact ⟨i, (hmem i).2 (Option.isSome_iff_exists.2 ⟨t, hc⟩), hi⟩
      · rintro ⟨i, hi, hid⟩
        obtain ⟨t, hc⟩ := Option.isSome_iff_exists.1 ((hmem i).1 hi)
        exact ⟨t, (h.recorded.charge_eq_some_iff ha).2 ⟨i, hid, hc⟩⟩
  rw [← r.length_watched, hperm.length_eq, List.length_map]

end InForce

end ContainerLaunch.Cleanup
