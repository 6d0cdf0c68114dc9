import ContainerLaunch.Proofs.Launch.Traffic
/-!
# A launch that takes another's place

A launch that puts its watcher in charge takes the place of an earlier launch of the same container. From then
on its watcher is in charge until someone takes the container's watcher out of charge, and that need not be
itself: the earlier launch does so when it lets its own watcher go (`TakenOver`). The later launch is then left
with a watcher that nobody closed and that the roster no longer knows.
-/

namespace ContainerLaunch.Cleanup

section Deciding
variable {id : Nat → String} {containerId : String} {d : Deed} {deeds recent : List Deed} {i : Nat} {t : Ticket}

/-- The deed puts no watcher in charge of the container. -/
def Deed.Spares (id : Nat → String) (containerId : String) (d : Deed) : Prop :=
  ∀ i t, d.who = some i → d.action = .register t → id i ≠ containerId

theorem Deed.spares_of_registers (h : d.action.registers = false) : d.Spares id containerId := by
  intro i t _ ht
  rw [ht] at h
  cases h

theorem decides?_of_deregister (h : d.action = .deregister containerId) :
    d.decides? id containerId = some none := by
  obtain ⟨who, a, reply⟩ := d
  obtain rfl : a = .deregister containerId := h
  exact decides?_deregister_self

theorem Deed.Spares.decides? (h : d.Spares id containerId) (hd : d.action ≠ .deregister containerId) :
    d.decides? id containerId = none := by
  obtain ⟨who, a, reply⟩ := d
  cases a with
  | register t =>
    cases who with
    | none => rfl
    | some i => exact decides?_register_of_ne (h i t rfl rfl)
  | deregister containerId' =>
    refine decides?_deregister_of_ne fun he => hd ?_
    rw [he]
  | _ => cases who <;> rfl

theorem charge_append_of_mem (hs : ∀ d ∈ recent, d.Spares id containerId)
    (hd : ∃ d ∈ recent, d.action = .deregister containerId) : charge id containerId (recent ++ deeds) = none := by
  induction recent with
  | nil =>
    obtain ⟨d, hd, -⟩ := hd
    cases hd
  | cons d recent ih =>
    rw [List.cons_append]
    by_cases hout : d.action = .deregister containerId
    · exact charge_cons_of_some (decides?_of_deregister hout)
    · rw [charge_cons_of_none ((hs d List.mem_cons_self).decides? hout)]
      refine ih (fun d hd => hs d (List.mem_cons_of_mem _ hd)) ?_
      obtain ⟨d', hd', ho⟩ := hd
      rcases List.mem_cons.1 hd' with rfl | hd'
      · exact absurd ho hout
      · exact ⟨d', hd', ho⟩

/-- Once a launch has put a watcher in charge, and no other is put in charge, it is in charge until somebody
takes the container's watcher out of charge. -/
theorem charge_since (t : Ticket) (displaced : Option Ticket) (deeds : List Deed)
    (hs : ∀ d ∈ recent, d.Spares id (id i)) :
    charge id (id i) (recent ++ ⟨some i, .register t, displaced⟩ :: deeds) = some t ∧
        (∀ d ∈ recent, d.action ≠ .deregister (id i)) ∨
      charge id (id i) (recent ++ ⟨some i, .register t, displaced⟩ :: deeds) = none ∧
        ∃ d ∈ recent, d.action = .deregister (id i) := by
  by_cases hout : ∃ d ∈ recent, d.action = .deregister (id i)
  · exact .inr ⟨charge_append_of_mem hs hout, hout⟩
  · have hkept : ∀ d ∈ recent, d.action ≠ .deregister (id i) := fun d hd ho => hout ⟨d, hd, ho⟩
    refine .inl ⟨?_, hkept⟩
    rw [charge_append_of_none fun d hd => (hs d hd).decides? (hkept d hd)]
    exact charge_cons_of_some (decides?_register_self rfl)

end Deciding

namespace Recorded
variable {id : Nat → String} {st : Nat → Standing} {deeds recent older : List Deed} {i j : Nat} {t t' : Ticket}
  {who : Option Nat} {containerId : String} {displaced : Option Ticket}

/-- Launches take watchers of their own container out of charge. -/
theorem id_of_deregister {found : Option Ticket} (h : Recorded id deeds st)
    (hd : ⟨some i, .deregister containerId, found⟩ ∈ deeds) : id i = containerId := by
  obtain ⟨recent, earlier, st', rfl, h'⟩ := h.exists_earlier hd
  cases h' with
  | @launch _ st i _ _ s he hs hd =>
    generalize st i = x at hs
    cases hs
    rfl

/-- A launch that registers its watcher owns it, and has registered nothing before. -/
theorem of_register (h : Recorded id (⟨some i, .register t, displaced⟩ :: older) st) :
    Owns older i t ∧ older.any (·.isBy i (·.registers)) = false := by
  cases h with
  | @launch _ st i _ _ s he hs hd =>
    rw [he.owns_iff, he.any_registers]
    generalize st i = x at hs
    cases hs <;> exact ⟨rfl, rfl⟩

/-- The watcher of a launch whose place nobody takes is closed by that launch only. -/
theorem who_of_close (h : Recorded id (recent ++ ⟨some i, .register t, displaced⟩ :: older) st)
    (hs : ∀ d ∈ recent, d.Spares id (id i))
    (hc : ⟨who, .close t, ()⟩ ∈ recent ++ ⟨some i, .register t, displaced⟩ :: older) : who = some i := by
  obtain ⟨st', h'⟩ := h.of_append
  obtain ⟨ho, hfirst⟩ := h'.of_register
  have hself : Recorded id ([⟨some i, .register t, displaced⟩] ++ older) st' := h'
  obtain ⟨st'', hold⟩ := hself.of_append
  obtain ⟨j, rfl, hj | ⟨t', ht'⟩⟩ := h.exists_closer hc
  · exact congrArg some (h.owner_unique hj (.append ho))
  · -- Launch `j` would have taken the place of the watcher: since it was put in charge, then, or before.
    obtain ⟨hdiff, -, k, hid, hk, -⟩ := h.exists_displaced ht'
    obtain rfl := h.owner_unique hk (.append ho)
    rcases List.mem_append.1 ht' with hrecent | hrest
    · exact absurd hid.symm (hs _ hrecent j t' rfl rfl)
    · rcases List.mem_cons.1 hrest with heq | holder
      · cases heq
        exact absurd rfl hdiff
      · obtain ⟨-, -, l, -, hl, hany⟩ := hold.exists_displaced holder
        obtain rfl := h.owner_unique (.append hl) (.append ho)
        rw [hfirst] at hany
        cases hany

/-- An earlier launch that has let its watcher go has taken the later one's out of charge. -/
theorem exists_deregister_of_isOver (h : Recorded id (recent ++ ⟨some i, .register t, displaced⟩ :: older) st)
    (hj : watching older j) (ho : (st j).IsOver) (hleft : ¬ (st j).IsStranded) :
    ∃ d ∈ recent, d.action = .deregister (id j) := by
  obtain ⟨hreg, hkept⟩ := Bool.and_eq_true_iff.1 hj
  have hkept : older.any (·.isBy j (·.deregisters)) = false := Bool.not_eq_true' _ ▸ hkept
  have hregistered : (st j).hasRegistered := by
    rw [← h.any_registers, List.any_append, List.any_cons, hreg, Bool.or_true, Bool.or_true]
  have hgone : (st j).hasDeregistered := by
    cases hs : st j with
    | gone t => rfl
    | unwatched => rw [hs] at hregistered; cases hregistered
    | stranded t => exact absurd (hs ▸ trivial) hleft
    | _ => rw [hs] at ho; cases ho
  have hself : Deed.isBy j (·.deregisters) ⟨some i, .register t, displaced⟩ = false := Bool.and_false _
  rw [← h.any_deregisters, List.any_append, List.any_cons, hkept, hself, Bool.or_false, Bool.or_false,
    List.any_eq_true] at hgone
  obtain ⟨⟨who, a, reply⟩, hd, hby⟩ := hgone
  obtain ⟨hwho, hout⟩ := Bool.and_eq_true_iff.1 hby
  obtain rfl : who = some j := eq_of_beq hwho
  cases a with
  | deregister c =>
    refine ⟨_, hd, ?_⟩
    rw [h.id_of_deregister (List.mem_append_left _ hd)]
  | _ => cases hout

/-- While nobody else takes its place, a launch's watcher is taken out of charge by that launch, or by an earlier
one that still thinks its own in charge. -/
theorem who_of_deregister (h : Recorded id (recent ++ ⟨some i, .register t, displaced⟩ :: older) st)
    (hs : ∀ d ∈ recent, d.Spares id (id i)) {d : Deed} (hd : d ∈ recent) (hc : d.action = .deregister (id i)) :
    ∃ j, d.who = some j ∧ id j = id i ∧ (j = i ∨ watching older j) := by
  obtain ⟨later, between, rfl⟩ := List.append_of_mem hd
  rw [List.append_assoc, List.cons_append] at h
  obtain ⟨st', h'⟩ := h.of_append
  cases h' with
  | @listener _ _ a _ _ ha =>
    obtain rfl : a = .deregister (id i) := hc
    cases ha
  | @launch _ st j a _ _ he hstep _ =>
    obtain rfl : a = .deregister (id i) := hc
    obtain ⟨hid, hregistered, hkept⟩ :
        id i = id j ∧ (st j).hasRegistered = true ∧ (st j).hasDeregistered = false := by
      generalize id i = c at hstep ⊢
      generalize st j = x at hstep ⊢
      cases hstep
      exact ⟨rfl, rfl, rfl⟩
    refine ⟨j, rfl, hid.symm, ?_⟩
    rw [← he.any_registers, List.any_append, List.any_cons, Bool.or_eq_true, Bool.or_eq_true] at hregistered
    rw [← he.any_deregisters, List.any_append, List.any_cons, Bool.or_eq_false_iff, Bool.or_eq_false_iff] at hkept
    rcases hregistered with hbetween | hself | holder
    · obtain ⟨⟨who, a, reply⟩, hd', hby⟩ := List.any_eq_true.1 hbetween
      obtain ⟨hwho, hin⟩ := Bool.and_eq_true_iff.1 hby
      cases a with
      | register t' =>
        exact absurd hid.symm (hs _ (List.mem_append_right _ (List.mem_cons_of_mem _ hd')) j t' (eq_of_beq hwho) rfl)
      | _ => cases hin
    · obtain ⟨hwho, -⟩ := Bool.and_eq_true_iff.1 hself
      exact .inl (Option.some.inj (eq_of_beq hwho)).symm
    · exact .inr (Bool.and_eq_true_iff.2 ⟨holder, Bool.not_eq_true' _ ▸ hkept.2.2⟩)

end Recorded

/-- The roster knows the watcher, and counts it, for as long as it is in charge. -/
theorem InForce.get?_since {id : Nat → String} {st : Nat → Standing} {r : Roster} {recent older : List Deed}
    {i : Nat} {t : Ticket} {displaced : Option Ticket}
    (h : InForce id (recent ++ ⟨some i, .register t, displaced⟩ :: older) st r)
    (hs : ∀ d ∈ recent, d.Spares id (id i)) :
    (r.get? (id i) = some t ∧ r.size = (r.deregister (id i)).size + 1 ∧
        ∀ d ∈ recent, d.action ≠ .deregister (id i)) ∨
      r.get? (id i) = none ∧ r.size = (r.deregister (id i)).size ∧
        ∃ d ∈ recent, d.action = .deregister (id i) := by
  have hsize := Roster.size_deregister h.nodup (id i)
  rcases charge_since t displaced older hs with ⟨hin, hkept⟩ | ⟨hnone, hout⟩
  · have hget := (h.get? (id i)).trans hin
    rw [hget] at hsize
    exact .inl ⟨hget, hsize.symm, hkept⟩
  · have hget := (h.get? (id i)).trans hnone
    rw [hget] at hsize
    exact .inr ⟨hget, hsize.symm, hout⟩

end ContainerLaunch.Cleanup

namespace ContainerLaunch.Launch

open Cleanup
open Procedure

variable {ε α : Type} {id : Nat → String} {w : Traffic ε α} {i : Nat} {t : Ticket} {displaced : Option Ticket}
  {recent older : List Deed}

/-- How it goes with the watcher `t` that launch `i` put in charge after the deeds `older`, when no other watcher
of the container was put in charge in the deeds since, `recent`. -/
structure TakenOver (told : Nat → Told) (id : Nat → String) (w : Traffic ε α) (i : Nat) (t : Ticket)
    (recent older : List Deed) : Prop where
  inCharge_iff : w.roster.get? (id i) = some t ↔ ∀ d ∈ recent, d.action ≠ .deregister (id i)
  lost_iff : w.roster.get? (id i) = none ↔ ∃ d ∈ recent, d.action = .deregister (id i)
  counted_iff : w.roster.size = (w.roster.deregister (id i)).size + 1 ↔
    ∀ d ∈ recent, d.action ≠ .deregister (id i)
  by_whom : ∀ d ∈ recent, d.action = .deregister (id i) →
    ∃ j, d.who = some j ∧ id j = id i ∧ (j = i ∨ watching older j)
  /-- It stays in charge until its launch lets it go, if no earlier launch thinks its own in charge. -/
  kept : (∀ j, watching older j → id j ≠ id i) → (∀ d ∈ recent, d.isBy i (·.deregisters) = false) →
    w.roster.get? (id i) = some t
  /-- It is out of charge as soon as an earlier launch that thinks its own in charge has come to its end, unless
  that launch had no thread for its listener. -/
  lost : ∀ j party, watching older j → id j = id i → w.parties[j]? = some party →
    (∃ result, party.rest = ofExcept result) → ¬ Unspawned (told j) party.asked → w.roster.get? (id i) = none
  closer : ∀ who, ⟨who, .close t, ()⟩ ∈ w.deeds → who = some i
  closes : ∀ who t', ⟨who, .close t', ()⟩ ∈ w.deeds →
    ∃ j, who = some j ∧ (Owns w.deeds j t' ∨ ∃ t'', ⟨some j, .register t'', some t'⟩ ∈ w.deeds)

theorem takenOver_of_sound {told : Nat → Told} {launches : List (Procedure ε α)} {st : Nat → Standing}
    (h : Sound told id (EndsAlone told launches) st w) (hlen : w.parties.length = launches.length)
    (hdeeds : w.deeds = recent ++ ⟨some i, .register t, displaced⟩ :: older)
    (hs : ∀ d ∈ recent, d.Spares id (id i)) : TakenOver told id w i t recent older := by
  have hforce := hdeeds ▸ h.inForce
  have hrecorded := hforce.recorded
  have hby : ∀ d ∈ recent, d.action = .deregister (id i) →
      ∃ j, d.who = some j ∧ id j = id i ∧ (j = i ∨ watching older j) :=
    fun d hd ho => hrecorded.who_of_deregister hs hd ho
  have hlost : (∃ d ∈ recent, d.action = .deregister (id i)) → w.roster.get? (id i) = none :=
    fun hout => (hforce.get? (id i)).trans (charge_append_of_mem hs hout)
  obtain ⟨hinCharge, hlostIff, hcounted⟩ :
      (w.roster.get? (id i) = some t ↔ ∀ d ∈ recent, d.action ≠ .deregister (id i)) ∧
      (w.roster.get? (id i) = none ↔ ∃ d ∈ recent, d.action = .deregister (id i)) ∧
      (w.roster.size = (w.roster.deregister (id i)).size + 1 ↔
        ∀ d ∈ recent, d.action ≠ .deregister (id i)) := by
    rcases hforce.get?_since hs with ⟨hget, hsize, hkept⟩ | ⟨hget, hsize, d, hd, ho⟩
    · rw [hget]
      refine ⟨iff_of_true rfl hkept, iff_of_false (Option.some_ne_none t) ?_, iff_of_true hsize hkept⟩
      exact fun ⟨d, hd, ho⟩ => hkept d hd ho
    · have hnot : ¬∀ d ∈ recent, d.action ≠ .deregister (id i) := fun hkept => hkept d hd ho
      rw [hget]
      exact ⟨iff_of_false (Option.some_ne_none t).symm hnot, iff_of_true rfl ⟨d, hd, ho⟩,
        iff_of_false (by omega) hnot⟩
  refine ⟨hinCharge, hlostIff, hcounted, hby, fun hearlier hself => hinCharge.2 fun d hd ho => ?_,
    fun j party hj hid hp hend hspawned => hlost ?_, fun who hc => hrecorded.who_of_close hs (hdeeds ▸ hc),
    fun who t' hc => h.inForce.recorded.exists_closer hc⟩
  · obtain ⟨j, hwho, hid, rfl | hj⟩ := hby d hd ho
    · have hnot := hself d hd
      rw [Deed.isBy, hwho, ho, beq_self_eq_true] at hnot
      cases hnot
    · exact hearlier j hj hid
  · obtain ⟨result, hrest⟩ := hend
    obtain ⟨hlt, -⟩ := List.getElem?_eq_some_iff.1 hp
    obtain ⟨-, hover, hstranded⟩ := h.ended hp hrest (List.getElem?_eq_getElem (hlen ▸ hlt))
    exact hid ▸ hrecorded.exists_deregister_of_isOver hj hover (mt hstranded.1 hspawned)

theorem takenOver_of_registered (client : Client) (origin : Watch.Origin) (helperPath : String)
    (invocations : List (Request × Plan)) (told : Nat → Told) (moves : List Move) (i : Nat) (t : Ticket)
    (displaced : Option Ticket) (recent older : List Deed) :
    let launches := invocations.map fun x => Pipeline.work ⟨client, .createStart, origin⟩ helperPath x.1 x.2
    let id := containerOf (invocations.map (·.1.containerId))
    let w := (Traffic.start launches).run told moves
    w.deeds = recent ++ ⟨some i, .register t, displaced⟩ :: older → (∀ d ∈ recent, d.Spares id (id i)) →
      TakenOver told id w i t recent older := by
  intro launches id w hdeeds hs
  obtain ⟨st, h⟩ := exists_sound_map (fun x : Request × Plan => x.1.containerId) invocations told
    (fun i x => uniform_work client origin helperPath x.1 x.2) moves
  exact takenOver_of_sound h (Traffic.length_run_start told launches moves) hdeeds hs

/-- Two invocations for one container. -/
def contested : List (Request × Plan) :=
  let request : Request := { (default : Request) with containerId := "c" }
  [(request, default), (request, default)]

/-- The first has had some more turns since the second began to wait for the container. -/
def overlapping (turns : Nat) : Traffic Failure Helper.Result :=
  (Traffic.start (contested.map fun x => Pipeline.work ⟨.docker, .createStart, .given⟩ "" x.1 x.2)).run
    (fun _ => wellTold)
    (List.replicate 12 (.launch 0) ++ List.replicate 12 (.launch 1) ++ List.replicate turns (.launch 0))

theorem takenOver_of_registered_overlapping :
    let id := containerOf (contested.map (·.1.containerId))
    let recent : List Deed := (overlapping 0).deeds.take 2
    let older : List Deed := (overlapping 0).deeds.drop 3
    (overlapping 0).deeds = recent ++ ⟨some 1, .register 1, some 0⟩ :: older ∧ (∀ d ∈ recent, d.Spares id (id 1)) ∧
      TakenOver (fun _ => wellTold) id (overlapping 0) 1 1 recent older ∧ (overlapping 0).roster.get? "c" = some 1 ∧
      (overlapping 0).roster.size = 1 := by
  have hr : ∀ d ∈ (overlapping 0).deeds.take 2, d.action.registers = false := by decide
  have hs : ∀ d ∈ (overlapping 0).deeds.take 2, d.Spares (containerOf (contested.map (·.1.containerId)))
      (containerOf (contested.map (·.1.containerId)) 1) := fun d hd => Deed.spares_of_registers (hr d hd)
  exact ⟨rfl, hs, takenOver_of_registered .docker .given "" contested (fun _ => wellTold) _ 1 1 (some 0) _ _ rfl hs,
    rfl, rfl⟩

/-- A watcher stays in charge until its launch takes it out of charge, or another takes its place. -/
def StaysInCharge (id : Nat → String) (w : Traffic ε α) : Prop :=
  ∀ recent i t displaced older, w.deeds = recent ++ ⟨some i, .register t, displaced⟩ :: older →
    (∀ d ∈ recent, d.Spares id (id i)) → (∀ d ∈ recent, d.isBy i (·.deregisters) = false) →
      w.roster.get? (id i) = some t

/-- The earlier of two launches has let its watcher go while the later one waits for its container. -/
theorem not_staysInCharge_overlapping :
    ¬StaysInCharge (containerOf ["c", "c"]) (overlapping 8) ∧ (overlapping 8).roster.size = 0 ∧
      (overlapping 8).parties.map (·.asked.length) = [5, 4] := by
  have hr : ∀ d ∈ (overlapping 8).deeds.take 5, d.action.registers = false ∧ d.isBy 1 (·.deregisters) = false := by
    decide
  refine ⟨fun h => ?_, rfl, rfl⟩
  have hin : (overlapping 8).roster.get? "c" = some 1 :=
    h ((overlapping 8).deeds.take 5) 1 1 (some 0) ((overlapping 8).deeds.drop 6) rfl
      (fun d hd => Deed.spares_of_registers (hr d hd).1) fun d hd => (hr d hd).2
  have hout : (overlapping 8).roster.get? "c" = none := rfl
  rw [hout] at hin
  cases hin

end ContainerLaunch.Launch
