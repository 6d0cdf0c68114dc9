import ContainerLaunch.Lifecycle.Payload
/-!
# Payloads that are passed over

A payload gives no notice and does no harm if it is about something else than a container, if its action is
not one of the four that change a container's life, or if it does not say which container it is about. That
is all (`noticeOfMembers?_eq_none_iff`): an action that cannot be looked up, an actor or attributes that have
no members, and a time that is none break the reading off.
-/

namespace ContainerLaunch.Lifecycle

namespace Change

/-- What the daemon calls a change. -/
def verb : Change → String
  | .started => "start"
  | .died => "die"
  | .stopped => "stop"
  | .removed => "destroy"

theorem ofAction?_eq_some_iff {s : String} {c : Change} : ofAction? s = some c ↔ s = c.verb := by
  constructor
  · cases c <;> grind [ofAction?, verb]
  · rintro rfl
    cases c <;> rfl

theorem ofAction?_eq_none_iff {s : String} : ofAction? s = none ↔ ∀ c : Change, s ≠ c.verb := by
  rw [Option.eq_none_iff_forall_ne_some]
  exact forall_congr' fun c => not_congr ofAction?_eq_some_iff

end Change

namespace Payload

/-- What can be looked up. -/
def IsKey : Json → Prop
  | .arr _ => False
  | .obj _ => False
  | _ => True

/-- The members that a value stands for: what does not count as given has none. -/
inductive MembersOf : Json → List (String × Json) → Prop where
  | obj (members : List (String × Json)) : MembersOf (.obj members) members
  | absent {value : Json} (h : value.isTruthy = false) : MembersOf value []

/-- The payload does not say which container it is about. -/
def Nameless (payload : List (String × Json)) : Prop :=
  ∃ actor attributes, MembersOf (Json.memberOrNull payload "Actor") actor ∧
    MembersOf (Json.memberOrNull actor "Attributes") attributes ∧
    (Json.memberOrNull attributes "name").isTruthy = false ∧
    (Json.memberOrNull actor "ID").isTruthy = false ∧ (Json.memberOrNull payload "id").isTruthy = false

/-- Why a payload is no notice and no error: it is about no container, of no change, or names none. -/
inductive PassedOver (payload : List (String × Json)) : Prop where
  | kind {value : Json} (h : Json.member? payload "Type" = some value) (hv : value ≠ .str "container")
  | action (h : IsKey (action payload)) (hc : ∀ c : Change, action payload ≠ .str c.verb)
  | nameless {c : Change} (h : action payload = .str c.verb) (hn : Nameless payload)

section
variable {payload members : List (String × Json)} {value : Json}

theorem isAboutContainer_eq_false_iff :
    isAboutContainer payload = false ↔
      ∃ value, Json.member? payload "Type" = some value ∧ value ≠ .str "container" := by
  unfold isAboutContainer
  cases h : Json.member? payload "Type" with
  | none => simp
  | some value => cases value <;> simp

theorem change?_eq_none_iff :
    change? value = .ok none ↔ IsKey value ∧ ∀ c : Change, value ≠ .str c.verb := by
  cases value with
  | str s =>
    rw [change?, Except.ok.injEq, Change.ofAction?_eq_none_iff]
    simp [IsKey]
  | _ => simp [change?, IsKey]

theorem change?_eq_some_iff {c : Change} : change? value = .ok (some c) ↔ value = .str c.verb := by
  cases value with
  | str s => rw [change?, Except.ok.injEq, Change.ofAction?_eq_some_iff, Json.str.injEq]
  | _ => simp [change?]

theorem members_eq_ok_iff : Payload.members value = .ok members ↔ MembersOf value members := by
  constructor
  · intro h
    unfold Payload.members at h
    split at h
    · cases h
      exact .obj _
    · split at h
      · cases h
      · next ht =>
        cases h
        exact .absent (Bool.eq_false_iff.2 ht)
  · intro h
    cases h with
    | obj => rfl
    | absent h =>
      unfold Payload.members
      split
      · next members =>
        have hm : members = [] := by simpa [Json.isTruthy] using h
        rw [hm]
      · rw [h]
        rfl

theorem isTruthy_orElse {first second : Json} :
    (first.orElse second).isTruthy = (first.isTruthy || second.isTruthy) := by
  unfold Json.orElse
  split
  · next h => rw [h, Bool.true_or]
  · next h => rw [Bool.eq_false_iff.2 h, Bool.false_or]

theorem bind_eq_ok_iff {ε α β : Type} {x : Except ε α} {next : α → Except ε β} {b : β} :
    x >>= next = .ok b ↔ ∃ a, x = .ok a ∧ next a = .ok b := by
  cases x with
  | error e => exact ⟨fun h => (nomatch h), fun ⟨_, h, _⟩ => nomatch h⟩
  | ok a => exact ⟨fun h => ⟨a, rfl, h⟩, fun ⟨_, ha, h⟩ => Except.ok.inj ha ▸ h⟩

theorem containerValue_eq_ok_iff : containerValue payload = .ok value ↔
    ∃ actor attributes, MembersOf (Json.memberOrNull payload "Actor") actor ∧
      MembersOf (Json.memberOrNull actor "Attributes") attributes ∧
      ((Json.memberOrNull attributes "name").orElse (Json.memberOrNull actor "ID")).orElse
        (Json.memberOrNull payload "id") = value := by
  simp only [containerValue, bind_eq_ok_iff, members_eq_ok_iff, pure, Except.pure, Except.ok.injEq,
    exists_and_left]

theorem nameless_iff :
    Nameless payload ↔ ∃ value, containerValue payload = .ok value ∧ value.isTruthy = false := by
  constructor
  · rintro ⟨actor, attributes, ha, hb, hname, hid, hid'⟩
    refine ⟨_, containerValue_eq_ok_iff.2 ⟨actor, attributes, ha, hb, rfl⟩, ?_⟩
    rw [isTruthy_orElse, isTruthy_orElse, hname, hid, hid']
    rfl
  · rintro ⟨value, h, hv⟩
    obtain ⟨actor, attributes, ha, hb, rfl⟩ := containerValue_eq_ok_iff.1 h
    rw [isTruthy_orElse, isTruthy_orElse, Bool.or_eq_false_iff, Bool.or_eq_false_iff] at hv
    exact ⟨actor, attributes, ha, hb, hv.1.1, hv.1.2, hv.2⟩

/-- The four ways that a payload can go, until its time is asked for. -/
theorem noticeOfMembers?_of_change {c : Change} (hc : isAboutContainer payload = true)
    (ha : action payload = .str c.verb) :
    noticeOfMembers? payload = containerValue payload >>= fun container =>
      if container.isTruthy then (time payload).map fun t => some ⟨bareId container.text, c, t⟩
      else .ok none := by
  unfold noticeOfMembers?
  rw [hc, change?_eq_some_iff.2 ha]
  refine congrArg (containerValue payload >>= ·) (funext fun container => ?_)
  cases container.isTruthy with
  | false => rfl
  | true =>
    show time payload >>= _ = _
    cases time payload <;> rfl

theorem noticeOfMembers?_eq_none_iff : noticeOfMembers? payload = .ok none ↔ PassedOver payload := by
  cases hc : isAboutContainer payload with
  | false =>
    obtain ⟨value, hm, hv⟩ := isAboutContainer_eq_false_iff.1 hc
    refine iff_of_true ?_ (.kind hm hv)
    unfold noticeOfMembers?
    rw [hc]
    rfl
  | true =>
    have hkind : ∀ {value}, Json.member? payload "Type" = some value → ¬ value ≠ .str "container" :=
      fun hm hv => Bool.false_ne_true
        ((isAboutContainer_eq_false_iff.2 ⟨_, hm, hv⟩).symm.trans hc)
    cases ha : change? (action payload) with
    | error e =>
      refine iff_of_false ?_ ?_
      · unfold noticeOfMembers?
        rw [hc, ha]
        exact nofun
      · rintro (⟨hm, hv⟩ | ⟨hk, hn⟩ | ⟨hs, -⟩)
        · exact hkind hm hv
        · cases ha.symm.trans (change?_eq_none_iff.2 ⟨hk, hn⟩)
        · cases ha.symm.trans (change?_eq_some_iff.2 hs)
    | ok change => cases change with
      | none =>
        obtain ⟨hk, hn⟩ := change?_eq_none_iff.1 ha
        refine iff_of_true ?_ (.action hk hn)
        unfold noticeOfMembers?
        rw [hc, ha]
        rfl
      | some c =>
        have hs := change?_eq_some_iff.1 ha
        rw [noticeOfMembers?_of_change hc hs, bind_eq_ok_iff]
        constructor
        · rintro ⟨container, hv, h⟩
          split at h
          · cases ht : time payload <;> rw [ht] at h <;> cases h
          · next ht => exact .nameless hs (nameless_iff.2 ⟨container, hv, Bool.eq_false_iff.2 ht⟩)
        · rintro (⟨hm, hv⟩ | ⟨-, hn⟩ | ⟨-, hn⟩)
          · exact absurd hv (hkind hm)
          · exact absurd hs (hn c)
          · obtain ⟨container, hv, ht⟩ := nameless_iff.1 hn
            exact ⟨container, hv, if_neg (Bool.eq_false_iff.1 ht)⟩

theorem notice?_eq_none_iff {payload : Json} :
    notice? payload = .ok none ↔ ∃ members, payload = .obj members ∧ PassedOver members := by
  cases payload with
  | obj members =>
    rw [notice?, noticeOfMembers?_eq_none_iff]
    simp
  | _ => simp [notice?]

end

end Payload

end ContainerLaunch.Lifecycle
