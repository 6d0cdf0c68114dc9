import ContainerLaunch.Proofs.Lifecycle.Payload
import Mathlib.Data.List.TakeWhile
/-!
# Whose notice a payload is

A payload makes a notice if it is about a container, if the first action that it gives changes a container's
life, if it gives a name or an id, and if its time can be read: `notice?_eq_some_iff` says which notice that is.
The notice names the container by the first field that is given, without the slashes before it. So no id begins
with a slash. But a field of nothing but slashes is given, and what it leaves is empty: the fields are looked at
before the slashes are taken off (`understood`).
-/

namespace ContainerLaunch.Lifecycle

namespace Payload

/-! ## The first value that is given -/

/-- The first of the values that counts as given. -/
def FirstGiven (values : List Json) (value : Json) : Prop := values.find? Json.isTruthy = some value

section
variable {first second value : Json} {values : List Json}

theorem firstGiven_singleton : FirstGiven [first] value ↔ first = value ∧ value.isTruthy = true := by
  unfold FirstGiven
  rw [List.find?_singleton]
  split
  · next h =>
    rw [Option.some.injEq]
    exact ⟨fun he => ⟨he, he ▸ h⟩, And.left⟩
  · next h =>
    refine iff_of_false nofun ?_
    rintro ⟨rfl, ht⟩
    exact h ht

theorem firstGiven_orElse_cons :
    FirstGiven (first.orElse second :: values) value ↔ FirstGiven (first :: second :: values) value := by
  unfold FirstGiven Json.orElse
  cases h : first.isTruthy with
  | true => simp [h]
  | false => simp [h]

end

/-! ## Slashes before an id -/

/-- The text is the id behind a number of slashes, and the id begins with none. -/
def Strips (text id : String) : Prop :=
  ∃ k, text.toList = List.replicate k '/' ++ id.toList ∧ id.toList.head? ≠ some '/'

/-- There is nothing in the text but slashes. -/
def OnlySlashes (text : String) : Prop := ∀ c ∈ text.toList, c = '/'

section
variable {text id : String}

theorem toList_bareId : (bareId text).toList = text.toList.dropWhile (· == '/') := String.toList_ofList

theorem bareId_eq_iff : bareId text = id ↔ Strips text id := by
  constructor
  · rintro rfl
    refine ⟨(text.toList.takeWhile (· == '/')).length, ?_, ?_⟩
    · rw [toList_bareId, ← List.eq_replicate_of_mem fun c hc => ?_, List.takeWhile_append_dropWhile]
      simpa using List.mem_takeWhile_imp hc
    · rw [toList_bareId]
      intro h
      have hc := List.head?_dropWhile_not (· == '/') text.toList
      rw [h] at hc
      cases hc
  · rintro ⟨k, htext, hid⟩
    rw [← String.toList_inj, toList_bareId, htext, List.dropWhile_append_of_pos (by simp)]
    cases hl : id.toList with
    | nil => rfl
    | cons c rest =>
      rw [hl, List.head?_cons] at hid
      exact List.dropWhile_cons_of_neg fun hc => hid (congrArg some (by simpa using hc))

theorem Strips.empty_iff (h : Strips text id) : id = "" ↔ OnlySlashes text := by
  rw [← bareId_eq_iff.2 h, ← String.toList_inj, toList_bareId]
  show text.toList.dropWhile (· == '/') = [] ↔ _
  rw [List.dropWhile_eq_nil_iff]
  simp [OnlySlashes]

end

/-! ## What only slashes can be -/

theorem not_onlySlashes {text : String} {c : Char} (hc : c ∈ text.toList) (hne : c ≠ '/') :
    ¬ OnlySlashes text := fun h => hne (h c hc)

theorem exists_mem_repr (n : Nat) : ∃ c ∈ n.repr.toList, c ≠ '/' := by
  rw [Nat.toList_repr]
  obtain ⟨c, hc⟩ := List.exists_mem_of_ne_nil _ (Nat.toDigits_ne_nil (n := n) (b := 10))
  refine ⟨c, hc, ?_⟩
  rintro rfl
  exact absurd (Nat.isDigit_of_mem_toDigits (by decide) (by decide) hc) (by decide)

theorem exists_mem_toString (n : Int) : ∃ c ∈ (toString n).toList, c ≠ '/' := by
  cases n with
  | ofNat n => exact exists_mem_repr n
  | negSucc n => exact ⟨'-', by simp [toString, Int.repr], by decide⟩

theorem exists_mem_layout (n : Nat) (k : Int) : ∃ c ∈ Binary64.layout n k, c ≠ '/' := by
  unfold Binary64.layout
  dsimp only
  split
  · split <;> exact ⟨'.', by simp, by decide⟩
  · exact ⟨'e', by simp, by decide⟩

theorem exists_mem_toShortest (x : Binary64) : ∃ c ∈ x.toShortest.toList, c ≠ '/' := by
  cases x with
  | finite s m e =>
    by_cases hm : m = 0
    · exact ⟨'0', by simp [Binary64.toShortest, hm], by decide⟩
    · obtain ⟨c, hc, hne⟩ := exists_mem_layout (Binary64.shortestDigits m e).1 (Binary64.shortestDigits m e).2
      exact ⟨c, by simp [Binary64.toShortest, hm, hc], hne⟩
  | infinity s => cases s <;> exact ⟨'i', by decide, by decide⟩
  | nan s => exact ⟨'n', by simp [Binary64.toShortest], by decide⟩

/-- Whatever is no text is written with some other character. -/
theorem exists_str_of_onlySlashes {value : Json} (h : OnlySlashes value.text) : ∃ s, value = .str s := by
  have hother : (∃ c ∈ value.text.toList, c ≠ '/') → ∃ s, value = .str s := by
    rintro ⟨c, hc, hne⟩
    exact absurd h (not_onlySlashes hc hne)
  cases value with
  | str s => exact ⟨s, rfl⟩
  | null => exact hother ⟨'N', by decide, by decide⟩
  | bool b => cases b <;> exact hother ⟨'e', by decide, by decide⟩
  | int n => exact hother (exists_mem_toString n)
  | float x => exact hother (exists_mem_toShortest x)
  | arr items => exact hother ⟨'[', by simp [Json.text, Json.shown], by decide⟩
  | obj members => exact hother ⟨'\x7b', by simp [Json.text, Json.shown], by decide⟩

/-! ## The notice of a payload -/

/-- The first given of the fields that name a container. -/
def Identified (payload : List (String × Json)) (value : Json) : Prop :=
  ∃ actor attributes, MembersOf (Json.memberOrNull payload "Actor") actor ∧
    MembersOf (Json.memberOrNull actor "Attributes") attributes ∧
    FirstGiven [Json.memberOrNull attributes "name", Json.memberOrNull actor "ID",
      Json.memberOrNull payload "id"] value

/-- The first given action is the one that means this change. -/
def Changes (payload : List (String × Json)) (c : Change) : Prop :=
  FirstGiven [Json.memberOrNull payload "Action", Json.memberOrNull payload "status"] (.str c.verb)

/-- The payload says what the notice says. -/
structure Speaks (payload : List (String × Json)) (n : Notice) : Prop where
  kind : ∀ {value}, Json.member? payload "Type" = some value → value = .str "container"
  change : Changes payload n.change
  container : ∃ value, Identified payload value ∧ Strips value.text n.containerId
  time : time payload = .ok n.time

section
variable {payload : List (String × Json)} {value : Json} {n : Notice}

theorem isAboutContainer_iff :
    isAboutContainer payload = true ↔
      ∀ {value}, Json.member? payload "Type" = some value → value = .str "container" := by
  rw [← Bool.not_eq_false, isAboutContainer_eq_false_iff]
  simp only [not_exists, not_and, not_not]

theorem changes_iff {c : Change} : Changes payload c ↔ action payload = .str c.verb := by
  have hv : Json.isTruthy (.str c.verb) = true := by cases c <;> rfl
  rw [Changes, ← firstGiven_orElse_cons, firstGiven_singleton, and_iff_left hv, action]
  generalize (Json.memberOrNull payload "Action").orElse (Json.memberOrNull payload "status") = first
  by_cases ht : first.isTruthy
  · rw [Json.orElse, if_pos ht]
  · rw [Json.orElse, if_neg ht]
    refine iff_of_false ?_ ?_
    · rintro rfl
      exact ht hv
    · intro h
      rw [← h] at hv
      cases hv

theorem identified_iff :
    Identified payload value ↔ containerValue payload = .ok value ∧ value.isTruthy = true := by
  simp only [Identified, containerValue_eq_ok_iff, ← firstGiven_orElse_cons, firstGiven_singleton]
  constructor
  · rintro ⟨actor, attributes, ha, hb, hv, ht⟩
    exact ⟨⟨actor, attributes, ha, hb, hv⟩, ht⟩
  · rintro ⟨⟨actor, attributes, ha, hb, hv⟩, ht⟩
    exact ⟨actor, attributes, ha, hb, hv, ht⟩

theorem exists_change_of_noticeOfMembers? (h : noticeOfMembers? payload = .ok (some n)) :
    isAboutContainer payload = true ∧ ∃ c : Change, action payload = .str c.verb := by
  unfold noticeOfMembers? at h
  cases hc : isAboutContainer payload with
  | false =>
    rw [hc] at h
    cases h
  | true =>
    rw [hc] at h
    cases ha : change? (action payload) with
    | error e =>
      rw [ha] at h
      cases h
    | ok change => cases change with
      | none =>
        rw [ha] at h
        cases h
      | some c => exact ⟨rfl, c, change?_eq_some_iff.1 ha⟩

theorem noticeOfMembers?_eq_some_iff : noticeOfMembers? payload = .ok (some n) ↔ Speaks payload n := by
  constructor
  · intro h
    obtain ⟨hc, c, ha⟩ := exists_change_of_noticeOfMembers? h
    rw [noticeOfMembers?_of_change hc ha, bind_eq_ok_iff] at h
    obtain ⟨value, hv, h⟩ := h
    split at h
    · next ht =>
      cases htime : time payload with
      | error e =>
        rw [htime] at h
        cases h
      | ok t =>
        rw [htime] at h
        cases h
        exact {
          kind := isAboutContainer_iff.1 hc
          change := changes_iff.2 ha
          container := ⟨value, identified_iff.2 ⟨hv, ht⟩, bareId_eq_iff.1 rfl⟩
          time := htime }
    · cases h
  · intro h
    obtain ⟨value, hv, hid⟩ := h.container
    obtain ⟨hv, ht⟩ := identified_iff.1 hv
    rw [noticeOfMembers?_of_change (isAboutContainer_iff.2 h.kind) (changes_iff.1 h.change), bind_eq_ok_iff]
    refine ⟨value, hv, ?_⟩
    rw [if_pos ht, h.time, bareId_eq_iff.2 hid]
    rfl

theorem Identified.eq {value' : Json} (h : Identified payload value) (h' : Identified payload value') :
    value = value' :=
  Except.ok.inj ((identified_iff.1 h).1.symm.trans (identified_iff.1 h').1)

end

/-! ## What reading a payload comes to -/

/-- When a payload is a notice, which one it is, and when it is passed over. -/
structure Understood (payload : List (String × Json)) : Prop where
  notice_iff : ∀ n, notice? (.obj payload) = .ok (some n) ↔ Speaks payload n
  passed_iff : notice? (.obj payload) = .ok none ↔ PassedOver payload
  bare : ∀ {n}, notice? (.obj payload) = .ok (some n) → n.containerId.toList.head? ≠ some '/'
  /-- An id is empty if and only if slashes are all there is in the first field that is given. -/
  empty_iff : ∀ {n}, notice? (.obj payload) = .ok (some n) →
    (n.containerId = "" ↔ ∃ s, Identified payload (.str s) ∧ OnlySlashes s)
  /-- Nothing is made of a payload without a field that is given, or with another action. -/
  silent : (∀ value, ¬ Identified payload value) ∨ (∀ c, ¬ Changes payload c) →
    ∀ n, notice? (.obj payload) ≠ .ok (some n)

theorem understood (payload : List (String × Json)) : Understood payload where
  notice_iff := fun n => noticeOfMembers?_eq_some_iff
  passed_iff := noticeOfMembers?_eq_none_iff
  bare := fun h => by
    obtain ⟨value, -, k, -, hid⟩ := (noticeOfMembers?_eq_some_iff.1 h).container
    exact hid
  empty_iff := fun h => by
    obtain ⟨value, hv, hid⟩ := (noticeOfMembers?_eq_some_iff.1 h).container
    rw [hid.empty_iff]
    constructor
    · intro hs
      obtain ⟨s, rfl⟩ := exists_str_of_onlySlashes hs
      exact ⟨s, hv, hs⟩
    · rintro ⟨s, hs, hslashes⟩
      rwa [hv.eq hs]
  silent := fun hn n h => by
    have hs := noticeOfMembers?_eq_some_iff.1 h
    rcases hn with hn | hn
    · obtain ⟨value, hv, -⟩ := hs.container
      exact hn value hv
    · exact hn n.change hs.change

/-- A lone slash is given, but it names no container: the notice is about the empty id. -/
theorem notice?_slash :
    notice? (.obj [("status", .str "die"), ("id", .str "/")]) = .ok (some ⟨"", .died, .zero false⟩) ∧
      ¬ ∀ payload n, notice? (.obj payload) = .ok (some n) → n.containerId ≠ "" := by
  have h : notice? (.obj [("status", .str "die"), ("id", .str "/")]) =
      .ok (some ⟨"", .died, .zero false⟩) := by decide +kernel
  exact ⟨h, fun hall => hall _ _ h rfl⟩

end Payload

end ContainerLaunch.Lifecycle
