import ContainerLaunch.Lifecycle.Feed
import Mathlib.Order.Lattice
/-!
# The daemon's journal

The daemon keeps a journal of what happens to a container, with times that never decrease. A request without
`since` is answered from the entries on that were made after the feed first connected, a request with `since`
from the first entry on that is not older. A `Round` is a request together with the notices that were heard in
answer to it; the latest round comes first.

In `Lawful` rounds each request asks for nothing that lies after an entry not heard yet (`Resumable`). So
nothing is ever skipped (`Lawful.exists_delivered`).
-/

namespace ContainerLaunch.Lifecycle

universe u

/-- A line that the daemon sends, with the notice in it. -/
structure Entry where
  line : String
  notice : Notice
  reads : (Feed.readLine line).1 = .ok (some notice)

/-- A journal, how many entries it had when the feed connected, and when the feed began. -/
structure Journal (α : Type u) [LinearOrder α] where
  clock : Binary64 → α
  entries : List Entry
  sorted : entries.Pairwise fun e e' => clock e.notice.time ≤ clock e'.notice.time
  opened : Nat
  begunAt : Binary64
  recent : ∀ {p e}, entries[p]? = some e → opened ≤ p → clock begunAt ≤ clock e.notice.time

/-- A request and the notices that were heard in answer to it. -/
structure Round where
  since : Option Binary64
  notices : List Notice := []

namespace Journal
variable {α : Type u} [LinearOrder α] {j : Journal α}

/-- The position from which on a request is answered. -/
def start (j : Journal α) : Option Binary64 → Nat
  | none => j.opened
  | some s => j.entries.findIdx fun e => j.clock s ≤ j.clock e.notice.time

/-- A reply to a request. It may be cut after any number of entries. -/
inductive Answers (j : Journal α) (since : Option Binary64) : Reply → Prop where
  | refused (e : TransportError) : Answers j since (.refused e)
  | answered (status : Int) {lines : List String} (ending : Ending)
    (h : lines <+: (j.entries.drop (j.start since)).map (·.line)) :
    Answers j since (.answered status lines ending)

theorem le_time_of_start_le {s : Binary64} {p : Nat} {e : Entry} (he : j.entries[p]? = some e)
    (hp : j.start (some s) ≤ p) : j.clock s ≤ j.clock e.notice.time := by
  obtain ⟨hlt, rfl⟩ := List.getElem?_eq_some_iff.1 he
  have hs := of_decide_eq_true (List.findIdx_getElem (w := Nat.lt_of_le_of_lt hp hlt))
  rcases Nat.lt_or_eq_of_le hp with hp | hp
  · exact le_trans hs (List.pairwise_iff_getElem.1 j.sorted _ _ _ hlt hp)
  · simpa only [start, ← hp] using hs

theorem start_le_of_le_time {s : Binary64} {p : Nat} {e : Entry} (he : j.entries[p]? = some e)
    (hs : j.clock s ≤ j.clock e.notice.time) : j.start (some s) ≤ p := by
  obtain ⟨hlt, rfl⟩ := List.getElem?_eq_some_iff.1 he
  refine Nat.le_of_not_lt fun h => ?_
  exact of_decide_eq_false (List.not_of_lt_findIdx h) hs

/-- To ask from the beginning of the feed on leaves nothing out. -/
theorem start_begunAt_le : j.start (some j.begunAt) ≤ j.opened := by
  rcases Nat.lt_or_ge j.opened j.entries.length with hlt | hge
  · have he := List.getElem?_eq_getElem hlt
    exact start_le_of_le_time he (j.recent he Nat.le.refl)
  · exact Nat.le_trans List.findIdx_le_length hge

/-! ## Rounds -/

/-- The positions of the entries that a round brought. -/
def positions (j : Journal α) (r : Round) : List Nat := List.range' (j.start r.since) r.notices.length

/-- The positions of the entries in the order in which they were heard, with repetitions. -/
def delivered (j : Journal α) : List Round → List Nat
  | [] => []
  | r :: rounds => j.delivered rounds ++ j.positions r

/-- The second instant, if the first is one, is one too and not before it. -/
def NotBefore (j : Journal α) (s s' : Option Binary64) : Prop :=
  ∀ t, s = some t → ∃ t', s' = some t' ∧ j.clock t ≤ j.clock t'

theorem NotBefore.trans {s s' s'' : Option Binary64} (h : j.NotBefore s s') (h' : j.NotBefore s' s'') :
    j.NotBefore s s'' := by
  intro t ht
  obtain ⟨t', ht', hle⟩ := h t ht
  obtain ⟨t'', ht'', hle'⟩ := h' t' ht'
  exact ⟨t'', ht'', le_trans hle hle'⟩

/-- After some rounds a request may be sent with `since`: it comes back to all that was not heard. -/
structure Resumable (j : Journal α) (rounds : List Round) (since : Option Binary64) : Prop where
  covered : ∀ {p}, j.opened ≤ p → p < j.start since → p ∈ j.delivered rounds
  later : ∀ r ∈ rounds, j.NotBefore r.since since
  first : since = none → rounds = []
  recent : ∀ {t}, since = some t → j.clock j.begunAt ≤ j.clock t

/-- Each round brings entries in a row, from where its request goes back to, and its request leaves nothing out. -/
inductive Lawful (j : Journal α) : List Round → Prop where
  | nil : Lawful j []
  | cons {r rounds} (h : Lawful j rounds) (hr : j.Resumable rounds r.since)
    (hn : r.notices <+: (j.entries.drop (j.start r.since)).map (·.notice)) : Lawful j (r :: rounds)

theorem resumable_nil : j.Resumable [] none where
  covered := fun ho hs => absurd hs (Nat.not_lt.2 ho)
  later := fun _ hr => absurd hr List.not_mem_nil
  first := fun _ => rfl
  recent := fun h => nomatch h

theorem Resumable.later_cons {rounds : List Round} {since since' : Option Binary64} {notices : List Notice}
    (h : j.Resumable rounds since) (hs : j.NotBefore since since') :
    ∀ r ∈ ⟨since, notices⟩ :: rounds, j.NotBefore r.since since' := by
  rintro r (_ | ⟨_, hr⟩)
  · exact hs
  · exact (h.later r hr).trans hs

/-- A request that brought nothing is sent again as it was, or from the beginning of the feed on. -/
theorem Resumable.again {rounds : List Round} {since : Option Binary64} (h : j.Resumable rounds since) :
    j.Resumable (⟨since, []⟩ :: rounds) (some (since.getD j.begunAt)) where
  covered := fun {p} ho hp => by
    refine List.mem_append_left _ (h.covered ho ?_)
    cases since with
    | none => exact Nat.lt_of_lt_of_le hp start_begunAt_le
    | some s => exact hp
  later := by
    refine h.later_cons ?_
    rintro t rfl
    exact ⟨t, rfl, le_rfl⟩
  first := fun h => nomatch h
  recent := fun {t} ht => by
    obtain rfl := Option.some.inj ht
    cases since with
    | none => exact le_rfl
    | some s => exact h.recent rfl

theorem exists_entry_of_prefix {lines : List String} {line : String} {p : Nat}
    (h : line :: lines <+: (j.entries.drop p).map (·.line)) :
    ∃ e, j.entries[p]? = some e ∧ e.line = line ∧ lines <+: (j.entries.drop (p + 1)).map (·.line) := by
  cases hd : j.entries.drop p with
  | nil =>
    rw [hd] at h
    exact absurd (List.prefix_nil.1 h) (List.cons_ne_nil _ _)
  | cons e rest =>
    rw [hd, List.map_cons, List.cons_prefix_cons] at h
    have he : j.entries[p]? = some e := by
      rw [← Nat.add_zero p, ← List.getElem?_drop, hd]
      rfl
    have hrest : j.entries.drop (p + 1) = rest := by
      rw [← List.drop_drop, hd]
      rfl
    exact ⟨e, he, h.1.symm, hrest ▸ h.2⟩

section
variable {r : Round} {rounds : List Round} {e : Entry}

theorem Lawful.heard (h : j.Lawful (r :: rounds))
    (he : j.entries[j.start r.since + r.notices.length]? = some e) :
    j.Lawful ({ r with notices := r.notices ++ [e.notice] } :: rounds) := by
  cases h with
  | cons h hr hn =>
    refine .cons h hr ?_
    obtain ⟨rest, hrest⟩ := hn
    have hhead : rest[0]? = some e.notice := by
      have h := congrArg (·[r.notices.length]?) hrest
      simpa [List.getElem?_append_right, he] using h
    cases rest with
    | nil => cases hhead
    | cons n rest =>
      obtain rfl := Option.some.inj hhead
      exact ⟨rest, by rw [← hrest, List.append_assoc, List.singleton_append]⟩

/-- After an entry was heard, all is well if the next request asks for it again. -/
theorem Lawful.resumable (h : j.Lawful (r :: rounds))
    (he : j.entries[j.start r.since + r.notices.length]? = some e) :
    j.Resumable ({ r with notices := r.notices ++ [e.notice] } :: rounds) (some e.notice.time) := by
  cases h with
  | cons h hr hn =>
    refine ⟨fun {p} ho hp => ?_, ?_, nofun, fun {t} ht => ?_⟩
    · have hlast := start_le_of_le_time he (s := e.notice.time) le_rfl
      rcases Nat.lt_or_ge p (j.start r.since) with hlt | hge
      · exact List.mem_append_left _ (hr.covered ho hlt)
      · refine List.mem_append_right _ (List.mem_range'_1.2 ⟨hge, ?_⟩)
        simp only [List.length_append, List.length_singleton]
        omega
    · have hs : j.NotBefore r.since (some e.notice.time) := fun t ht =>
        ⟨_, rfl, le_time_of_start_le he (ht ▸ Nat.le_add_right _ _)⟩
      exact hr.later_cons hs
    · obtain rfl := Option.some.inj ht
      cases hs : r.since with
      | none =>
        rw [hs] at he
        exact j.recent he (Nat.le_add_right _ _)
      | some s =>
        rw [hs] at he
        exact le_trans (hr.recent hs) (le_time_of_start_le he (Nat.le_add_right _ _))

end

/-! ## What holds of lawful rounds -/

namespace Lawful
variable {rounds : List Round} {r : Round}

/-- Before an entry is heard, all entries before it were, as far as they were made after the feed connected. -/
theorem exists_delivered (h : j.Lawful rounds) {i p q : Nat} (hi : (j.delivered rounds)[i]? = some q)
    (ho : j.opened ≤ p) (hp : p < q) : ∃ i', i' < i ∧ (j.delivered rounds)[i']? = some p := by
  induction h with
  | nil => cases hi
  | @cons r rounds h hr hn ih =>
    rw [delivered] at hi ⊢
    -- `q` was heard in an earlier round, or in this one; then `p` was too, or the round began after it.
    rcases Nat.lt_or_ge i (j.delivered rounds).length with hlt | hge
    · rw [List.getElem?_append_left hlt] at hi
      obtain ⟨i', hi', hp'⟩ := ih hi
      exact ⟨i', hi', by rw [List.getElem?_append_left (Nat.lt_trans hi' hlt), hp']⟩
    · rw [List.getElem?_append_right hge, positions] at hi
      obtain ⟨hk, hq⟩ := List.getElem?_eq_some_iff.1 hi
      rw [List.getElem_range'] at hq
      rw [List.length_range'] at hk
      rcases Nat.lt_or_ge p (j.start r.since) with hlt | hge'
      · obtain ⟨i', hi'⟩ := List.mem_iff_getElem?.1 (hr.covered ho hlt)
        obtain ⟨hi'', -⟩ := List.getElem?_eq_some_iff.1 hi'
        exact ⟨i', Nat.lt_of_lt_of_le hi'' hge, by rw [List.getElem?_append_left hi'', hi']⟩
      · refine ⟨(j.delivered rounds).length + (p - j.start r.since), by omega, ?_⟩
        rw [List.getElem?_append_right (Nat.le_add_right _ _), Nat.add_sub_cancel_left, positions,
          List.getElem?_range' (by omega)]
        exact congrArg some (by omega)

theorem idxOf_lt_idxOf (h : j.Lawful rounds) {p q : Nat} (ho : j.opened ≤ p) (hp : p < q)
    (hq : q ∈ j.delivered rounds) : (j.delivered rounds).idxOf p < (j.delivered rounds).idxOf q := by
  have hlt := List.idxOf_lt_length_of_mem hq
  have hi : (j.delivered rounds)[(j.delivered rounds).idxOf q]? = some q := by
    rw [List.getElem?_eq_getElem hlt, List.getElem_idxOf]
  obtain ⟨i', hi', hp'⟩ := h.exists_delivered hi ho hp
  obtain ⟨hlt', hp'⟩ := List.getElem?_eq_some_iff.1 hp'
  refine Nat.lt_of_le_of_lt (Nat.le_of_not_lt fun h => ?_) hi'
  exact ne_of_beq_false (List.not_of_lt_findIdx h) hp'

theorem of_mem (h : j.Lawful rounds) (hr : r ∈ rounds) :
    (∀ {t}, r.since = some t → j.clock j.begunAt ≤ j.clock t) ∧
      r.notices <+: (j.entries.drop (j.start r.since)).map (·.notice) := by
  induction h with
  | nil => exact absurd hr List.not_mem_nil
  | cons _ hr' hn ih =>
    rcases List.mem_cons.1 hr with rfl | hr
    · exact ⟨hr'.recent, hn⟩
    · exact ih hr

theorem le_time (h : j.Lawful rounds) (hr : r ∈ rounds) {s : Binary64} (hs : r.since = some s) {n : Notice}
    (hn : n ∈ r.notices) : j.clock s ≤ j.clock n.time := by
  obtain ⟨rest, hrest⟩ := (h.of_mem hr).2
  have hmem : n ∈ (j.entries.drop (j.start r.since)).map (·.notice) :=
    hrest ▸ List.mem_append_left rest hn
  obtain ⟨e, he, rfl⟩ := List.mem_map.1 hmem
  obtain ⟨i, hi⟩ := List.mem_iff_getElem?.1 he
  rw [List.getElem?_drop, hs] at hi
  exact le_time_of_start_le hi (Nat.le_add_right _ _)

theorem pairwise_since (h : j.Lawful rounds) :
    rounds.Pairwise fun later earlier => j.NotBefore earlier.since later.since := by
  induction h with
  | nil => exact .nil
  | cons _ hr _ ih => exact .cons hr.later ih

theorem eq_nil_of_since_eq_none {earlier later : List Round} (h : j.Lawful (later ++ r :: earlier))
    (hr : r.since = none) : earlier = [] := by
  induction later with
  | nil => cases h with
    | cons _ hs _ => exact hs.first hr
  | cons _ _ ih => cases h with
    | cons h _ _ => exact ih h

end Lawful

end Journal

end ContainerLaunch.Lifecycle
