import ContainerLaunch.Proofs.Cleanup.Charge
import ContainerLaunch.Proofs.Launch.Asking
import ContainerLaunch.Proofs.Launch.Conduct
/-!
# Launches that share a roster

Any number of launches take turns at every question, in any order, and signals and notices arrive for any
watcher at any time. What a launch is told outside does not hang on the others, as far as it can see: it goes by
what it asked there. The deeds on the roster are written down.

`Sound` is kept by every move (`Sound.move`) and so along every run (`Sound.run`): the deeds are in force, and
what is left of each launch conducts itself. From it follows that nothing can keep the launches from coming to
their ends (`Sound.exists_end`).
-/

namespace ContainerLaunch.Launch

open Cleanup
open Lifecycle (Notice)
open Procedure
open Function (update)

/-! ## Moves -/

/-- What is left of a launch, and what it asked outside. -/
structure Party (ε α : Type) where
  rest : Procedure ε α
  asked : List Question := []

/-- Launches, what has reached the watchers, and what was done on the roster, the latest first. -/
structure Traffic (ε α : Type) where
  roster : Roster := {}
  parties : List (Party ε α)
  deliveries : List (Procedure Failure Unit) := []
  deeds : List Deed := []

/-- A turn of a launch or of one who handles a signal or a notice, or the arrival of one. The order with which a
watcher removes its container may be any. -/
inductive Move where
  | launch (i : Nat)
  | signal (t : Ticket) (s : Signal) (removal : Helper.Order)
  | notice (t : Ticket) (n : Notice) (removal : Helper.Order)
  | deliver (k : Nat) (outside : (q : Question) → q.Answer)

/-- A notice is not taken in while its watcher's lock is taken. -/
def Question.waits (r : Roster) : Question → Bool
  | .act (.observe t n) => r.holdsOf t (·.awaitsLock n)
  | _ => false

/-- What a question does on the roster. -/
def Question.deeds (r : Roster) (who : Option Nat) : Question → List Deed
  | .act a => [⟨who, a, (r.perform a).reply⟩]
  | _ => []

variable {ε α : Type}

namespace Traffic

/-- No launch has begun. -/
def start (launches : List (Procedure ε α)) : Traffic ε α where
  parties := launches.map fun p => { rest := p }

/-- What a move makes of the traffic. Who is through, or has to wait for a lock, stays where they are. -/
def move (told : Nat → Told) (w : Traffic ε α) : Move → Traffic ε α
  | .launch i =>
    match w.parties[i]? with
    | some ⟨.ask q next, asked⟩ =>
      if q.waits w.roster then w
      else
        { w with
          roster := (q.reply w.roster (told i asked)).2
          parties := w.parties.set i ⟨next (q.reply w.roster (told i asked)).1, q.noted asked⟩
          deeds := q.deeds w.roster (some i) ++ w.deeds }
    | _ => w
  | .signal t s removal => { w with deliveries := w.deliveries ++ [Watch.hear t s (carryOut removal)] }
  | .notice t n removal => { w with deliveries := w.deliveries ++ [Watch.handle t n (carryOut removal)] }
  | .deliver k outside =>
    match w.deliveries[k]? with
    | some (.ask q next) =>
      if q.waits w.roster then w
      else
        { w with
          roster := (q.reply w.roster outside).2
          deliveries := w.deliveries.set k (next (q.reply w.roster outside).1)
          deeds := q.deeds w.roster none ++ w.deeds }
    | _ => w

/-- What moves make of the traffic, one after the other. -/
def run (told : Nat → Told) (w : Traffic ε α) (moves : List Move) : Traffic ε α := moves.foldl (move told) w

theorem length_move (told : Nat → Told) (w : Traffic ε α) (m : Move) :
    (w.move told m).parties.length = w.parties.length := by
  unfold move
  split
  · split
    · split
      · rfl
      · exact List.length_set
    · rfl
  · rfl
  · rfl
  · split
    · split <;> rfl
    · rfl

theorem length_run (told : Nat → Told) (w : Traffic ε α) (moves : List Move) :
    (w.run told moves).parties.length = w.parties.length := by
  induction moves generalizing w with
  | nil => rfl
  | cons m moves ih => exact (ih (w.move told m)).trans (w.length_move told m)

theorem length_run_start (told : Nat → Told) (launches : List (Procedure ε α)) (moves : List Move) :
    ((start launches).run told moves).parties.length = launches.length :=
  (length_run told (start launches) moves).trans (List.length_map _)

/-- All launches have come to an end. -/
def Ended (w : Traffic ε α) : Prop := ∀ p ∈ w.parties, ∃ result, p.rest = ofExcept result

end Traffic

/-! ## What a move keeps -/

/-- What those ask who handle a signal or a notice. -/
def Question.isListening : Question → Prop
  | .act a => a.IsListening
  | _ => True

section InForce
variable {told : Told} {id : Nat → String} {deeds : List Deed} {st : Nat → Standing} {r : Roster} {i : Nat}
  {asked : List Question} {q : Question}

theorem Asking.not_waits {c : String} {s : Standing} {k : q.Answer → Standing → List Question → Prop}
    (h : Asking told c s asked q k) : q.waits r = false := by
  cases q with
  | act a =>
    obtain ⟨s', hs, -⟩ := h (r.perform a).reply
    cases a with
    | observe t n => cases hs
    | _ => rfl
  | _ => rfl

/-- A question of a launch that conducts itself keeps the deeds in force. -/
theorem inForce_ask {k : q.Answer → Standing → List Question → Prop} (h : InForce id deeds st r)
    (hq : Asking told (id i) (st i) asked q k) :
    ∃ s, k (q.reply r (told asked)).1 s (q.noted asked) ∧
      InForce id (q.deeds r (some i) ++ deeds) (update st i s) (q.reply r (told asked)).2 := by
  have hself : InForce id deeds (update st i (st i)) r := (Function.update_eq_self i st).symm ▸ h
  cases q with
  | act a =>
    obtain ⟨s, hs, hk⟩ := hq (r.perform a).reply
    exact ⟨s, hk, h.act hs⟩
  | _ => exact ⟨st i, hq, hself⟩

theorem inForce_deliver {outside : (q : Question) → q.Answer} (h : InForce id deeds st r) (hq : q.isListening) :
    InForce id (q.deeds r none ++ deeds) st (q.reply r outside).2 := by
  cases q with
  | act a => exact h.listen hq
  | _ => exact h

end InForce

/-- The deeds are in force, and what is left of each launch conducts itself, from its standing to its goal. -/
structure Sound (told : Nat → Told) (id : Nat → String) (goal : Nat → Except ε α → Standing → List Question → Prop)
    (st : Nat → Standing) (w : Traffic ε α) : Prop where
  inForce : InForce id w.deeds st w.roster
  parties : ∀ i p, w.parties[i]? = some p → Conducts (told i) (id i) p.rest (goal i) (st i) p.asked
  idle : ∀ i, w.parties.length ≤ i → st i = .unwatched
  deliveries : ∀ d ∈ w.deliveries, d.Asks Question.isListening

theorem sound_start {told : Nat → Told} {id : Nat → String}
    {goal : Nat → Except ε α → Standing → List Question → Prop} {launches : List (Procedure ε α)}
    (h : ∀ i p, launches[i]? = some p → Conducts (told i) (id i) p (goal i) .unwatched []) :
    Sound told id goal (fun _ => .unwatched) (.start launches) where
  inForce := inForce_empty id
  parties := fun i p hp => by
    have hp : (launches.map fun p => ({ rest := p } : Party ε α))[i]? = some p := hp
    rw [List.getElem?_map] at hp
    obtain ⟨launch, hl, rfl⟩ := Option.map_eq_some_iff.1 hp
    exact h i launch hl
  idle := fun _ _ => rfl
  deliveries := fun d hd => absurd hd List.not_mem_nil

section Sound
variable {told : Nat → Told} {id : Nat → String} {goal : Nat → Except ε α → Standing → List Question → Prop}
  {st : Nat → Standing} {w : Traffic ε α} {i : Nat} {q : Question} {next : q.Answer → Procedure ε α}
  {asked : List Question}

theorem move_launch (hi : w.parties[i]? = some ⟨.ask q next, asked⟩) (hq : q.waits w.roster = false) :
    w.move told (.launch i) =
      { w with
        roster := (q.reply w.roster (told i asked)).2
        parties := w.parties.set i ⟨next (q.reply w.roster (told i asked)).1, q.noted asked⟩
        deeds := q.deeds w.roster (some i) ++ w.deeds } := by
  simp only [Traffic.move, hi, hq]
  rfl

namespace Sound

/-- The turn of a launch. -/
theorem launch (h : Sound told id goal st w) (hi : w.parties[i]? = some ⟨.ask q next, asked⟩) :
    ∃ s, Sound told id goal (update st i s) (w.move told (.launch i)) := by
  have hask : Asking (told i) (id i) (st i) asked q fun a s asked =>
      Conducts (told i) (id i) (next a) (goal i) s asked := h.parties i _ hi
  obtain ⟨s, hnext, hforce⟩ := inForce_ask h.inForce hask
  obtain ⟨hlt, -⟩ := List.getElem?_eq_some_iff.1 hi
  rw [move_launch hi hask.not_waits]
  refine ⟨s, hforce, fun j p hp => ?_, fun j hj => ?_, h.deliveries⟩
  · by_cases hij : i = j
    · subst hij
      obtain rfl := Option.some.inj ((List.getElem?_set_self hlt).symm.trans hp)
      rw [Function.update_self]
      exact hnext
    · rw [Function.update_of_ne (Ne.symm hij)]
      exact h.parties j p ((List.getElem?_set_ne hij).symm.trans hp)
  · rw [List.length_set] at hj
    rw [Function.update_of_ne (Nat.ne_of_gt (Nat.lt_of_lt_of_le hlt hj))]
    exact h.idle j hj

theorem deliver (h : Sound told id goal st w) {d : Procedure Failure Unit} (hd : d.Asks Question.isListening) :
    Sound told id goal st { w with deliveries := w.deliveries ++ [d] } :=
  ⟨h.inForce, h.parties, h.idle, List.forall_mem_append.2 ⟨h.deliveries, List.forall_mem_singleton.2 hd⟩⟩

theorem move (h : Sound told id goal st w) (m : Move) : ∃ st, Sound told id goal st (w.move told m) := by
  have hremove : ∀ removal, (carryOut removal).Asks Question.isListening :=
    fun removal => asks_carryOut (fun _ => trivial) trivial
  cases m with
  | launch i =>
    match hi : w.parties[i]? with
    | some ⟨.ask q next, asked⟩ =>
      obtain ⟨s, hs⟩ := h.launch hi
      exact ⟨_, hs⟩
    | some ⟨.done value, asked⟩ => exact ⟨st, by simpa only [Traffic.move, hi] using h⟩
    | some ⟨.fail fault, asked⟩ => exact ⟨st, by simpa only [Traffic.move, hi] using h⟩
    | none => exact ⟨st, by simpa only [Traffic.move, hi] using h⟩
  | signal t s removal => exact ⟨st, h.deliver (asks_hear (fun _ ha => ha) (hremove removal) t s)⟩
  | notice t n removal => exact ⟨st, h.deliver (asks_handle (fun _ ha => ha) (hremove removal) t n)⟩
  | deliver k outside =>
    refine ⟨st, ?_⟩
    match hk : w.deliveries[k]? with
    | some (.ask q next) =>
      obtain ⟨hq, hnext⟩ := h.deliveries _ (List.mem_of_getElem? hk)
      by_cases hw : q.waits w.roster
      · simpa only [Traffic.move, hk, if_pos hw] using h
      · simp only [Traffic.move, hk, if_neg hw]
        refine ⟨inForce_deliver h.inForce hq, h.parties, h.idle, fun d hd => ?_⟩
        rcases List.mem_or_eq_of_mem_set hd with hd | rfl
        · exact h.deliveries d hd
        · exact hnext _
    | some (.done value) => simpa only [Traffic.move, hk] using h
    | some (.fail fault) => simpa only [Traffic.move, hk] using h
    | none => simpa only [Traffic.move, hk] using h

theorem run (h : Sound told id goal st w) (moves : List Move) : ∃ st, Sound told id goal st (w.run told moves) := by
  induction moves generalizing st w with
  | nil => exact ⟨st, h⟩
  | cons m moves ih =>
    obtain ⟨st, h⟩ := h.move m
    exact ih h

end Sound

end Sound

/-! ## Launches of requests -/

/-- How the `i`-th launch ends. -/
def EndsAlone (told : Nat → Told) (launches : List (Procedure ε α)) (i : Nat) (result : Except ε α)
    (s : Standing) (asked : List Question) : Prop :=
  ∀ p, launches[i]? = some p → (result, asked) = alone (told i) p ∧ Finished (told i) () s asked

theorem Sound.ended {told : Nat → Told} {id : Nat → String} {launches : List (Procedure ε α)} {st : Nat → Standing}
    {w : Traffic ε α} {i : Nat} {party : Party ε α} {result : Except ε α} {p : Procedure ε α}
    (h : Sound told id (EndsAlone told launches) st w) (hp : w.parties[i]? = some party)
    (hrest : party.rest = ofExcept result) (hl : launches[i]? = some p) :
    (result, party.asked) = alone (told i) p ∧ Finished (told i) () (st i) party.asked := by
  have hparty := h.parties i party hp
  rw [hrest, conducts_ofExcept] at hparty
  exact hparty p hl

/-- The container that the `i`-th launch is about. -/
def containerOf (containerIds : List String) (i : Nat) : String := containerIds[i]?.getD ""

theorem exists_sound_map {ρ : Type} (containerId : ρ → String) {launch : ρ → Procedure ε α} (requests : List ρ)
    (told : Nat → Told)
    (hl : ∀ i r, Uniform (told i) (containerId r) (Fresh (told i)) (fun _ => launch r) (Finished (told i)))
    (moves : List Move) :
    ∃ st, Sound told (containerOf (requests.map containerId)) (EndsAlone told (requests.map launch)) st
      ((Traffic.start (requests.map launch)).run told moves) := by
  refine (sound_start fun i p hp => ?_).run moves
  have hmap := hp
  rw [List.getElem?_map] at hmap
  obtain ⟨r, hr, rfl⟩ := Option.map_eq_some_iff.1 hmap
  have hid : containerOf (requests.map containerId) i = containerId r := by
    rw [containerOf, List.getElem?_map, hr]
    rfl
  rw [hid]
  refine (conducts_alone (hl i r)).mono fun result s asked h p' hp' => ?_
  rw [← Option.some.inj (hp.symm.trans hp')]
  exact h

/-! ## What launches may be told -/

/-- Everything goes well. -/
def wellTold : Told
  | _, .log _ => ()
  | _, .probe .. => .answered
  | _, .isActive _ => .ok true
  | _, .invoke _ => .ok {}
  | _, .report .. => .ok ()
  | _, .subscribe .. => .ok {}
  | _, .spawn _ => .ok ()
  | _, .act a => (Roster.perform {} a).reply

end ContainerLaunch.Launch
