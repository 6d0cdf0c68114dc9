import ContainerLaunch.Proofs.Binary64.Decimal
import ContainerLaunch.Proofs.Lifecycle.Life
import ContainerLaunch.Proofs.Lifecycle.Naming
/-!
# From which instant on a feed asks again

A request that is sent again asks for what came since the last notice. The daemon tells the time of a notice in
nanoseconds, and the request names it in seconds: the nanoseconds are rounded to 53 binary digits, then their
billionth is, and that is written with nine decimals. `WrittenAs n k` says that `n` nanoseconds have become `k`.

`resumesFrom_of_asked` says what is asked for. Up to `2^23` seconds the instant is exact, later it may lie after the
notice, and the daemon then leaves out what came between the two (`not_resumesInTime`).
-/

namespace ContainerLaunch.Lifecycle

open Binary64 (Nearest Rounds Denotes)

/-! ## Nanoseconds in seconds -/

/-- So many nanoseconds are divided into seconds and written with nine decimals, as `k` billionths of a second: each of
the three steps rounds. -/
def WrittenAs (n k : ℕ) : Prop :=
  ∃ y x : ℚ, Rounds n y ∧ Rounds (y / 10 ^ 9) x ∧ Nearest (x * 10 ^ 9) k

namespace WrittenAs
variable {n n' k k' : ℕ}

theorem mono (h : WrittenAs n k) (h' : WrittenAs n' k') (hn : n ≤ n') : k ≤ k' := by
  obtain ⟨y, x, hy, hx, hk⟩ := h
  obtain ⟨y', x', hy', hx', hk'⟩ := h'
  have hn : (n : ℚ) ≤ n' := by exact_mod_cast hn
  have hle := hx.mono hx' (div_le_div_of_nonneg_right (hy.mono hy' hn) (by norm_num))
  exact hk.mono hk' (mul_le_mul_of_nonneg_right hle (by norm_num))

/-- The nanoseconds are rounded, the seconds are, and the decimals are. -/
theorem error (h : WrittenAs n k) : |(k : ℚ) - n| ≤ n / 2 ^ 52 + n / 2 ^ 106 + 1 / 2 := by
  obtain ⟨y, x, hy, hx, hk⟩ := h
  obtain ⟨hy₁, hy₂⟩ := abs_le.1 hy.error
  obtain ⟨hx₁, hx₂⟩ := abs_le.1 hx.error
  obtain ⟨hk₁, hk₂⟩ := abs_le.1 hk.close
  rw [abs_le]
  constructor <;> norm_num at * <;> linarith

/-- Below `2^23` seconds the numbers of 53 binary digits lie less than a nanosecond apart. -/
theorem eq_self (h : WrittenAs n k) (hn : n ≤ 2 ^ 23 * 10 ^ 9) : k = n := by
  obtain ⟨y, x, hy, hx, hk⟩ := h
  obtain rfl := hy.eq_of_natCast (hn.trans_lt (by norm_num))
  have hscaled : (n : ℚ) / 10 ^ 9 * 10 ^ 9 = n := by norm_num
  rcases hn.eq_or_lt with rfl | hlt
  · have hsecond : ((2 ^ 23 * 10 ^ 9 : ℕ) : ℚ) / 10 ^ 9 = (2 ^ 23 : ℕ) := by norm_num
    rw [hsecond] at hx
    rw [hx.eq_of_natCast (by norm_num)] at hk
    exact hk.eq_of_lt (by norm_num)
  · obtain ⟨m, e, hx, rfl⟩ := hx
    have hbelow : (n : ℚ) / 10 ^ 9 < 2 ^ (23 : ℤ) := by
      rw [div_lt_iff₀ (by norm_num)]
      exact_mod_cast hlt
    have he := (zpow_lt_zpow_iff_right₀ (by norm_num : (1 : ℚ) < 2)).1 (hx.low.trans_lt hbelow)
    have hulp : (2 : ℚ) ^ e ≤ 2 ^ (-30 : ℤ) := zpow_le_zpow_right₀ (by norm_num) (by omega)
    obtain ⟨hx₁, hx₂⟩ := abs_le.1 hx.error
    refine hk.eq_of_lt (abs_lt.2 ?_)
    generalize (m : ℚ) * 2 ^ e = x at *
    constructor <;> norm_num at * <;> linarith

end WrittenAs

/-! ## The time of a notice -/

/-- A payload that gives `n` nanoseconds makes this notice. -/
def Notice.Stamped (notice : Notice) (n : ℕ) : Prop :=
  0 < n ∧ ∃ payload, Payload.notice? (.obj payload) = .ok (some notice) ∧
    Json.member? payload "timeNano" = some (.int n)

theorem time_of_nanoseconds {payload : List (String × Json)} {n : ℕ} {t : Binary64} (hn : 0 < n)
    (h : Json.member? payload "timeNano" = some (.int n)) (ht : Payload.time payload = .ok t) :
    ∃ y : ℚ, ∃ (m : ℕ) (e : ℤ), t = .finite false m e ∧ Rounds n y ∧ Rounds (y / 10 ^ 9) (m * 2 ^ e) := by
  have hgiven : Json.isTruthy (.int n) = true := by simpa [Json.isTruthy] using hn.ne'
  unfold Payload.time Json.memberOrNull at ht
  rw [h] at ht
  simp only [Option.getD_some, hgiven, if_true] at ht
  obtain ⟨x, hx, ht⟩ := Payload.bind_eq_ok_iff.1 ht
  cases ht
  obtain ⟨y, hy⟩ : ∃ y, Binary64.ofInt? n = some y ∧ x = y := by
    simp only [Payload.wholeNumber] at hx
    split at hx
    · next y hy =>
      cases hx
      exact ⟨x, hy, rfl⟩
    · cases hx
  obtain ⟨hy, rfl⟩ := hy
  obtain ⟨m, e, rfl, hm, he, hrounds⟩ := Binary64.exists_of_ofInt? hn hy
  have hone : (1 : ℚ) ≤ n := by exact_mod_cast hn
  have hhalf : 1 / 2 ≤ (m : ℚ) * 2 ^ e := (div_le_div_of_nonneg_right hone (by norm_num)).trans hrounds.half_le
  obtain ⟨m', e', heq, hrounds'⟩ := Binary64.exists_div_billion hm he hhalf
  exact ⟨_, m', e', heq, hrounds, hrounds'⟩

/-! ## The request -/

/-- The last notice of this iteration. -/
def lastNotice? : List Event → Option Notice
  | [] => none
  | .began _ :: _ => none
  | .arrived (.notice n) :: _ => some n
  | _ :: earlier => lastNotice? earlier

section
variable {past earlier : List Event} {notice : Notice}

theorem latest?_of_lastNotice? (h : lastNotice? past = some notice) : latest? past = some notice.time := by
  fun_induction lastNotice? past with
  | case1 => cases h
  | case2 => cases h
  | case3 n past =>
    cases h
    rfl
  | case4 e past hbegan harrived ih => rw [latest?, ih h] <;> assumption

/-- Notices come in answer to a request. -/
theorem Lawful.isSome_heard (hl : Lawful past) (hs : earlier <:+ past) (h : lastNotice? earlier = some notice) :
    (heard earlier).isSome := by
  induction earlier with
  | nil => cases h
  | cons e earlier ih =>
    have hearlier := ih ((List.suffix_cons e earlier).trans hs)
    cases e with
    | began now => cases h
    | asked since reply => rfl
    | left => exact hearlier h
    | closed => exact hearlier h
    | arrived a =>
      rw [heard, Option.isSome_map]
      cases a with
      | stop => exact hearlier h
      | failed e => exact hearlier h
      | notice n =>
        rw [Option.isSome_iff_ne_none]
        intro hnone
        cases hl.barred hs hnone

theorem Lawful.dueSince_eq (hl : Lawful past) (hs : earlier <:+ past) (h : lastNotice? earlier = some notice) :
    dueSince earlier = some notice.time := by
  rw [dueSince, if_pos (hl.isSome_heard hs h), latest?_of_lastNotice? h]

end

theorem formEncode_of_denotes {places : ℕ} {number : List Char} {q : ℚ} (h : Denotes places number q) :
    Text.Percent.formEncode number = number := by
  obtain ⟨whole, fraction, rfl, -, -, hdigit, -⟩ := h
  have hplain {c : Char} (hc : c ∈ whole ++ '.' :: fraction) : c ≠ ' ' ∧ Text.Percent.isUnreserved c = true := by
    obtain rfl | hc : c = '.' ∨ c ∈ whole ++ fraction := by simpa [or_left_comm] using hc
    · decide
    · have hd := hdigit c hc
      refine ⟨?_, by simp [Text.Percent.isUnreserved, Char.isAlphanum, hd]⟩
      rintro rfl
      exact absurd hd (by decide)
  unfold Text.Percent.formEncode
  rw [List.flatMap_congr (g := fun c => [c]) fun c hc => ?_, List.flatMap_singleton']
  obtain ⟨hspace, hunreserved⟩ := hplain hc
  simp [hspace, hunreserved]

/-- The request names the instant `q`, in seconds. -/
def Requests (since : Option Binary64) (q : ℚ) : Prop :=
  ∃ number, (∀ f : Feed, f.query since = f.query none ++ "&since=".toList ++ number) ∧ Denotes 9 number q

theorem Requests.eq {since : Option Binary64} {q q' : ℚ} (h : Requests since q) (h' : Requests since q') :
    q = q' := by
  obtain ⟨number, hquery, hdenotes⟩ := h
  obtain ⟨number', hquery', hdenotes'⟩ := h'
  obtain rfl := List.append_cancel_left ((hquery Feed.plain).symm.trans (hquery' Feed.plain))
  exact hdenotes.eq hdenotes'

/-- What a request asks for that goes on after a notice at `n` nanoseconds. -/
structure ResumesFrom (since : Option Binary64) (n k : ℕ) (q : ℚ) : Prop where
  requests_iff : ∀ {q'}, Requests since q' ↔ q' = q
  instant : q = k / 10 ^ 9
  written : WrittenAs n k
  /-- The daemon leaves out what came before. -/
  omits_iff : ∀ n' : ℕ, (n' : ℚ) / 10 ^ 9 < q ↔ n' < k
  early : n ≤ 2 ^ 23 * 10 ^ 9 → k = n
  error : |(k : ℚ) - n| ≤ n / 2 ^ 52 + n / 2 ^ 106 + 1 / 2
  /-- A request after a later notice does not go back behind this one. -/
  monotone : ∀ {n' k'}, n ≤ n' → WrittenAs n' k' → k ≤ k'

theorem requests_of_denotes {t : Binary64} {q : ℚ} (h : Denotes 9 (t.toFixed 9).toList q) : Requests (some t) q := by
  refine ⟨_, fun f => ?_, h⟩
  rw [← formEncode_of_denotes h]
  rfl

theorem resumesFrom_of_stamped {notice : Notice} {n : ℕ} (h : notice.Stamped n) :
    ∃ k q, ResumesFrom (some notice.time) n k q := by
  obtain ⟨hn, payload, hnotice, hgiven⟩ := h
  have htime := (Payload.noticeOfMembers?_eq_some_iff.1 hnotice).time
  obtain ⟨y, m, e, ht, hy, hx⟩ := time_of_nanoseconds hn hgiven htime
  obtain ⟨k, hk, hdenotes⟩ := Binary64.exists_toFixed 9 m e
  have hwritten : WrittenAs n k := ⟨y, _, hy, hx, hk⟩
  have hrequests := requests_of_denotes (ht ▸ hdenotes)
  refine ⟨k, k / 10 ^ 9, {
    requests_iff := ⟨fun h => h.eq hrequests, fun h => h ▸ hrequests⟩
    instant := rfl
    written := hwritten
    omits_iff := fun n' => ?_
    early := hwritten.eq_self
    error := hwritten.error
    monotone := fun hle h' => hwritten.mono h' hle }⟩
  rw [div_lt_div_iff_of_pos_right (by norm_num)]
  exact Nat.cast_lt

theorem resumesFrom_of_asked {containerId : String} {base : Address} {replies : List Reply} {moves : List Move}
    {since : Option Binary64} {reply : Reply} {earlier : List Event} {notice : Notice} {n : ℕ}
    (hasked : .asked since reply :: earlier <:+ ((Life.start containerId base replies).run moves).past)
    (hlast : lastNotice? earlier = some notice) (hstamped : notice.Stamped n) :
    ∃ k q, ResumesFrom since n k q := by
  have hlawful := ((Life.inv_start containerId base replies).run moves).knows.lawful
  have hearlier := (List.suffix_cons _ _).trans hasked
  rw [hlawful.since hasked, hlawful.dueSince_eq hearlier hlast]
  exact resumesFrom_of_stamped hstamped

/-! ## A death right after a full second -/

def late : Binary64 := .finite false (1700000000 * 2 ^ 22 + 1) (-22)

def lateReply : Reply :=
  .answered 200 ["\x7b\x22status\x22: \x22die\x22, \x22id\x22: \x22c\x22, \x22timeNano\x22: 1700000000000000129\x7d"]
    (some .readTimeout)

def lateMoves : List Move := .replicate 5 (.read (.zero false))

def beforeLate : List Event :=
  [.arrived (.notice ⟨"c", .died, late⟩), .asked none lateReply, .began (.zero false)]

theorem past_late : ((Life.start "c" Feed.plain.base [lateReply]).run lateMoves).past =
    .arrived .stop :: .asked (some late) .empty :: beforeLate := by
  decide +kernel

theorem asked_late : .asked (some late) .empty :: beforeLate <:+
    ((Life.start "c" Feed.plain.base [lateReply]).run lateMoves).past := by
  rw [past_late]
  exact List.suffix_cons _ _

theorem stamped_late : Notice.Stamped ⟨"c", .died, late⟩ 1700000000000000129 := by
  refine ⟨by norm_num, [("status", .str "die"), ("id", .str "c"), ("timeNano", .int 1700000000000000129)], ?_, rfl⟩
  decide +kernel

theorem resumesFrom_of_asked_late :
    .asked (some late) .empty :: beforeLate <:+
        ((Life.start "c" Feed.plain.base [lateReply]).run lateMoves).past ∧
      lastNotice? beforeLate = some ⟨"c", .died, late⟩ ∧
      Notice.Stamped ⟨"c", .died, late⟩ 1700000000000000129 ∧
      ∃ k q, ResumesFrom (some late) 1700000000000000129 k q :=
  ⟨asked_late, rfl, stamped_late, resumesFrom_of_asked asked_late rfl stamped_late⟩

theorem requests_late : Requests (some late) (1700000000000000238 / 10 ^ 9) := by
  have h := Binary64.denotes_withPoint 9 1700000000000000238
  have htext : Binary64.withPoint 9 1700000000000000238 = (late.toFixed 9).toList := by decide +kernel
  rw [htext] at h
  exact requests_of_denotes (by exact_mod_cast h)

/-- The container died 129 nanoseconds after a full second, and the request asks for what came 238 after it or later:
all that came in between is left out. -/
theorem not_resumesInTime :
    Requests (some late) (1700000000000000238 / 10 ^ 9) ∧
      ¬ ∀ {containerId base replies moves since reply earlier notice n q},
        .asked since reply :: earlier <:+ ((Life.start containerId base replies).run moves).past →
          lastNotice? earlier = some notice → notice.Stamped n → Requests since q → q ≤ (n : ℚ) / 10 ^ 9 := by
  refine ⟨requests_late, fun h => ?_⟩
  have hle := h asked_late rfl stamped_late requests_late
  norm_num at hle

end ContainerLaunch.Lifecycle
