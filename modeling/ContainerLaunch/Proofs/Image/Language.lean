import ContainerLaunch.Image
import ContainerLaunch.Proofs.Text.Pieces
import ContainerLaunch.Shell.Quote
import ContainerLaunch.Text.Blank
import Mathlib.Computability.RegularExpressions
/-!
# The language of image references

`Reference` says outright what an image reference is: a name, or a host with any number of ports, a slash
and a name. It is also what the regular expression of the grammar matches (`reference_iff_matches`), and what
validation accepts, once the quotes are out (`judged`).
-/

namespace ContainerLaunch.Image

/-! ## References -/

/-- A letter, a digit or an underscore, of ASCII. -/
def Word (c : Char) : Prop :=
  'A' ≤ c ∧ c ≤ 'Z' ∨ 'a' ≤ c ∧ c ≤ 'z' ∨ '0' ≤ c ∧ c ≤ '9' ∨ c = '_'

def HostLetter (c : Char) : Prop := Word c ∨ c = '.' ∨ c = '-'

def NameLetter (c : Char) : Prop := Word c ∨ c = '.' ∨ c = ':' ∨ c = '-'

def Decimal (c : Char) : Prop := '0' ≤ c ∧ c ≤ '9'

/-- Not empty, and all of one class. -/
def Run (P : Char → Prop) (s : List Char) : Prop := s ≠ [] ∧ ∀ c ∈ s, P c

/-- A host with any number of ports, each behind a colon. -/
def Host (s : List Char) : Prop :=
  ∃ (host : List Char) (ports : List (List Char)), s = host ++ ports.flatMap (':' :: ·) ∧
    Run HostLetter host ∧ ∀ port ∈ ports, Run Decimal port

/-- Without a slash a name, with one slash a host and a name. -/
def Reference (s : List Char) : Prop :=
  '/' ∉ s ∧ Run NameLetter s ∨
    ∃ before after, s = before ++ '/' :: after ∧ '/' ∉ before ∧ '/' ∉ after ∧
      Host before ∧ Run NameLetter after

/-! ## Classes of characters -/

section Classes
variable {c : Char}

theorem isAlphanum_iff :
    c.isAlphanum = true ↔ 'A' ≤ c ∧ c ≤ 'Z' ∨ 'a' ≤ c ∧ c ≤ 'z' ∨ '0' ≤ c ∧ c ≤ '9' := by
  have hupper : c.isUpper = decide ('A' ≤ c ∧ c ≤ 'Z') := rfl
  have hlower : c.isLower = (decide ('a' ≤ c) && decide (c ≤ 'z')) := rfl
  have hdigit : c.isDigit = (decide ('0' ≤ c) && decide (c ≤ '9')) := rfl
  have halphanum : c.isAlphanum = ((c.isUpper || c.isLower) || c.isDigit) := rfl
  rw [halphanum, hupper, hlower, hdigit]
  simp only [Bool.or_eq_true, Bool.and_eq_true, decide_eq_true_eq, or_assoc]

theorem isWordChar_iff : isWordChar c = true ↔ Word c := by
  rw [isWordChar, Bool.or_eq_true, isAlphanum_iff, beq_iff_eq, Word, or_assoc, or_assoc]

theorem isHostChar_iff : isHostChar c = true ↔ HostLetter c := by
  rw [isHostChar, Bool.or_eq_true, Bool.or_eq_true, isWordChar_iff, beq_iff_eq, beq_iff_eq, HostLetter, or_assoc]

theorem isNameChar_iff : isNameChar c = true ↔ NameLetter c := by
  rw [isNameChar, Bool.or_eq_true, isHostChar_iff, beq_iff_eq, NameLetter, HostLetter]
  tauto

theorem isDigit_iff : c.isDigit = true ↔ Decimal c := by
  simp [Char.isDigit, Decimal, Char.le_def]

/-- All characters of references lie between the hyphen and the small `z`. -/
theorem NameLetter.bounds (h : NameLetter c) : 0x2d ≤ c.toNat ∧ c.toNat ≤ 0x7a := by
  have hle {a b : Char} (hab : a ≤ b) : a.toNat ≤ b.toNat := hab
  rcases h with (⟨h, h'⟩ | ⟨h, h'⟩ | ⟨h, h'⟩ | rfl) | rfl | rfl | rfl
  · exact ⟨Nat.le_trans (by decide) (hle h), Nat.le_trans (hle h') (by decide)⟩
  · exact ⟨Nat.le_trans (by decide) (hle h), Nat.le_trans (hle h') (by decide)⟩
  · exact ⟨Nat.le_trans (by decide) (hle h), Nat.le_trans (hle h') (by decide)⟩
  all_goals decide

end Classes

/-! ## What validation looks for -/

section Shape
variable {s : List Char}

theorem isRun_iff {p : Char → Bool} {P : Char → Prop} (h : ∀ c, p c = true ↔ P c) :
    isRun p s = true ↔ Run P s := by
  simp [isRun, Run, h]

theorem Run.notMem {P : Char → Prop} {c : Char} (h : Run P s) (hc : ¬ P c) : c ∉ s :=
  fun hs => hc (h.2 c hs)

theorem Host.notMem_slash (h : Host s) : '/' ∉ s := by
  obtain ⟨host, ports, rfl, hh, hps⟩ := h
  rw [List.mem_append, not_or]
  refine ⟨hh.notMem (by simp [HostLetter, Word]), fun hmem => ?_⟩
  obtain ⟨port, hp, hmem⟩ := List.mem_flatMap.1 hmem
  have hmem : '/' ∈ port := by simpa using hmem
  exact absurd hmem ((hps port hp).notMem (by simp [Decimal]))

theorem isHost_iff : isHost s = true ↔ Host s := by
  have hhost : ¬ HostLetter ':' := by simp [HostLetter, Word]
  have hport : ¬ Decimal ':' := by simp [Decimal]
  unfold isHost
  split
  · next host ports hp =>
    rw [Bool.and_eq_true, isRun_iff fun _ => isHostChar_iff, List.all_eq_true]
    obtain ⟨hs, -, -⟩ := Text.pieces_eq_cons_iff.1 hp
    constructor
    · rintro ⟨hh, hps⟩
      exact ⟨host, ports, hs, hh, fun port hport => (isRun_iff fun _ => isDigit_iff).1 (hps port hport)⟩
    · rintro ⟨host', ports', hs', hh, hps⟩
      -- The pieces are the only way to cut the text, so these are the same host and ports.
      have hp' := Text.pieces_eq_cons_iff.2 ⟨hs', hh.notMem hhost, fun port h => (hps port h).notMem hport⟩
      obtain ⟨rfl, rfl⟩ := List.cons.inj (hp.symm.trans hp')
      exact ⟨hh, fun port h => (isRun_iff fun _ => isDigit_iff).2 (hps port h)⟩
  · next hp => exact absurd hp (Text.pieces_ne_nil ':' s)

theorem isValidChars_iff : isValidChars s = true ↔ Reference s := by
  unfold isValidChars
  split
  · next name hp =>
    obtain ⟨hs, hname, -⟩ := Text.pieces_eq_cons_iff.1 hp
    obtain rfl : s = name := by simpa using hs
    rw [isRun_iff fun _ => isNameChar_iff]
    constructor
    · exact fun h => .inl ⟨hname, h⟩
    · rintro (⟨-, h⟩ | ⟨before, after, rfl, -⟩)
      · exact h
      · exact absurd hname (by simp)
  · next host name hp =>
    obtain ⟨hs, hhost, hname⟩ := Text.pieces_eq_cons_iff.1 hp
    obtain rfl : s = host ++ '/' :: name := by simpa using hs
    have hname : '/' ∉ name := hname name (by simp)
    rw [Bool.and_eq_true, isHost_iff, isRun_iff fun _ => isNameChar_iff]
    constructor
    · rintro ⟨hh, hn⟩
      exact .inr ⟨host, name, rfl, hhost, hname, hh, hn⟩
    · rintro (⟨h, -⟩ | ⟨before, after, hs, hb, ha, hh, hn⟩)
      · exact absurd h (by simp)
      · have hp' : Text.pieces '/' (host ++ '/' :: name) = [before, after] :=
          Text.pieces_eq_cons_iff.2 ⟨by simpa using hs, hb, by simpa using ha⟩
        obtain ⟨rfl, rfl⟩ : host = before ∧ name = after := by simpa using hp.symm.trans hp'
        exact ⟨hh, hn⟩
  · next hone htwo =>
    refine iff_of_false Bool.false_ne_true ?_
    rintro (⟨h, -⟩ | ⟨before, after, rfl, hb, ha, -⟩)
    · exact hone s (Text.pieces_of_notMem h)
    · exact htwo before after (Text.pieces_eq_cons_iff.2 ⟨by simp, hb, by simpa using ha⟩)

instance (s : List Char) : Decidable (Reference s) := decidable_of_iff _ isValidChars_iff

end Shape

/-! ## The grammar as a regular expression -/

open RegularExpression (char)

/-- One character of a range. -/
def between (first last : Char) : RegularExpression Char :=
  ((List.range (last.toNat + 1 - first.toNat)).map fun i => char (Char.ofNat (first.toNat + i))).sum

def word : RegularExpression Char := between 'A' 'Z' + between 'a' 'z' + between '0' '9' + char '_'

def oneOrMore (r : RegularExpression Char) : RegularExpression Char := r * r.star

/-- References as a regular expression. -/
def grammar : RegularExpression Char :=
  (1 + oneOrMore (word + char '.' + char '-') * (char ':' * oneOrMore (between '0' '9')).star * char '/') *
    oneOrMore (word + char '.' + char ':' + char '-')

section Grammar
variable {r r' : RegularExpression Char} {P P' : Char → Prop} {s : List Char}

/-- The expression matches single characters, those of one class. -/
def Letters (r : RegularExpression Char) (P : Char → Prop) : Prop :=
  ∀ s, s ∈ r.matches' ↔ ∃ c, s = [c] ∧ P c

theorem letters_char (d : Char) : Letters (char d) (· = d) := by
  intro s
  constructor
  · rintro rfl
    exact ⟨d, rfl, rfl⟩
  · rintro ⟨c, rfl, rfl⟩
    rfl

theorem Letters.add (h : Letters r P) (h' : Letters r' P') : Letters (r + r') fun c => P c ∨ P' c := by
  intro s
  rw [RegularExpression.matches'_add, Language.mem_add, h s, h' s]
  constructor
  · rintro (⟨c, rfl, hc⟩ | ⟨c, rfl, hc⟩)
    · exact ⟨c, rfl, .inl hc⟩
    · exact ⟨c, rfl, .inr hc⟩
  · rintro ⟨c, rfl, hc | hc⟩
    · exact .inl ⟨c, rfl, hc⟩
    · exact .inr ⟨c, rfl, hc⟩

theorem mem_matches_sum {rs : List (RegularExpression Char)} :
    s ∈ rs.sum.matches' ↔ ∃ r ∈ rs, s ∈ r.matches' := by
  induction rs with
  | nil => simp [RegularExpression.matches'_zero]
  | cons r rs ih =>
    rw [List.sum_cons, RegularExpression.matches'_add, Language.mem_add, ih]
    simp

theorem toNat_ofNat {n : Nat} (h : n < 0xd800) : (Char.ofNat n).toNat = n := by
  have hv : n.isValidChar := .inl h
  rw [Char.ofNat, dif_pos hv]
  rfl

theorem letters_between (first last : Char) (h : last.toNat < 0xd800) :
    Letters (between first last) fun c => first ≤ c ∧ c ≤ last := by
  intro s
  rw [between, mem_matches_sum]
  constructor
  · rintro ⟨r, hr, hs⟩
    obtain ⟨i, hi, rfl⟩ := List.mem_map.1 hr
    obtain ⟨c, rfl, rfl⟩ := (letters_char _ s).1 hs
    rw [List.mem_range] at hi
    have hc := toNat_ofNat (n := first.toNat + i) (by omega)
    refine ⟨_, rfl, ?_, ?_⟩
    · show first.toNat ≤ (Char.ofNat (first.toNat + i)).toNat
      omega
    · show (Char.ofNat (first.toNat + i)).toNat ≤ last.toNat
      omega
  · rintro ⟨c, rfl, hfirst, hlast⟩
    have hfirst : first.toNat ≤ c.toNat := hfirst
    have hlast : c.toNat ≤ last.toNat := hlast
    have hc : Char.ofNat (first.toNat + (c.toNat - first.toNat)) = c := by
      rw [Nat.add_sub_cancel' hfirst, Char.ofNat_toNat]
    refine ⟨char c, List.mem_map.2 ⟨c.toNat - first.toNat, ?_, congrArg char hc⟩, rfl⟩
    rw [List.mem_range]
    omega

theorem mem_oneOrMore (h : Letters r P) : s ∈ (oneOrMore r).matches' ↔ Run P s := by
  rw [oneOrMore, RegularExpression.matches'_mul, RegularExpression.matches'_star, Language.mem_mul]
  constructor
  · rintro ⟨a, ha, b, hb, rfl⟩
    obtain ⟨c, rfl, hc⟩ := (h a).1 ha
    obtain ⟨pieces, rfl, hpieces⟩ := Language.mem_kstar.1 hb
    refine ⟨by simp, fun d hd => ?_⟩
    rcases List.mem_cons.1 hd with rfl | hd
    · exact hc
    · obtain ⟨piece, hpiece, hd⟩ := List.mem_flatten.1 hd
      obtain ⟨e, rfl, he⟩ := (h piece).1 (hpieces piece hpiece)
      rwa [List.mem_singleton.1 hd]
  · rintro ⟨hne, hs⟩
    obtain ⟨c, rest, rfl⟩ := List.exists_cons_of_ne_nil hne
    refine ⟨[c], (h _).2 ⟨c, rfl, hs c List.mem_cons_self⟩, rest, ?_, rfl⟩
    refine Language.mem_kstar.2 ⟨rest.map fun d => [d], ?_, fun piece hpiece => ?_⟩
    · rw [← List.flatMap_def, List.flatMap_singleton']
    obtain ⟨d, hd, rfl⟩ := List.mem_map.1 hpiece
    exact (h _).2 ⟨d, rfl, hs d (List.mem_cons_of_mem _ hd)⟩

theorem letters_word : Letters word Word := by
  have h := (((letters_between 'A' 'Z' (by decide)).add
    (letters_between 'a' 'z' (by decide))).add
    (letters_between '0' '9' (by decide))).add (letters_char '_')
  simpa only [Letters, word, Word, or_assoc] using h

theorem letters_hostLetter : Letters (word + char '.' + char '-') HostLetter := by
  have h := (letters_word.add (letters_char '.')).add (letters_char '-')
  simpa only [Letters, HostLetter, or_assoc] using h

theorem letters_nameLetter : Letters (word + char '.' + char ':' + char '-') NameLetter := by
  have h := ((letters_word.add (letters_char '.')).add (letters_char ':')).add (letters_char '-')
  simpa only [Letters, NameLetter, or_assoc] using h

theorem mem_ports :
    s ∈ (char ':' * oneOrMore (between '0' '9')).star.matches' ↔
      ∃ ports : List (List Char), s = ports.flatMap (':' :: ·) ∧ ∀ port ∈ ports, Run Decimal port := by
  have hport (t : List Char) :
      t ∈ (char ':' * oneOrMore (between '0' '9')).matches' ↔ ∃ port, t = ':' :: port ∧ Run Decimal port := by
    rw [RegularExpression.matches'_mul, Language.mem_mul]
    constructor
    · rintro ⟨_, rfl, port, hp, rfl⟩
      exact ⟨port, rfl, (mem_oneOrMore (letters_between _ _ (by decide))).1 hp⟩
    · rintro ⟨port, rfl, hp⟩
      exact ⟨[':'], rfl, port, (mem_oneOrMore (letters_between _ _ (by decide))).2 hp, rfl⟩
  rw [RegularExpression.matches'_star, Language.mem_kstar]
  constructor
  · rintro ⟨pieces, rfl, hpieces⟩
    induction pieces with
    | nil => exact ⟨[], rfl, nofun⟩
    | cons piece pieces ih =>
      obtain ⟨port, rfl, hp⟩ := (hport piece).1 (hpieces piece List.mem_cons_self)
      obtain ⟨ports, hs, hps⟩ := ih fun t ht => hpieces t (List.mem_cons_of_mem _ ht)
      exact ⟨port :: ports, by simp [hs], List.forall_mem_cons.2 ⟨hp, hps⟩⟩
  · rintro ⟨ports, rfl, hps⟩
    refine ⟨ports.map (':' :: ·), by rw [List.flatMap_def], fun t ht => ?_⟩
    obtain ⟨port, hp, rfl⟩ := List.mem_map.1 ht
    exact (hport _).2 ⟨port, rfl, hps port hp⟩

end Grammar

/-- A text is a reference if and only if the whole of it matches the grammar. -/
theorem reference_iff_matches {s : List Char} : Reference s ↔ s ∈ grammar.matches' := by
  have hname (t : List Char) :
      t ∈ (oneOrMore (word + char '.' + char ':' + char '-')).matches' ↔ Run NameLetter t :=
    mem_oneOrMore letters_nameLetter
  have hslash : ¬ NameLetter '/' := by simp [NameLetter, Word]
  rw [grammar, RegularExpression.matches'_mul, Language.mem_mul]
  constructor
  · rintro (⟨-, hs⟩ | ⟨_, after, rfl, -, -, ⟨host, ports, rfl, hh, hps⟩, ha⟩)
    · exact ⟨[], .inl rfl, s, (hname s).2 hs, rfl⟩
    · have hbefore := Language.mem_mul.2
        ⟨host, (mem_oneOrMore letters_hostLetter).2 hh, _, mem_ports.2 ⟨ports, rfl, hps⟩, rfl⟩
      refine ⟨_, .inr (Language.mem_mul.2 ⟨_, hbefore, ['/'], rfl, rfl⟩), after, (hname after).2 ha, ?_⟩
      simp
  · rintro ⟨a, ha, b, hb, rfl⟩
    have hb := (hname b).1 hb
    rcases ha with rfl | ⟨_, ⟨host, hh, _, hps, rfl⟩, _, rfl, rfl⟩
    · exact .inl ⟨hb.notMem hslash, hb⟩
    · have hh := (mem_oneOrMore letters_hostLetter).1 hh
      obtain ⟨ports, rfl, hports⟩ := mem_ports.1 hps
      have hhost : Host (host ++ ports.flatMap (':' :: ·)) := ⟨host, ports, rfl, hh, hports⟩
      exact .inr ⟨_, b, by simp, hhost.notMem_slash, hb.notMem hslash, hhost, hb⟩

/-! ## Validation -/

/-- The text without its quotes. -/
def unquoted (raw : String) : String :=
  String.ofList (raw.toList.filter fun c => c ≠ '\x27' ∧ c ≠ '\x22')

theorem stripQuotes_eq_unquoted (raw : String) : stripQuotes raw = unquoted raw := by
  have hclass : (!isQuote ·) = fun c : Char => decide (c ≠ '\x27' ∧ c ≠ '\x22') := by
    funext c
    rw [Bool.eq_iff_iff]
    simp [isQuote]
  rw [stripQuotes, unquoted, hclass]

section Validate
variable {raw image : String}

theorem isValid_iff : isValid image = true ↔ Reference image.toList := isValidChars_iff

theorem validate_some (h : raw ≠ "") :
    validate (some raw) =
      if isValid (unquoted raw) then .ok (unquoted raw) else .error (.malformed (unquoted raw)) := by
  have hne : raw.isEmpty = false := by simpa using h
  rw [validate, hne, ← stripQuotes_eq_unquoted]
  rfl

theorem Reference.ne_nil {s : List Char} (h : Reference s) : s ≠ [] := by
  rcases h with ⟨-, h⟩ | ⟨before, after, rfl, -⟩
  · exact h.1
  · simp

/-- A character of a reference is a slash or one of a name. -/
theorem Reference.letters {s : List Char} (h : Reference s) : ∀ c ∈ s, c = '/' ∨ NameLetter c := by
  rcases h with ⟨-, h⟩ | ⟨_, after, rfl, -, -, ⟨host, ports, rfl, hh, hps⟩, ha⟩
  · exact fun c hc => .inr (h.2 c hc)
  · intro c hc
    rw [List.mem_append, List.mem_append, List.mem_flatMap, List.mem_cons] at hc
    rcases hc with (hc | ⟨port, hport, hc⟩) | rfl | hc
    · rcases hh.2 c hc with hc | rfl | rfl
      · exact .inr (.inl hc)
      · exact .inr (.inr (.inl rfl))
      · exact .inr (.inr (.inr (.inr rfl)))
    · rcases List.mem_cons.1 hc with rfl | hc
      · exact .inr (.inr (.inr (.inl rfl)))
      · exact .inr (.inl (.inr (.inr (.inl ((hps port hport).2 c hc)))))
    · exact .inl rfl
    · exact .inr (ha.2 c hc)

theorem Reference.bounds {s : List Char} (h : Reference s) :
    ∀ c ∈ s, 0x2d ≤ c.toNat ∧ c.toNat ≤ 0x7a := by
  intro c hc
  rcases h.letters c hc with rfl | hc
  · decide
  · exact hc.bounds

theorem unquoted_of_reference (h : Reference image.toList) : unquoted image = image := by
  rw [unquoted, List.filter_eq_self.2, String.ofList_toList]
  intro c hc
  have hb := h.bounds c hc
  rw [decide_eq_true_iff]
  constructor
  · rintro rfl
    exact absurd hb (by decide)
  · rintro rfl
    exact absurd hb (by decide)

theorem validate_eq_ok_iff :
    validate (some raw) = .ok image ↔ image = unquoted raw ∧ Reference image.toList := by
  by_cases h : raw = ""
  · subst h
    refine iff_of_false (by simp [validate]) ?_
    rintro ⟨rfl, href⟩
    exact href.ne_nil rfl
  · rw [validate_some h]
    constructor
    · intro hv
      split at hv
      · next hvalid =>
        obtain rfl := Except.ok.inj hv
        exact ⟨rfl, isValid_iff.1 hvalid⟩
      · cases hv
    · rintro ⟨rfl, href⟩
      rw [if_pos (isValid_iff.2 href)]

theorem isPlain_of_nameLetter {c : Char} (h : NameLetter c) : Shell.isPlain c = true := by
  rcases h with h | rfl | rfl | rfl
  · rw [← isWordChar_iff, isWordChar, Bool.or_eq_true] at h
    rcases h with h | h
    · simp [Shell.isPlain, h]
    · simp [Shell.isPlain, beq_iff_eq.1 h]
  all_goals decide

theorem quote_of_reference (h : Reference image.toList) : Shell.quote image = image := by
  have hplain : image.toList.all Shell.isPlain = true := by
    rw [List.all_eq_true]
    intro c hc
    rcases h.letters c hc with rfl | hc
    · decide
    · exact isPlain_of_nameLetter hc
  have hne : image.toList.isEmpty = false := by simpa using h.ne_nil
  rw [Shell.quote, Shell.quoteChars, hne, if_neg Bool.false_ne_true, if_pos hplain, String.ofList_toList]

end Validate

/-- What validation makes of a raw reference. -/
structure Judged (raw : Option String) : Prop where
  accepts_iff : ∀ image, validate raw = .ok image ↔
    ∃ text, raw = some text ∧ image = unquoted text ∧ Reference image.toList
  refuses_missing : raw = none ∨ raw = some "" → validate raw = .error .missing
  refuses : ∀ text, raw = some text → text ≠ "" → ¬ Reference (unquoted text).toList →
    validate raw = .error (.malformed (unquoted text))
  reports : ∀ e, validate raw = .error e →
    e.report.kind = .invalidImage ∧ e.report.subject = (raw.filter (· ≠ "")).map unquoted
  matches_iff : ∀ image, validate raw = .ok image ↔
    ∃ text, raw = some text ∧ image = unquoted text ∧ image.toList ∈ grammar.matches'
  fixed : ∀ image, validate raw = .ok image → validate (some image) = .ok image
  spelled : ∀ image, validate raw = .ok image → Shell.quote image = image
  plain : ∀ image, validate raw = .ok image → ∀ c ∈ image.toList,
    Text.isBlank c = false ∧ c ≠ '\n' ∧ c ≠ '\x27' ∧ c ≠ '\x22' ∧ c.toNat < 128

/-- Validation accepts the references and nothing else; what it accepts may stand anywhere as it is. -/
theorem judged (raw : Option String) : Judged raw := by
  have haccepts (image : String) : validate raw = .ok image ↔
      ∃ text, raw = some text ∧ image = unquoted text ∧ Reference image.toList := by
    cases raw with
    | none => exact iff_of_false (by simp [validate]) (by simp)
    | some text => simp [validate_eq_ok_iff]
  have href (image : String) (h : validate raw = .ok image) : Reference image.toList := by
    obtain ⟨text, -, -, href⟩ := (haccepts image).1 h
    exact href
  have hrefuses (text : String) (hraw : raw = some text) (hne : text ≠ "")
      (hnot : ¬ Reference (unquoted text).toList) : validate raw = .error (.malformed (unquoted text)) := by
    rw [hraw, validate_some hne, if_neg (mt isValid_iff.1 hnot)]
  refine ⟨haccepts, ?_, hrefuses, ?_, fun image => ?_, ?_, ?_, ?_⟩
  · rintro (rfl | rfl)
    · rfl
    · simp [validate]
  · intro e he
    cases raw with
    | none =>
      obtain rfl := Except.error.inj he
      exact ⟨rfl, rfl⟩
    | some text =>
      by_cases hne : text = ""
      · subst hne
        obtain rfl := Except.error.inj he
        exact ⟨rfl, by simp [ImageError.report, ErrorReport.make]⟩
      · rw [validate_some hne] at he
        split at he
        · cases he
        · obtain rfl := Except.error.inj he
          exact ⟨rfl, by simp [ImageError.report, ErrorReport.make, hne]⟩
  · simp only [haccepts image, reference_iff_matches]
  · intro image h
    exact validate_eq_ok_iff.2 ⟨(unquoted_of_reference (href image h)).symm, href image h⟩
  · exact fun image h => quote_of_reference (href image h)
  · intro image h c hc
    obtain ⟨hlow, hhigh⟩ := (href image h).bounds c hc
    have hne {d : Char} (hd : d.toNat < 0x2d) : c ≠ d := by
      rintro rfl
      omega
    refine ⟨?_, hne (by decide), hne (by decide), hne (by decide), by omega⟩
    -- The blanks of ASCII come before the hyphen, all others after the small z.
    simp only [Text.isBlank, Bool.or_eq_false_iff, Bool.and_eq_false_iff, decide_eq_false_iff_not,
      beq_eq_false_iff_ne]
    omega

end ContainerLaunch.Image
