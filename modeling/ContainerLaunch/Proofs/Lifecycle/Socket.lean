import ContainerLaunch.Lifecycle.Feed
import ContainerLaunch.Proofs.Lifecycle.Payload
import ContainerLaunch.Proofs.Text.Pieces
import Mathlib.Data.List.TakeWhile
/-!
# Sockets in daemon URLs

A URL of a socket is `unix:`, in any case, an authority perhaps, and the path of the socket; what begins with a
question mark or a hash is not part of the path any more, and controls at the start, tabs and line breaks do not
count (`ofUrl_eq_socket_iff`). So the path that stands behind `unix://` is the path of the socket if and only if it
holds none of these characters (`ofUrl_unix_append`, `kept_eq_self_iff`).

The path may be missing. It is the empty text then, which is no socket: the requests go over the network, to
a host by the name that only stands for the socket.
-/

namespace ContainerLaunch.Lifecycle

namespace Url

/-- A character that ends the path. -/
def endsPath (c : Char) : Bool := c == '?' || c == '#'

/-- What stands between the colon of the scheme and the path. -/
inductive Front : List Char → List Char → Prop where
  | none {path} (h : ¬ ['/', '/'] <+: path) : Front [] path
  | authority {a path} (ha : ∀ c ∈ a, endsAuthority c = false) (hb : checkBrackets a = .ok ())
    (hc : checkAuthority a = .ok ()) (hp : ∀ c ∈ path.head?, c = '/') : Front ('/' :: '/' :: a) path

/-- The text reads as the URL of a socket with this path. -/
def ReadsAsSocket (text path : List Char) : Prop :=
  ∃ scheme front tail, clean text = scheme ++ ':' :: (front ++ path ++ tail) ∧
    scheme.map Char.toLower = "unix".toList ∧ Front front path ∧ (∀ c ∈ path, endsPath c = false) ∧
    ∀ c ∈ tail.head?, endsPath c = true

section
variable {text url scheme rest path tail : List Char}

/-! ## Schemes -/

theorem isAlpha_of_isAlpha_toLower {c : Char} (h : c.toLower.isAlpha = true) : c.isAlpha = true := by
  unfold Char.toLower at h
  split at h
  · next hc =>
    have hupper : c.isUpper = true := decide_eq_true hc
    show (c.isUpper || c.isLower) = true
    rw [hupper, Bool.true_or]
  · exact h

theorem isAlpha_of_map_toLower (h : scheme.map Char.toLower = "unix".toList) {c : Char} (hc : c ∈ scheme) :
    c.isAlpha = true := by
  have hmem : c.toLower ∈ "unix".toList := h ▸ List.mem_map_of_mem hc
  have hall : "unix".toList.all Char.isAlpha = true := by decide
  exact isAlpha_of_isAlpha_toLower (List.all_eq_true.1 hall _ hmem)

theorem isSchemeChar_of_isAlpha {c : Char} (h : c.isAlpha = true) : isSchemeChar c = true := by
  simp [isSchemeChar, Char.isAlphanum, h]

theorem ne_colon_of_isAlpha {c : Char} (h : c.isAlpha = true) : c ≠ ':' := by
  rintro rfl
  cases h

theorem splitScheme_eq_unix_iff :
    splitScheme url = ("unix".toList, rest) ↔
      ∃ scheme, url = scheme ++ ':' :: rest ∧ scheme.map Char.toLower = "unix".toList := by
  constructor
  · intro h
    unfold splitScheme at h
    dsimp only at h
    split at h
    · next rest' hdrop =>
      split at h
      · next first more htake =>
        split at h
        · obtain ⟨hscheme, rfl⟩ := Prod.mk.inj h
          obtain ⟨hurl, -, -⟩ := Text.takeWhile_and_dropWhile_eq_iff.1 ⟨rfl, hdrop⟩
          exact ⟨_, hurl, hscheme⟩
        · cases h
      · cases h
    · cases h
  · rintro ⟨scheme, rfl, hscheme⟩
    have halpha {c : Char} (hc : c ∈ scheme) : c.isAlpha = true := isAlpha_of_map_toLower hscheme hc
    obtain ⟨htake, hdrop⟩ := (Text.takeWhile_and_dropWhile_eq_iff (k := (· != ':'))
      (b := ':' :: rest)).2 ⟨rfl, fun c hc => by simpa using ne_colon_of_isAlpha (halpha hc), by simp⟩
    unfold splitScheme
    dsimp only
    rw [htake, hdrop]
    cases scheme with
    | nil => cases hscheme
    | cons first more =>
      have hall : (first :: more).all isSchemeChar = true :=
        List.all_eq_true.2 fun c hc => isSchemeChar_of_isAlpha (halpha hc)
      simp only [hall, halpha List.mem_cons_self, Bool.and_self, if_true, hscheme]

/-! ## Authorities and paths -/

/-- The part of what stands behind a scheme that is the path. -/
def pathIn (rest : List Char) : List Char := (rest.takeWhile (· != '#')).takeWhile (· != '?')

theorem pathIn_eq_iff :
    pathIn rest = path ↔
      ∃ tail, rest = path ++ tail ∧ (∀ c ∈ path, endsPath c = false) ∧ ∀ c ∈ tail.head?, endsPath c = true := by
  have hkind : (fun c => decide ((c != '?') = true ∧ (c != '#') = true)) = fun c => !endsPath c := by
    funext c
    simp [endsPath, Bool.not_or, bne, Bool.beq_eq_decide_eq]
  rw [pathIn, List.takeWhile_takeWhile, hkind]
  constructor
  · rintro rfl
    obtain ⟨hrest, hpath, htail⟩ := (Text.takeWhile_and_dropWhile_eq_iff (s := rest)).1 ⟨rfl, rfl⟩
    exact ⟨_, hrest, fun c hc => by simpa using hpath c hc, fun c hc => by simpa using htail c hc⟩
  · rintro ⟨tail, rfl, hpath, htail⟩
    exact ((Text.takeWhile_and_dropWhile_eq_iff (b := tail)).2
      ⟨rfl, fun c hc => by simp [hpath c hc], fun c hc => by simp [htail c hc]⟩).1

/-- The checks of what stands behind a scheme. -/
def Sound (authority? : Option (List Char)) : Prop :=
  (∀ a, authority? = some a → checkBrackets a = .ok ()) ∧ checkAuthority (authority?.getD []) = .ok ()

theorem splitAuthority_of_no_slashes (h : ¬ ['/', '/'] <+: rest) : splitAuthority rest = (none, rest) := by
  unfold splitAuthority
  split
  · next more => exact absurd ⟨more, rfl⟩ h
  · rfl

theorem not_prefix_append (hpath : ¬ ['/', '/'] <+: path) (htail : ∀ c ∈ tail.head?, endsPath c = true) :
    ¬ ['/', '/'] <+: path ++ tail := by
  have hslash : tail.head? ≠ some '/' := fun h => by cases htail '/' h
  rintro ⟨more, hmore⟩
  simp only [List.cons_append, List.nil_append] at hmore
  cases path with
  | nil =>
    rw [List.nil_append] at hmore
    exact hslash (hmore ▸ rfl)
  | cons c path =>
    obtain ⟨hc, hmore⟩ := List.cons.inj hmore
    cases path with
    | nil =>
      obtain rfl : '/' :: more = tail := hmore
      exact hslash rfl
    | cons d path =>
      obtain ⟨hd, -⟩ := List.cons.inj hmore
      exact hpath ⟨path, hc ▸ hd ▸ rfl⟩

theorem endsAuthority_of_endsPath {c : Char} (h : endsPath c = true) : endsAuthority c = true := by
  unfold endsPath at h
  unfold endsAuthority
  rw [Bool.or_assoc, h, Bool.or_true]

theorem splitAuthority_cons {a : List Char} (ha : ∀ c ∈ a, endsAuthority c = false)
    (hp : ∀ c ∈ path.head?, c = '/') (htail : ∀ c ∈ tail.head?, endsPath c = true) :
    splitAuthority ('/' :: '/' :: a ++ path ++ tail) = (some a, path ++ tail) := by
  have hends : ∀ c ∈ (path ++ tail).head?, endsAuthority c = true := by
    intro c hc
    cases path with
    | nil => exact endsAuthority_of_endsPath (htail c hc)
    | cons d path =>
      obtain rfl := hp d rfl
      obtain rfl := Option.some.inj hc
      rfl
  obtain ⟨htake, hdrop⟩ := (Text.takeWhile_and_dropWhile_eq_iff (k := (!endsAuthority ·))
    (a := a) (b := path ++ tail)).2
    ⟨rfl, fun c hc => by simp [ha c hc], fun c hc => by simp [hends c hc]⟩
  show (some ((a ++ path ++ tail).takeWhile (!endsAuthority ·)),
    (a ++ path ++ tail).dropWhile (!endsAuthority ·)) = _
  rw [List.append_assoc, htake, hdrop]

theorem splitAuthority_iff :
    Sound (splitAuthority rest).1 ∧ pathIn (splitAuthority rest).2 = path ↔
      ∃ front tail, rest = front ++ path ++ tail ∧ Front front path ∧ (∀ c ∈ path, endsPath c = false) ∧
        ∀ c ∈ tail.head?, endsPath c = true := by
  constructor
  · by_cases h : ['/', '/'] <+: rest
    · obtain ⟨more, rfl⟩ := h
      rintro ⟨⟨hb, hc⟩, hp⟩
      obtain ⟨tail, hmore, hpath, htail⟩ := pathIn_eq_iff.1 hp
      obtain ⟨hall, ha, hhead⟩ := (Text.takeWhile_and_dropWhile_eq_iff (s := more)).1 ⟨rfl, hmore⟩
      refine ⟨'/' :: '/' :: more.takeWhile (!endsAuthority ·), tail, ?_,
        .authority (fun c hc => by simpa using ha c hc) (hb _ rfl) hc fun c hc => ?_, hpath, htail⟩
      · rw [List.append_assoc]
        exact congrArg ('/' :: '/' :: ·) hall
      have hne := hpath c (List.mem_of_mem_head? hc)
      have hends : endsAuthority c = true := by simpa using hhead c (by simp [List.head?_append, Option.mem_def.1 hc])
      unfold endsAuthority at hends
      rw [Bool.or_assoc] at hends
      exact beq_iff_eq.1 ((Bool.or_eq_true_iff.1 hends).resolve_right (Bool.eq_false_iff.1 hne))
    · rw [splitAuthority_of_no_slashes h]
      rintro ⟨-, hp⟩
      obtain ⟨tail, rfl, hpath, htail⟩ := pathIn_eq_iff.1 hp
      exact ⟨[], tail, rfl, .none fun hpre => h (hpre.trans (List.prefix_append ..)), hpath, htail⟩
  · rintro ⟨front, tail, rfl, hfront, hpath, htail⟩
    have hp : pathIn (path ++ tail) = path := pathIn_eq_iff.2 ⟨tail, rfl, hpath, htail⟩
    cases hfront with
    | none h =>
      rw [List.nil_append, splitAuthority_of_no_slashes (not_prefix_append h htail)]
      exact ⟨⟨nofun, rfl⟩, hp⟩
    | authority ha hb hc hhead =>
      rw [splitAuthority_cons ha hhead htail]
      exact ⟨⟨fun _ h => Option.some.inj h ▸ hb, hc⟩, hp⟩

/-! ## Whole URLs -/

theorem parse_eq_ok_iff {text : String} {u : Url} :
    parse text = .ok u ↔
      Sound (splitAuthority (splitScheme (clean text.toList)).2).1 ∧
        u = ⟨String.ofList (splitScheme (clean text.toList)).1,
          String.ofList ((splitAuthority (splitScheme (clean text.toList)).2).1.getD []),
          String.ofList (pathIn (splitAuthority (splitScheme (clean text.toList)).2).2)⟩ := by
  unfold parse
  obtain ⟨scheme, rest⟩ := splitScheme (clean text.toList)
  dsimp only
  obtain ⟨authority?, rest⟩ := splitAuthority rest
  dsimp only
  cases authority? with
  | none =>
    show Except.ok _ = Except.ok u ↔ _
    rw [Except.ok.injEq, eq_comm]
    exact (and_iff_right ⟨nofun, rfl⟩).symm
  | some a =>
    show checkBrackets a >>= (fun _ => checkAuthority a >>= fun _ => pure _) = .ok u ↔ _
    simp only [Payload.bind_eq_ok_iff, pure, Except.pure, Except.ok.injEq]
    constructor
    · rintro ⟨_, hb, _, hc, rfl⟩
      exact ⟨⟨fun _ h => Option.some.inj h ▸ hb, hc⟩, rfl⟩
    · rintro ⟨⟨hb, hc⟩, rfl⟩
      exact ⟨(), hb a rfl, (), hc, rfl⟩

end

end Url

namespace Endpoint
variable {text path : String}

theorem ofUrl_eq_socket_iff :
    ofUrl text = .ok (.socket path) ↔ Url.ReadsAsSocket text.toList path.toList := by
  constructor
  · intro h
    unfold ofUrl at h
    split at h
    · cases h
    · next u hu =>
      split at h
      · next hscheme =>
        obtain rfl := socket.inj (Except.ok.inj h)
        obtain ⟨hsound, rfl⟩ := Url.parse_eq_ok_iff.1 hu
        have hunix : (Url.splitScheme (Url.clean text.toList)).1 = "unix".toList := by
          rw [← hscheme, String.toList_ofList]
        obtain ⟨scheme, hclean, hlower⟩ := Url.splitScheme_eq_unix_iff.1 (Prod.ext hunix rfl)
        obtain ⟨front, tail, hrest, hfront, hpath, htail⟩ := Url.splitAuthority_iff.1 ⟨hsound, rfl⟩
        rw [String.toList_ofList]
        exact ⟨scheme, front, tail, hrest ▸ hclean, hlower, hfront, hpath, htail⟩
      · split at h
        · cases h
        · split at h <;> cases h
  · rintro ⟨scheme, front, tail, hclean, hlower, hfront, hpath, htail⟩
    have hsplit := Url.splitScheme_eq_unix_iff.2 ⟨scheme, hclean, hlower⟩
    obtain ⟨hsound, hp⟩ := Url.splitAuthority_iff.2 ⟨front, tail, rfl, hfront, hpath, htail⟩
    have hparse : Url.parse text = .ok _ := Url.parse_eq_ok_iff.2 ⟨by rw [hsplit]; exact hsound, rfl⟩
    rw [hsplit, hp] at hparse
    unfold ofUrl
    rw [hparse]
    simp

/-! ## The path behind `unix://` -/

/-- What is left of a path that stands behind `unix://`. -/
def kept (path : String) : String :=
  String.ofList ((path.toList.filter (!Url.isDropped ·)).takeWhile (!Url.endsPath ·))

/-- None of the characters that count in no URL or end the path of one. -/
def Plain (path : String) : Prop := ∀ c ∈ path.toList, c ∉ ['\t', '\r', '\n', '?', '#']

theorem plain_iff :
    Plain path ↔ ∀ c ∈ path.toList, (!Url.isDropped c) = true ∧ (!Url.endsPath c) = true := by
  refine forall₂_congr fun c _ => ?_
  simp only [Url.isDropped, Url.endsPath, List.mem_cons, List.not_mem_nil, or_false, not_or, Bool.not_or,
    Bool.and_eq_true, Bool.not_eq_true', beq_eq_false_iff_ne, ne_eq, and_assoc]

theorem kept_eq_self_iff : kept path = path ↔ Plain path := by
  rw [plain_iff, ← String.toList_inj, kept, String.toList_ofList, forall₂_and]
  constructor
  · intro h
    have hfilter : path.toList.filter (!Url.isDropped ·) = path.toList := by
      have hle := (List.takeWhile_sublist (!Url.endsPath ·)
        (l := path.toList.filter (!Url.isDropped ·))).length_le
      rw [h] at hle
      exact List.filter_sublist.eq_of_length_le hle
    rw [hfilter] at h
    exact ⟨List.filter_eq_self.1 hfilter, List.takeWhile_eq_self_iff.1 h⟩
  · rintro ⟨hdropped, hends⟩
    rw [List.filter_eq_self.2 hdropped, List.takeWhile_eq_self_iff.2 hends]

theorem head?_kept (h : path.toList.head? = some '/') : (kept path).toList.head? = some '/' := by
  obtain ⟨rest, hrest⟩ := List.head?_eq_some_iff.1 h
  rw [kept, String.toList_ofList, hrest, List.filter_cons_of_pos rfl, List.takeWhile_cons_of_pos rfl]
  rfl

theorem clean_unix_append (path : String) :
    Url.clean ("unix://" ++ path).toList = "unix://".toList ++ path.toList.filter (!Url.isDropped ·) := by
  rw [String.toList_append]
  rfl

theorem ofUrl_unix_append (h : path.toList.head? = some '/') :
    ofUrl ("unix://" ++ path) = .ok (.socket (kept path)) := by
  let rest := path.toList.filter (!Url.isDropped ·)
  obtain ⟨hrest, hpath, htail⟩ := (Text.takeWhile_and_dropWhile_eq_iff (s := rest)
    (k := (!Url.endsPath ·))).1 ⟨rfl, rfl⟩
  have hkept : (kept path).toList = rest.takeWhile (!Url.endsPath ·) := String.toList_ofList
  rw [ofUrl_eq_socket_iff, hkept]
  refine ⟨"unix".toList, "//".toList, rest.dropWhile (!Url.endsPath ·), ?_, rfl,
    .authority (a := []) (fun _ hc => nomatch hc) rfl rfl fun c hc => ?_, fun c hc => ?_, fun c hc => ?_⟩
  · rw [clean_unix_append, List.append_assoc, ← hrest]
    rfl
  · rw [← hkept, head?_kept h] at hc
    exact (Option.some.inj hc).symm
  · simpa using hpath c hc
  · simpa using htail c hc

/-! ## What the requests go over -/

/-- The base of a socket, whatever its path. -/
def socketBase : Address where
  scheme := "http".toList
  user := []
  host := "docker".toList
  port? := none
  path := []
  query? := none
  fragment? := none

theorem address_socket (path : String) : (socket path).address = .ok socketBase := by
  show (socket "").address = _
  decide +kernel

theorem feed_of_socket (h : ofUrl text = .ok (.socket path)) (containerId : String) :
    Feed.ofUrl text containerId = .ok { containerId, base := socketBase } := by
  unfold Feed.ofUrl
  rw [h]
  dsimp only [bind, Except.bind]
  rw [address_socket]
  rfl

theorem carrier_socket (path : String) :
    (socket path).carrier = if path = "" then .network else .socket path := by
  show (if path.isEmpty then Carrier.network else .socket path) = _
  simp only [String.isEmpty_iff]

theorem carrier_kept (h : path.toList.head? = some '/') :
    (socket (kept path)).carrier = .socket (kept path) := by
  rw [carrier_socket, if_neg]
  intro he
  have hhead := head?_kept h
  rw [he] at hhead
  cases hhead

/-- What URLs of sockets come to: behind `unix://` an absolute path, which is kept as it is if and only if it is
plain, and in general a path that may be missing. Without it the requests go over the network, below the base
that stands for a socket. -/
theorem ofUrl_sockets (text path containerId : String) :
    (path.toList.head? = some '/' →
      (ofUrl ("unix://" ++ path)).map (fun e => (e.baseUrl, e.socketPath?)) =
          .ok ("http://docker", some (kept path)) ∧
        (kept path = path ↔ Plain path) ∧ (socket (kept path)).carrier = .socket (kept path)) ∧
    (ofUrl text = .ok (.socket path) ↔ Url.ReadsAsSocket text.toList path.toList) ∧
    (ofUrl text = .ok (.socket path) →
      Feed.ofUrl text containerId = .ok { containerId, base := socketBase } ∧
        (socket path).carrier = if path = "" then .network else .socket path) := by
  refine ⟨fun h => ⟨?_, kept_eq_self_iff, carrier_kept h⟩, ofUrl_eq_socket_iff,
    fun h => ⟨feed_of_socket h containerId, carrier_socket path⟩⟩
  rw [ofUrl_unix_append h]
  rfl

/-- A path with a question mark is not kept, and a URL without a path is no socket at all. -/
theorem ofUrl_unfaithful :
    ofUrl "unix:///run/a?b" = .ok (.socket "/run/a") ∧
      ofUrl "unix://" = .ok (.socket "") ∧ (socket "").carrier = .network ∧
      (¬ ∀ path : String, path.toList.head? = some '/' → ofUrl ("unix://" ++ path) = .ok (.socket path)) ∧
      ¬ ∀ text path, ofUrl text = .ok (.socket path) → (socket path).carrier = .socket path := by
  have hcut : ofUrl "unix:///run/a?b" = .ok (.socket "/run/a") := by decide +kernel
  have hmissing : ofUrl "unix://" = .ok (.socket "") := by decide +kernel
  refine ⟨hcut, hmissing, rfl, fun h => ?_, fun h => ?_⟩
  · have hkept : ofUrl "unix:///run/a?b" = .ok (.socket "/run/a?b") := h "/run/a?b" rfl
    have hsame : "/run/a" = "/run/a?b" := socket.inj (Except.ok.inj (hcut.symm.trans hkept))
    exact absurd hsame (by decide)
  · have hsame : Carrier.network = .socket "" := h "unix://" "" hmissing
    exact Carrier.noConfusion hsame

end Endpoint

end ContainerLaunch.Lifecycle
