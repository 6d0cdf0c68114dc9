import ContainerLaunch.Text.Pieces
/-!
# Cutting a text and putting it together

A text is cut into its pieces in one way only: the pieces are those texts without separators that make up
the text when each but the first is put behind a separator (`pieces_eq_cons_iff`).
-/

namespace ContainerLaunch.Text

variable {separator : Char} {s p : List Char} {ps : List (List Char)}

theorem pieces_cons_of_ne {c : Char} (hc : c ≠ separator) (h : pieces separator s = p :: ps) :
    pieces separator (c :: s) = (c :: p) :: ps := by
  simp only [pieces] at h
  simp [pieces, hc, h]

theorem pieces_of_notMem (h : separator ∉ s) : pieces separator s = [s] := by
  induction s with
  | nil => rfl
  | cons c s ih =>
    rw [List.mem_cons, not_or] at h
    exact pieces_cons_of_ne (Ne.symm h.1) (ih h.2)

theorem pieces_append (h : separator ∉ p) (s : List Char) :
    pieces separator (p ++ separator :: s) = p :: pieces separator s := by
  induction p with
  | nil => exact pieces_cons_self separator s
  | cons c p ih =>
    rw [List.mem_cons, not_or] at h
    exact pieces_cons_of_ne (Ne.symm h.1) (ih h.2)

theorem notMem_of_mem_pieces (hp : p ∈ pieces separator s) : separator ∉ p := by
  induction s generalizing p with
  | nil =>
    rw [pieces_nil, List.mem_singleton] at hp
    simp [hp]
  | cons c s ih =>
    by_cases hc : c = separator
    · subst hc
      rw [pieces_cons_self, List.mem_cons] at hp
      rcases hp with rfl | hp
      · exact List.not_mem_nil
      · exact ih hp
    · obtain ⟨q, qs, hq⟩ := List.exists_cons_of_ne_nil (pieces_ne_nil separator s)
      rw [pieces_cons_of_ne hc hq, List.mem_cons] at hp
      rcases hp with rfl | hp
      · have hnot : separator ∉ q := ih (by simp [hq])
        simpa [Ne.symm hc] using hnot
      · exact ih (by simp [hq, hp])

theorem intercalate_cons (p : List Char) (ps : List (List Char)) :
    [separator].intercalate (p :: ps) = p ++ ps.flatMap (separator :: ·) := by
  induction ps generalizing p with
  | nil => simp
  | cons q qs ih =>
    rw [List.intercalate_cons_cons, ih q, List.flatMap_cons, List.append_assoc]
    rfl

theorem pieces_eq_cons_iff :
    pieces separator s = p :: ps ↔
      s = p ++ ps.flatMap (separator :: ·) ∧ separator ∉ p ∧ ∀ q ∈ ps, separator ∉ q := by
  constructor
  · intro h
    refine ⟨?_, ?_, fun q hq => ?_⟩
    · rw [← intercalate_pieces separator s, h, intercalate_cons]
    · exact notMem_of_mem_pieces (by rw [h]; exact List.mem_cons_self)
    · exact notMem_of_mem_pieces (by rw [h]; exact List.mem_cons_of_mem _ hq)
  · rintro ⟨rfl, hp, hps⟩
    induction ps generalizing p with
    | nil => simpa using pieces_of_notMem hp
    | cons q qs ih =>
      have hq := ih (hps q List.mem_cons_self) fun r hr => hps r (List.mem_cons_of_mem _ hr)
      rw [List.flatMap_cons, List.cons_append, pieces_append hp, hq]

/-- A text has one longest beginning of characters of a kind. -/
theorem takeWhile_and_dropWhile_eq_iff {k : Char → Bool} {a b : List Char} :
    s.takeWhile k = a ∧ s.dropWhile k = b ↔
      s = a ++ b ∧ (∀ c ∈ a, k c = true) ∧ ∀ c ∈ b.head?, k c = false := by
  constructor
  · rintro ⟨rfl, rfl⟩
    refine ⟨List.takeWhile_append_dropWhile.symm, List.all_eq_true.1 List.all_takeWhile, fun c hc => ?_⟩
    have hhead := List.head?_dropWhile_not k s
    rwa [Option.mem_def.1 hc] at hhead
  · rintro ⟨rfl, ha, hb⟩
    rw [List.takeWhile_append_of_pos ha, List.dropWhile_append_of_pos ha]
    cases b with
    | nil => simp
    | cons c b => simp [hb c rfl]

theorem cut_append_of_notMem (h : separator ∉ p) (s : List Char) :
    cut separator (p ++ separator :: s) = (p, some s) := by
  have hp : ∀ c ∈ p, (c != separator) = true := fun c hc => bne_iff_ne.2 fun e => h (e ▸ hc)
  simp [cut, List.takeWhile_append_of_pos hp, List.dropWhile_append_of_pos hp]

end ContainerLaunch.Text
