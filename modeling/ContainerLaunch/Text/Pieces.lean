/-!
# Pieces of a text

`pieces` cuts a text at every separator, `cut` at the first one. Nothing but the separators is lost
(`intercalate_pieces`).
-/

namespace ContainerLaunch.Text

/-- The pieces between the separators, at least one. -/
def pieces (separator : Char) (s : List Char) : List (List Char) :=
  s.foldr (fun c found =>
    if c = separator then [] :: found
    else match found with
      | piece :: more => (c :: piece) :: more
      | [] => [[c]]) [[]]

@[simp] theorem pieces_nil (separator : Char) : pieces separator [] = [[]] := rfl

theorem pieces_ne_nil (separator : Char) (s : List Char) : pieces separator s ≠ [] := by
  cases s with
  | nil => simp
  | cons c s =>
    simp only [pieces, List.foldr_cons]
    split
    · simp
    · split <;> simp

theorem pieces_cons_self (separator : Char) (s : List Char) :
    pieces separator (separator :: s) = [] :: pieces separator s := by
  simp [pieces]

/-- The pieces with the separators between them are the text. -/
theorem intercalate_pieces (separator : Char) (s : List Char) :
    [separator].intercalate (pieces separator s) = s := by
  induction s with
  | nil => simp [List.intercalate]
  | cons c s ih =>
    obtain ⟨piece, more, h⟩ := List.exists_cons_of_ne_nil (pieces_ne_nil separator s)
    by_cases hc : c = separator
    · subst hc
      rw [pieces_cons_self]
      rw [h] at ih ⊢
      simpa [List.intercalate] using ih
    · have hp : pieces separator (c :: s) = (c :: piece) :: more := by
        have h' := h
        simp only [pieces] at h'
        simp [pieces, hc, h']
      rw [h] at ih
      rw [hp]
      cases more <;> simpa [List.intercalate] using ih

/-- What comes before the first separator, and what comes after it if there is one. -/
def cut (separator : Char) (s : List Char) : List Char × Option (List Char) :=
  (s.takeWhile (· != separator),
    match s.dropWhile (· != separator) with
    | _ :: rest => some rest
    | [] => none)

end ContainerLaunch.Text
