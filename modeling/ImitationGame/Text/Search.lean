namespace ImitationGame.Text.Search

def after? : List Char → List Char → Option (List Char)
  | [], cs => some cs
  | _ :: _, [] => none
  | p :: ps, c :: cs => if p = c then after? ps cs else none

def find? (needle : List Char) : List Char → Option (List Char)
  | [] => after? needle []
  | c :: cs => (after? needle (c :: cs)).or (find? needle cs)

def contains (needle hay : String) : Bool := (find? needle.toList hay.toList).isSome

def dropAll (pre : List Char) : Nat → List Char → List Char
  | 0, cs => cs
  | n + 1, cs =>
    match after? pre cs with
    | some rest => dropAll pre n rest
    | none => cs

theorem after?_append (pre cs : List Char) : after? pre (pre ++ cs) = some cs := by
  induction pre with
  | nil => cases cs <;> rfl
  | cons p ps ih => simp [after?, ih]

theorem eq_append_of_after? {pre cs rest : List Char} (h : after? pre cs = some rest) :
    cs = pre ++ rest := by
  induction pre generalizing cs with
  | nil => simpa [after?] using h
  | cons p ps ih =>
    cases cs with
    | nil => simp [after?] at h
    | cons c cs =>
      simp only [after?] at h
      split at h
      · rename_i hpc
        rw [hpc, ih h]; rfl
      · simp at h

end ImitationGame.Text.Search
