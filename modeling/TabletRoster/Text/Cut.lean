namespace TabletRoster.Text

def cutFirst (mark : Char) : List Char → Option (List Char × List Char)
  | [] => none
  | c :: rest =>
    if c = mark then some ([], rest)
    else (cutFirst mark rest).map fun (before, after) => (c :: before, after)

def cutLast (mark : Char) : List Char → Option (List Char × List Char)
  | [] => none
  | c :: rest =>
    match cutLast mark rest with
    | some (before, after) => some (c :: before, after)
    | none => if c = mark then some ([], rest) else none

def after? : (stem text : List Char) → Option (List Char)
  | [], text => some text
  | _ :: _, [] => none
  | s :: stem, c :: text => if s = c then after? stem text else none

theorem cutLast_join {mark : Char} {text before after : List Char}
    (cut : cutLast mark text = some (before, after)) : text = before ++ mark :: after := by
  induction text generalizing before after with
  | nil => simp [cutLast] at cut
  | cons c rest ih =>
    unfold cutLast at cut
    split at cut
    · rename_i first last found
      simp only [Option.some.injEq, Prod.mk.injEq] at cut
      obtain ⟨rfl, rfl⟩ := cut
      simp [ih found]
    · split at cut
      · simp only [Option.some.injEq, Prod.mk.injEq] at cut
        obtain ⟨rfl, rfl⟩ := cut
        simp_all
      · simp at cut

theorem not_mem_of_cutLast {mark : Char} {text : List Char} (uncut : cutLast mark text = none) :
    mark ∉ text := by
  induction text with
  | nil => simp
  | cons c rest ih =>
    unfold cutLast at uncut
    split at uncut
    · cases uncut
    · rename_i behind
      split at uncut
      · cases uncut
      · rename_i different
        simp [ih behind, Ne.symm different]

theorem cutLast_behind {mark : Char} {text before after : List Char}
    (cut : cutLast mark text = some (before, after)) : mark ∉ after := by
  induction text generalizing before with
  | nil => simp [cutLast] at cut
  | cons c rest ih =>
    unfold cutLast at cut
    split at cut
    · rename_i first last found
      cases cut
      exact ih found
    · rename_i uncut
      split at cut
      · cases cut
        exact not_mem_of_cutLast uncut
      · cases cut

theorem cutLast_absent {mark : Char} {text : List Char} (absent : mark ∉ text) :
    cutLast mark text = none := by
  induction text with
  | nil => rfl
  | cons c rest ih =>
    rw [List.mem_cons, not_or] at absent
    simp [cutLast, ih absent.2, Ne.symm absent.1]

theorem cutLast_at {mark : Char} (before : List Char) {after : List Char} (absent : mark ∉ after) :
    cutLast mark (before ++ mark :: after) = some (before, after) := by
  induction before with
  | nil => simp [cutLast, cutLast_absent absent]
  | cons c before ih => simp [cutLast, ih]

theorem cutFirst_absent {mark : Char} {text : List Char} (absent : mark ∉ text) :
    cutFirst mark text = none := by
  induction text with
  | nil => rfl
  | cons c rest ih =>
    rw [List.mem_cons, not_or] at absent
    simp [cutFirst, ih absent.2, Ne.symm absent.1]

theorem cutFirst_at {mark : Char} {before : List Char} (absent : mark ∉ before) (after : List Char) :
    cutFirst mark (before ++ mark :: after) = some (before, after) := by
  induction before with
  | nil => simp [cutFirst]
  | cons c before ih =>
    rw [List.mem_cons, not_or] at absent
    simp [cutFirst, ih absent.2, Ne.symm absent.1]

theorem cutFirst_join {mark : Char} {text before after : List Char}
    (cut : cutFirst mark text = some (before, after)) :
    text = before ++ mark :: after ∧ mark ∉ before := by
  induction text generalizing before with
  | nil => simp [cutFirst] at cut
  | cons c rest ih =>
    unfold cutFirst at cut
    split at cut
    · rename_i same
      cases cut
      simp [same]
    · rename_i different
      obtain ⟨⟨first, last⟩, found, same⟩ := Option.map_eq_some_iff.mp cut
      cases same
      obtain ⟨whole, absent⟩ := ih found
      exact ⟨by rw [whole, List.cons_append], by simp [absent, Ne.symm different]⟩

theorem not_mem_of_cutFirst {mark : Char} {text : List Char} (uncut : cutFirst mark text = none) :
    mark ∉ text := by
  induction text with
  | nil => simp
  | cons c rest ih =>
    unfold cutFirst at uncut
    split at uncut
    · cases uncut
    · rename_i different
      simp [ih (Option.map_eq_none_iff.mp uncut), Ne.symm different]

theorem after_stem (stem text : List Char) : after? stem (stem ++ text) = some text := by
  induction stem with
  | nil => rfl
  | cons s stem ih => simp [after?, ih]

theorem after_join {stem text rest : List Char} (found : after? stem text = some rest) :
    text = stem ++ rest := by
  induction stem generalizing text with
  | nil => simpa [after?] using found
  | cons s stem ih =>
    cases text with
    | nil => simp [after?] at found
    | cons c text =>
      simp only [after?] at found
      split at found
      · rename_i same
        simp [same, ih found]
      · simp at found

theorem after_iff {stem text rest : List Char} :
    after? stem text = some rest ↔ text = stem ++ rest :=
  ⟨after_join, fun same => same ▸ after_stem stem rest⟩

end TabletRoster.Text
