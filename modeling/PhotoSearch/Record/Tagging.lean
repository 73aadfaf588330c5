import PhotoSearch.Record.Reading

/-! Adding tags that are given as data. -/

namespace PhotoSearch

/-- Why a tag is not added. -/
inductive TagRefusal where
  | invalid (issues : List Issue)
  | present (t : Tag)

/-- Adds the tag of a key and a value. They are checked first, and only then whether the tag is
there already. -/
def TagSet.add (s : TagSet) (key value : Data) : Except TagRefusal (TagSet × Tag) :=
  match Reading.tag (.root 0) (.object [("key", key), ("value", value)]) with
  | .bad issues => .error (.invalid issues)
  | .good t =>
    match s.insert? t with
    | none => .error (.present t)
    | some more => .ok (more, t)

theorem TagSet.add_eq_ok_iff {s u : TagSet} {key value : Data} {t : Tag} :
    s.add key value = .ok (u, t) ↔
      Reading.tag (.root 0) (.object [("key", key), ("value", value)]) = .good t ∧
        s.insert? t = some u := by
  unfold add
  split
  · rename_i refused
    simp [refused]
  · rename_i read
    rw [read, Checked.good.injEq]
    constructor
    · intro added
      split at added
      · cases added
      · rename_i inserted
        cases added
        exact ⟨rfl, inserted⟩
    · rintro ⟨rfl, inserted⟩
      simp only [inserted]

end PhotoSearch
