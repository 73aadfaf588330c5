import PhotoSearch.Catalog.Place
import PhotoSearch.Catalog.Tag
import PhotoSearch.Time.Timestamp

/-! Photos, and lists of photos in which each identity counts once. -/

namespace PhotoSearch

/-- A photo is known by the text it was given. A photo that was given none is known by the place
where it came in, and is like no other. -/
inductive PhotoId where
  | given (text : String)
  | unnamed (place : Place)
deriving DecidableEq

/-- An identity that was not given has no text of its own. -/
def PhotoId.text : PhotoId → String
  | given s => s
  | unnamed _ => "<generated>"

structure Photo where
  id : PhotoId
  timestamp : Timestamp
  tags : TagSet
  path : Option String
  caption : Option String
deriving DecidableEq

/-- The items whose key is neither in `seen` nor borne by an earlier item. -/
def firstOfEachFrom {α κ : Type} [DecidableEq κ] (key : α → κ) (seen : List κ) : List α → List α
  | [] => []
  | a :: rest =>
    if key a ∈ seen then firstOfEachFrom key seen rest
    else a :: firstOfEachFrom key (key a :: seen) rest

/-- The first item of each key, in order. -/
def firstOfEach {α κ : Type} [DecidableEq κ] (key : α → κ) (items : List α) : List α :=
  firstOfEachFrom key [] items

theorem firstOfEachFrom_sublist {α κ : Type} [DecidableEq κ] (key : α → κ) (seen : List κ)
    (items : List α) : (firstOfEachFrom key seen items).Sublist items := by
  induction items generalizing seen with
  | nil => exact .slnil
  | cons a rest ih =>
    simp only [firstOfEachFrom]
    split
    · exact (ih seen).cons a
    · exact (ih (key a :: seen)).cons_cons a

theorem key_notMem_of_mem_firstOfEachFrom {α κ : Type} [DecidableEq κ] {key : α → κ}
    {seen : List κ} {items : List α} {a : α} (h : a ∈ firstOfEachFrom key seen items) :
    key a ∉ seen := by
  induction items generalizing seen with
  | nil => cases h
  | cons b rest ih =>
    simp only [firstOfEachFrom] at h
    split at h
    · exact ih h
    · rename_i hb
      rcases List.mem_cons.1 h with rfl | h
      · exact hb
      · exact fun hs => ih h (List.mem_cons_of_mem _ hs)

theorem nodup_firstOfEachFrom {α κ : Type} [DecidableEq κ] (key : α → κ) (seen : List κ)
    (items : List α) : ((firstOfEachFrom key seen items).map key).Nodup := by
  induction items generalizing seen with
  | nil => exact .nil
  | cons a rest ih =>
    simp only [firstOfEachFrom]
    split
    · exact ih seen
    · refine List.nodup_cons.2 ⟨fun h => ?_, ih _⟩
      obtain ⟨b, hb, hk⟩ := List.mem_map.1 h
      exact key_notMem_of_mem_firstOfEachFrom hb (hk ▸ List.mem_cons_self)

end PhotoSearch
