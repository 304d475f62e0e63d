/-!
# Fields

A text of fields with one separating character between them.

## Main definitions

* `CryoRig.Text.cut`: the fields of a text.
* `CryoRig.Text.fields`: the same for strings.

## Main results

* `CryoRig.Text.cut_ne_nil`: there is always at least one field, if an empty one.
* `CryoRig.Text.not_mem_of_mem_cut`: no field holds the separator.
-/

namespace CryoRig.Text

/-- The fields of a text between separators `mark`. -/
def cut (mark : Char) : List Char → List (List Char)
  | [] => [[]]
  | c :: cs =>
    if c = mark then [] :: cut mark cs
    else match cut mark cs with
      | [] => [[c]]
      | field :: rest => (c :: field) :: rest

/-- The fields of a string between separators `mark`. -/
def fields (mark : Char) (s : String) : List String := (cut mark s.toList).map String.ofList

theorem cut_ne_nil (mark : Char) (cs : List Char) : cut mark cs ≠ [] := by
  cases cs with
  | nil => simp [cut]
  | cons c cs =>
    simp only [cut]
    split
    · simp
    · split <;> simp

/-- No field holds the separator. -/
theorem not_mem_of_mem_cut {mark : Char} {cs : List Char} : ∀ f ∈ cut mark cs, mark ∉ f := by
  induction cs with
  | nil => simp [cut]
  | cons c cs ih =>
    intro f hf
    simp only [cut] at hf
    split at hf
    · rcases List.mem_cons.1 hf with rfl | hf
      · simp
      · exact ih f hf
    · rename_i hc
      split at hf
      · rename_i h; exact absurd h (cut_ne_nil mark cs)
      · rename_i field rest h
        rcases List.mem_cons.1 hf with rfl | hf
        · have := ih field (by simp [h])
          simp only [List.mem_cons, not_or]
          exact ⟨fun h' => hc h'.symm, this⟩
        · exact ih f (by simp [h, hf])

end CryoRig.Text
