import Mathlib.Tactic.Lemma
import CryoRig.Files
import CryoRig.Sampling.Paths

/-!
# The files of one acquisition

The files of an acquisition have one name up to its end. Wherever the name leads to, and even if it
leads through other directories, the files lie in different places.

## Main definitions

* `CryoRig.Sampling.Siblings`: two files of one acquisition.

## Main results

* `CryoRig.Text.cut_append`: a text behind another one belongs to the last field.
* `CryoRig.FileStore.getLast?_of_walk`: the last name of a path is where the path leads to.
* `CryoRig.Sampling.Siblings.ne`: two files of one acquisition never lie in one place.
-/

namespace CryoRig

/-! ## The last field -/

namespace Text

variable {mark : Char}

lemma cut_of_not_mem {cs : List Char} (h : mark ∉ cs) : cut mark cs = [cs] := by
  induction cs with
  | nil => rfl
  | cons c cs ih =>
    obtain ⟨hc, hcs⟩ : mark ≠ c ∧ mark ∉ cs := by simpa using h
    rw [cut, if_neg hc.symm, ih hcs]

/-- A text behind another one belongs to its last field. -/
theorem cut_append (mark : Char) (cs : List Char) :
    ∃ before last, ∀ suffix, mark ∉ suffix →
      cut mark (cs ++ suffix) = before ++ [last ++ suffix] := by
  induction cs with
  | nil => exact ⟨[], [], fun suffix h => by simpa using cut_of_not_mem h⟩
  | cons c cs ih =>
    obtain ⟨before, last, ih⟩ := ih
    by_cases hc : c = mark
    · refine ⟨[] :: before, last, fun suffix h => ?_⟩
      rw [List.cons_append, cut, if_pos hc, ih suffix h, List.cons_append]
    · cases before with
      | nil =>
        refine ⟨[], c :: last, fun suffix h => ?_⟩
        rw [List.cons_append, cut, if_neg hc, ih suffix h]
        rfl
      | cons first before =>
        refine ⟨(c :: first) :: before, last, fun suffix h => ?_⟩
        rw [List.cons_append, cut, if_neg hc, ih suffix h]
        rfl

lemma fields_append (mark : Char) (s : String) :
    ∃ before last, ∀ suffix : String, mark ∉ suffix.toList →
      fields mark (s ++ suffix) = before ++ [last ++ suffix] := by
  obtain ⟨before, last, h⟩ := cut_append mark s.toList
  refine ⟨before.map String.ofList, String.ofList last, fun suffix hs => ?_⟩
  rw [fields, String.toList_append, h _ hs]
  simp

end Text

/-! ## The last name of a path -/

/-- The steps along a path end with its last name, unless it names nothing. -/
lemma exists_pathSteps (s : String) :
    ∃ last, ∀ suffix : String, '/' ∉ suffix.toList → last ++ suffix ≠ "" → last ++ suffix ≠ "." →
      ∃ steps, pathSteps (s ++ suffix) = steps ++ [last ++ suffix] := by
  obtain ⟨before, last, h⟩ := Text.fields_append '/' s
  refine ⟨last, fun suffix hs hblank hdot => ?_⟩
  have hsteps : ((before ++ [last ++ suffix]).filter fun s => s ≠ "" ∧ s ≠ ".") =
      (before.filter fun s => s ≠ "" ∧ s ≠ ".") ++ [last ++ suffix] := by
    rw [List.filter_append, List.filter_cons_of_pos (by simp [hblank, hdot]), List.filter_nil]
  unfold pathSteps
  dsimp only
  rw [h suffix hs, hsteps]
  split
  · exact ⟨"/" :: _, rfl⟩
  · exact ⟨_, rfl⟩

namespace FileStore

variable {s t : FileStore} {place other : List String}

/-- The last name of a path is the name of the place that the path leads to. -/
theorem getLast?_of_walk {names : List String} {name : String} (hname : name ≠ "..")
    (h : s.walk place (names ++ [name]) = .ok other) : other.getLast? = some name := by
  induction names generalizing place with
  | nil =>
    obtain ⟨p, hp, hwalk⟩ : ∃ p, s.step place name = .ok p ∧ s.walk p [] = .ok other := by
      cases hp : s.step place name with
      | error fault => simp [walk, hp, bind, Except.bind] at h
      | ok p => exact ⟨p, rfl, by simpa [walk, hp, bind, Except.bind] using h⟩
    cases hwalk
    unfold step at hp
    rw [if_neg hname] at hp
    split at hp
    · cases hp
    · cases hp
    · split at hp
      · cases hp
      · cases hp
        simp
  | cons first names ih =>
    cases hp : s.step place first with
    | error fault => simp [walk, hp, bind, Except.bind] at h
    | ok p =>
      have hwalk : s.walk p (names ++ [name]) = .ok other := by
        simpa [walk, hp, bind, Except.bind] using h
      exact ih hwalk

lemma walk_of_locate {path : String} (h : s.locate path = .ok place) :
    s.walk [] (pathSteps path) = .ok place := by
  unfold locate at h
  split at h
  · cases h
  · split at h
    · cases h
    · split at h
      · cases h
      · exact h

end FileStore

/-! ## Siblings -/

namespace Sampling

/-- What the paths of the files of an acquisition end in. -/
def endings : List String := [".txt", "-proc.txt", "-didv.txt"]

namespace DataPaths

/-- The paths of all files of an acquisition. -/
def all (paths : DataPaths) : List String := [paths.samples, paths.aggregates, paths.trace]

end DataPaths

/-- Two paths are those of different files of one acquisition. -/
def Siblings (a b : String) : Prop :=
  a ≠ b ∧ ∃ dataDir sample name started,
    a ∈ (DataPaths.of dataDir sample name started).all ∧
      b ∈ (DataPaths.of dataDir sample name started).all

lemma joinPath_append (directory name : String) :
    ∃ stem, ∀ ending, joinPath directory (name ++ ending) = stem ++ ending := by
  unfold joinPath
  split
  · exact ⟨name, fun ending => rfl⟩
  · split
    · exact ⟨directory ++ name, fun ending => by rw [String.append_assoc]⟩
    · exact ⟨directory ++ "/" ++ name, fun ending => by simp only [String.append_assoc]⟩

lemma DataPaths.exists_stem (dataDir sample name : String) (started : Calendar) :
    ∃ stem, (DataPaths.of dataDir sample name started).all = endings.map (stem ++ ·) := by
  obtain ⟨stem, h⟩ := joinPath_append (joinPath dataDir started.dayText)
    (started.minuteText ++ "-" ++ sample ++ "-" ++ name)
  refine ⟨stem, ?_⟩
  simp only [DataPaths.all, DataPaths.of, h, endings, List.map_cons, List.map_nil]

/-- No ending is or makes a name that stands for something else. -/
lemma append_ending_ne {last ending other : String} (h : ending ∈ endings)
    (hother : other.length < 4) : last ++ ending ≠ other := by
  have hlen : 4 ≤ ending.length := by
    revert ending
    decide
  rintro rfl
  rw [String.length_append] at hother
  omega

/-- Two files of one acquisition never lie in one place.

**Proof sketch.** The paths are the same up to their endings, and no ending holds a slash. So the
last names along the paths are different ones, and a path leads to a place of its last name. -/
theorem Siblings.ne {s : FileStore} {a b : String} {place other : List String} (h : Siblings a b)
    (ha : s.locate a = .ok place) (hb : s.locate b = .ok other) : place ≠ other := by
  obtain ⟨hab, dataDir, sample, name, started, hmema, hmemb⟩ := h
  obtain ⟨stem, hall⟩ := DataPaths.exists_stem dataDir sample name started
  rw [hall] at hmema hmemb
  obtain ⟨x, hx, rfl⟩ := List.mem_map.1 hmema
  obtain ⟨y, hy, rfl⟩ := List.mem_map.1 hmemb
  obtain ⟨last, hlast⟩ := exists_pathSteps stem
  have hslash : ∀ z ∈ endings, '/' ∉ z.toList := by decide
  have hends {z : String} (hz : z ∈ endings) {p : List String} (hp : s.locate (stem ++ z) = .ok p) :
      p.getLast? = some (last ++ z) := by
    obtain ⟨steps, hsteps⟩ := hlast z (hslash z hz) (append_ending_ne hz (by decide))
      (append_ending_ne hz (by decide))
    apply FileStore.getLast?_of_walk (append_ending_ne hz (by decide))
    rw [← hsteps]
    exact FileStore.walk_of_locate hp
  rintro rfl
  have hxy : last ++ x = last ++ y := Option.some.inj ((hends hx ha).symm.trans (hends hy hb))
  have : x = y := by
    rw [← String.toList_inj, String.toList_append, String.toList_append] at hxy
    exact String.toList_inj.1 (List.append_cancel_left hxy)
  exact hab (by rw [this])

end Sampling

end CryoRig
