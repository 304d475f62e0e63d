import Mathlib.Tactic.SplitIfs
import CryoRig.Proofs.StopRig

/-!
# What a writer has written

A writer goes on where it has got to in its file. As long as nobody else makes or writes the file it
leads to, the file holds what was written through the writer, one text after the other. Directories
are never taken away, so a path that leads to a place goes on leading there.

## Main definitions

* `CryoRig.Rig.Still`: two rigs with the same files, writers and samples.
* `CryoRig.FileStore.Opens`: every directory of a store is a directory of another one.
* `CryoRig.Rig.State.Writes`: a writer that is at the end of its file.

## Main results

* `CryoRig.FileStore.locate_of_opens`: a path goes on leading to a place.
* `CryoRig.Rig.State.Writes.append`: a text that is written comes to the end of the file.
* `CryoRig.Rig.State.Writes.append_of_ne`, `CryoRig.Rig.State.Writes.create`: what is written and
  made in other places changes nothing.
* `CryoRig.Rig.State.writes_of_createFile`: a file that is made is empty.
-/

namespace CryoRig.FileStore

variable {s t : FileStore} {path : String} {place other : List String}

/-! ## Directories stay -/

/-- Every directory of a store is a directory of the other one. -/
def Opens (s t : FileStore) : Prop :=
  ∀ place, s.get? place = some .directory → t.get? place = some .directory

lemma Opens.trans {u : FileStore} (h : s.Opens t) (h' : t.Opens u) : s.Opens u :=
  fun place hp => h' place (h place hp)

lemma step_of_opens (h : s.Opens t) {name : String} (hs : s.step place name = .ok other) :
    t.step place name = .ok other := by
  unfold step at hs ⊢
  cases hp : s.get? place with
  | none =>
    rw [hp] at hs
    cases hs
  | some entry =>
    cases entry with
    | file content =>
      rw [hp] at hs
      cases hs
    | directory =>
      rw [hp] at hs
      rw [h place hp]
      exact hs

lemma walk_of_opens (h : s.Opens t) {names : List String} (hs : s.walk place names = .ok other) :
    t.walk place names = .ok other := by
  induction names generalizing place with
  | nil => exact hs
  | cons name names ih =>
    unfold walk at hs ⊢
    cases hn : s.step place name with
    | error fault =>
      rw [hn] at hs
      cases hs
    | ok next =>
      rw [hn] at hs
      rw [step_of_opens h hn]
      exact ih hs

/-- A path goes on leading to a place. -/
theorem locate_of_opens (h : s.Opens t) (hs : s.locate path = .ok place) :
    t.locate path = .ok place := by
  unfold locate at hs ⊢
  split_ifs at hs ⊢ with h₁ h₂ h₃
  exact walk_of_opens h hs

/-- Putting a file where there is no directory leaves all directories. -/
lemma opens_put (h : s.get? place ≠ some .directory) (entry : FileEntry) :
    s.Opens (s.put place entry) := by
  intro other ho
  have hne : other ≠ place := by
    rintro rfl
    exact h ho
  rw [put_get_of_ne hne, ho]

/-! ## Making directories -/

/-- Everything that is in a store is in the other one. -/
def Within (s t : FileStore) : Prop :=
  ∀ place entry, s.get? place = some entry → t.get? place = some entry

lemma Within.refl (s : FileStore) : s.Within s := fun _ _ h => h

lemma Within.trans {u : FileStore} (h : s.Within t) (h' : t.Within u) : s.Within u :=
  fun place entry hp => h' place entry (h place entry hp)

lemma Within.opens (h : s.Within t) : s.Opens t := fun place hp => h place _ hp

lemma within_of_makeDirectory (h : s.makeDirectory path = .ok t) : s.Within t := by
  unfold makeDirectory at h
  cases hl : s.locate path with
  | error fault =>
    rw [hl] at h
    cases h
  | ok place =>
    rw [hl] at h
    dsimp only [bind, Except.bind] at h
    split at h
    · cases h
    · rename_i hnone
      cases h
      intro other entry ho
      have hne : other ≠ place := by
        rintro rfl
        rw [hnone] at ho
        cases ho
      rw [put_get_of_ne hne, ho]

lemma within_of_ensureDirectory (h : s.ensureDirectory path = .ok t) : s.Within t := by
  unfold ensureDirectory at h
  split at h
  · rename_i hm
    cases h
    exact within_of_makeDirectory hm
  · split at h
    · cases h
      exact .refl s
    · cases h

/-- Directories are made beside what is there. -/
theorem within_of_makeDirectories {depth : Nat} (h : s.makeDirectoriesWithin depth path = .ok t) :
    s.Within t := by
  induction depth generalizing path t with
  | zero => exact within_of_ensureDirectory h
  | succ depth ih =>
    unfold makeDirectoriesWithin at h
    split at h
    · cases h
      exact .refl s
    · split at h
      · rename_i parent _ _
        cases hp : s.makeDirectoriesWithin depth parent with
        | error fault =>
          rw [hp] at h
          cases h
        | ok u =>
          rw [hp] at h
          exact (ih hp).trans (within_of_ensureDirectory h)
      · exact within_of_ensureDirectory h

/-! ## Making and writing files -/

/-- A file is made in the place that its path leads to, unless that is a directory. -/
lemma exists_of_create (h : s.create path = .ok t) :
    ∃ place, s.locate path = .ok place ∧ s.get? place ≠ some .directory ∧
      path.endsWith "/" = false ∧ t = s.put place (.file "") := by
  unfold create at h
  cases hl : s.locate path with
  | error fault =>
    rw [hl] at h
    cases h
  | ok place =>
    rw [hl] at h
    dsimp only [bind, Except.bind] at h
    split at h
    · cases h
    · rename_i hne
      split at h
      · cases h
      · rename_i hslash
        cases h
        exact ⟨place, rfl, hne, by simpa using hslash, rfl⟩

/-- A file is written in the place that its path leads to. -/
lemma exists_of_write {offset : Nat} {text : String} (h : s.write path offset text = .ok t) :
    ∃ place content, s.locate path = .ok place ∧ s.get? place = some (.file content) ∧
      t = s.put place (.file (splice content offset text)) := by
  unfold write at h
  cases hl : s.locate path with
  | error fault =>
    rw [hl] at h
    cases h
  | ok place =>
    rw [hl] at h
    dsimp only [bind, Except.bind] at h
    split at h
    · rename_i content hc
      cases h
      exact ⟨place, content, rfl, hc, rfl⟩
    · cases h
    · cases h

/-- What is put at a place where there is no directory is found there. -/
lemma get?_put (h : s.get? place ≠ some .directory) (entry : FileEntry) :
    (s.put place entry).get? place = some entry := by
  apply put_get
  intro hroot
  exact h (if_pos hroot)

end CryoRig.FileStore

namespace CryoRig.Rig

open Control

/-! ## What requests do to files and samples -/

/-- Two rigs with the same files, writers and samples. -/
structure Still (s t : State) : Prop where
  files : t.files = s.files
  writers : t.writers = s.writers
  latest : t.latest = s.latest

/-- A request that concerns files or samples. -/
def Records : Request → Prop
  | .create _ | .append .. | .present .. => True
  | _ => False

section Still

variable {s t : State} {p : Party} {alarm : Option Nat}

lemma Still.refl (s : State) : Still s s := ⟨rfl, rfl, rfl⟩

lemma Still.trans {u : State} (h : Still s t) (h' : Still t u) : Still s u :=
  ⟨h'.files.trans h.files, h'.writers.trans h.writers, h'.latest.trans h.latest⟩

/-- Whoever makes a request leaves files and samples alone. -/
lemma still_enter (s : State) (p : Party) (r : Request) : Still s (s.enter p r).2 := by
  have hsend (id command : String) (sending : Sending) :
      Still s (s.send id command sending).2 := by
    unfold State.send
    split <;> exact ⟨rfl, rfl, rfl⟩
  unfold State.enter
  split <;> first | exact ⟨rfl, rfl, rfl⟩ | exact hsend ..

lemma still_wakeParty (s : State) (p : Option Party) : Still s (s.wakeParty p) := by
  unfold State.wakeParty
  split
  · split <;> exact ⟨rfl, rfl, rfl⟩
  · exact .refl s

lemma still_of_receiveInTime {δ : Type} {id command : String} {expected : Bool}
    {outcome : Transport.Answer → Except DeviceFault δ} {reply : Option (Except DeviceFault δ)}
    (h : s.receiveInTime alarm id command expected outcome = some (reply, t)) : Still s t := by
  unfold State.receiveInTime State.receive at h
  split at h
  · cases h
    exact .refl s
  · split at h
    · cases h
      split <;> exact ⟨rfl, rfl, rfl⟩
    · cases h

lemma still_of_answerDevice? {r : Instrument.Request} {reply : r.Reply}
    (h : s.answerDevice? p alarm r = some (reply, t)) : Still s t := by
  cases r with
  | write | query => exact still_of_receiveInTime h
  | release =>
    cases h
    have hbus : Still s { s with bus := s.bus.leave } := ⟨rfl, rfl, rfl⟩
    exact hbus.trans (still_wakeParty ..)
  | log =>
    cases h
    exact ⟨rfl, rfl, rfl⟩
  | seize | sleep =>
    simp only [State.answerDevice?] at h
    split at h <;> cases h
    exact .refl s

/-- A request that does not concern files or samples leaves them alone. -/
theorem still_of_answer? {r : Request} {reply : r.Reply} (hr : ¬Records r)
    (h : s.answer? p alarm r = some (reply, t)) : Still s t := by
  cases r with
  | create | append | present => exact absurd trivial hr
  | device r => exact still_of_answerDevice? h
  | leaveDesk =>
    cases h
    have hdesk : Still s { s with desk := s.desk.leave } := ⟨rfl, rfl, rfl⟩
    exact hdesk.trans (still_wakeParty ..)
  | pause | join | tryDesk | takeDesk =>
    simp only [State.answer?] at h
    repeat' split at h
    all_goals cases h
    all_goals exact ⟨rfl, rfl, rfl⟩
  | _ =>
    cases h
    exact ⟨rfl, rfl, rfl⟩

end Still

namespace State

variable {s t : State} {f g : Nat} {path other : String} {place : List String}
  {content text : String}

/-! ## Writers -/

/-- A writer has got to the end of its file. -/
structure Writes (s : State) (f : Nat) (path : String) (place : List String) (content : String) :
    Prop where
  /-- The writer. -/
  writer : s.writers[f]? = some ⟨path, content.utf8ByteSize⟩
  /-- Where its path leads to. -/
  locate_eq : s.files.locate path = .ok place
  /-- The file. -/
  entry : s.files.get? place = some (.file content)
  /-- The path names a file. -/
  noSlash : path.endsWith "/" = false

namespace Writes

/-- Whoever reads the file reads what it holds. -/
lemma read (h : s.Writes f path place content) : s.files.read path = .ok content := by
  simp [FileStore.read, h.locate_eq, h.entry, h.noSlash, bind, Except.bind]

lemma not_directory (h : s.Writes f path place content) :
    s.files.get? place ≠ some .directory := by
  rw [h.entry]
  simp

/-- All that matters are the files and the writers. -/
lemma of_eq (h : s.Writes f path place content) (hf : t.files = s.files)
    (hw : t.writers = s.writers) : t.Writes f path place content := by
  refine ⟨?_, ?_, ?_, h.noSlash⟩
  · rw [hw, h.writer]
  · rw [hf, h.locate_eq]
  · rw [hf, h.entry]

lemma of_still (h : s.Writes f path place content) (hs : Still s t) :
    t.Writes f path place content :=
  h.of_eq hs.files hs.writers

/-- A text that is written comes to the end of the file. -/
theorem append (h : s.Writes f path place content) (text : String) :
    (s.appendFile f text).1 = .ok () ∧
      (s.appendFile f text).2.Writes f path place (content ++ text) := by
  obtain ⟨hlt, -⟩ := Array.getElem?_eq_some_iff.1 h.writer
  have hwrite : s.files.write path content.utf8ByteSize text =
      .ok (s.files.put place (.file (content ++ text))) := by
    simp [FileStore.write, h.locate_eq, h.entry, FileStore.splice, bind, Except.bind]
  unfold appendFile
  simp only [h.writer, hwrite]
  refine ⟨trivial, ?_, ?_, ?_, h.noSlash⟩
  · simp [hlt, String.utf8ByteSize_append]
  · exact FileStore.locate_of_opens (FileStore.opens_put h.not_directory _) h.locate_eq
  · exact FileStore.get?_put h.not_directory _

/-- What is written into another file changes nothing. -/
theorem append_of_ne (h : s.Writes f path place content) (hg : g ≠ f)
    (hne : ∀ w, s.writers[g]? = some w → s.files.locate w.path ≠ .ok place) (text : String) :
    (s.appendFile g text).2.Writes f path place content := by
  unfold appendFile
  split
  · exact h
  · rename_i w hw
    split
    · exact h
    · rename_i files hfiles
      obtain ⟨place', content', hl, hc, rfl⟩ := FileStore.exists_of_write hfiles
      have hplace : place ≠ place' := by
        rintro rfl
        exact hne w hw hl
      have hdir : s.files.get? place' ≠ some .directory := by
        rw [hc]
        simp
      refine ⟨?_, ?_, ?_, h.noSlash⟩
      · simpa [Array.getElem?_setIfInBounds, hg] using h.writer
      · exact FileStore.locate_of_opens (FileStore.opens_put hdir _) h.locate_eq
      · change (s.files.put place' _).get? place = _
        rw [FileStore.put_get_of_ne hplace, h.entry]

/-- Another file may be written into a store that holds more. -/
lemma of_within {files : FileStore} {writers : Array Writer} (h : s.Writes f path place content)
    (hf : s.files.Within files) (hw : writers[f]? = s.writers[f]?) :
    { s with files := files, writers := writers }.Writes f path place content :=
  ⟨hw.trans h.writer, FileStore.locate_of_opens hf.opens h.locate_eq, hf place _ h.entry,
    h.noSlash⟩

end Writes

lemma within_of_filesFor {files : FileStore} (h : s.filesFor path = .ok files) :
    s.files.Within files := by
  unfold filesFor at h
  split at h
  · rename_i parent _
    cases hm : s.files.makeDirectories parent with
    | error fault =>
      rw [hm] at h
      cases h
    | ok made =>
      rw [hm] at h
      cases h
      exact FileStore.within_of_makeDirectories hm
  · cases h
    exact .refl _

/-- All that can come of making a file: nothing but directories was made, or a new writer is at the
beginning of an empty file. -/
theorem createFile_cases (s : State) (path : String) :
    ∃ files, s.files.Within files ∧
      ((∃ cause, s.createFile path = (.error cause, { s with files := files })) ∨
        ∃ place, files.locate path = .ok place ∧ files.get? place ≠ some .directory ∧
          path.endsWith "/" = false ∧ s.createFile path = (.ok s.writers.size,
            { s with
              files := files.put place (.file "")
              writers := s.writers.push ⟨path, 0⟩ })) := by
  unfold createFile
  split
  · exact ⟨s.files, .refl _, .inl ⟨_, rfl⟩⟩
  · rename_i files hfor
    refine ⟨files, within_of_filesFor hfor, ?_⟩
    split
    · exact .inl ⟨_, rfl⟩
    · rename_i made hmade
      obtain ⟨place, hl, hdir, hslash, rfl⟩ := FileStore.exists_of_create hmade
      exact .inr ⟨place, hl, hdir, hslash, rfl⟩

/-- What comes of making a file depends on the files and the writers alone. -/
lemma createFile_congr (hf : t.files = s.files) (hw : t.writers = s.writers) (path : String) :
    (t.createFile path).2.files = (s.createFile path).2.files ∧
      (t.createFile path).2.writers = (s.createFile path).2.writers := by
  have hfor : t.filesFor path = s.filesFor path := by
    unfold filesFor
    rw [hf]
  unfold createFile
  rw [hfor, hw]
  split
  · exact ⟨hf, hw⟩
  · split
    · exact ⟨rfl, rfl⟩
    · exact ⟨rfl, rfl⟩

/-- So does what comes of writing a text. -/
lemma appendFile_congr (hf : t.files = s.files) (hw : t.writers = s.writers) (f : Nat)
    (text : String) :
    (t.appendFile f text).2.files = (s.appendFile f text).2.files ∧
      (t.appendFile f text).2.writers = (s.appendFile f text).2.writers := by
  unfold appendFile
  rw [hf, hw]
  split
  · exact ⟨hf, hw⟩
  · split
    · exact ⟨hf, hw⟩
    · exact ⟨rfl, rfl⟩

/-- No directory is lost when a file is made. -/
lemma opens_createFile (s : State) (other : String) :
    s.files.Opens (s.createFile other).2.files := by
  obtain ⟨files, hfiles, ⟨cause, he⟩ | ⟨place, -, hdir, -, he⟩⟩ := s.createFile_cases other
  · rw [he]
    exact hfiles.opens
  · rw [he]
    exact hfiles.opens.trans (FileStore.opens_put hdir _)

/-- What is made in another place changes nothing. -/
theorem Writes.create (h : s.Writes f path place content)
    (hne : ∀ n, (s.createFile other).1 = .ok n →
      (s.createFile other).2.files.locate other ≠ .ok place) :
    (s.createFile other).2.Writes f path place content := by
  obtain ⟨hlt, -⟩ := Array.getElem?_eq_some_iff.1 h.writer
  obtain ⟨files, hfiles, ⟨cause, he⟩ | ⟨place', hl, hdir, -, he⟩⟩ := s.createFile_cases other
  · rw [he]
    exact h.of_within hfiles rfl
  · rw [he] at hne ⊢
    have hopens := FileStore.opens_put hdir (.file "")
    have hplace : place ≠ place' := by
      rintro rfl
      exact hne _ rfl (FileStore.locate_of_opens hopens hl)
    refine ⟨?_, ?_, ?_, h.noSlash⟩
    · simpa [Array.getElem?_push, Nat.ne_of_lt hlt] using h.writer
    · exact FileStore.locate_of_opens (hfiles.opens.trans hopens) h.locate_eq
    · change (files.put place' _).get? place = _
      rw [FileStore.put_get_of_ne hplace]
      exact hfiles place _ h.entry

/-- A file that is made is empty, and its writer is a new one. -/
theorem writes_of_createFile (h : s.createFile path = (.ok f, t)) :
    f = s.writers.size ∧ ∃ place, t.Writes f path place "" := by
  obtain ⟨files, -, ⟨cause, he⟩ | ⟨place, hl, hdir, hslash, he⟩⟩ := s.createFile_cases path
  · rw [he] at h
    cases h
  · rw [he] at h
    cases h
    refine ⟨rfl, place, ?_, ?_, FileStore.get?_put hdir _, hslash⟩
    · simp
    · exact FileStore.locate_of_opens (FileStore.opens_put hdir _) hl

end State

end CryoRig.Rig
