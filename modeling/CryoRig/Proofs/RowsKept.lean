import CryoRig.Proofs.Siblings
import CryoRig.Proofs.StopCourse
import CryoRig.Proofs.Writers

/-!
# What is written stays in its file

Any number of parties make files and write into them, in any order and however the rig takes turns.
A text that was written into a file stays in it, where it stands, as long as no other acquisition
has the same file. If two acquisitions come to have one path, the second one empties the file of the
first.

## Main definitions

* `CryoRig.Rig.State.Stores`: what a step of the rig may do to files and writers.
* `CryoRig.Rig.State.StoresBeside`: a step that leaves a file to its own writer.
* `CryoRig.Rig.Scene.Goes`: what a scene may lead to.

## Main results

* `CryoRig.Rig.Scene.Goes.stores`: every step of a rig makes or writes one file at most.
* `CryoRig.Rig.rows_stay`: what was written stays in its file.
* `CryoRig.Rig.row_lost_sameName`: two acquisitions of one name in one minute.
-/

namespace CryoRig.Rig

open Control

namespace State

variable {s t : State} {f : Nat} {path : String} {place : List String} {content : String}

/-! ## Steps of the store -/

/-- What a step of the rig may do to files and writers. -/
inductive Stores (s t : State) : Prop where
  /-- Nothing. -/
  | same (hf : t.files = s.files) (hw : t.writers = s.writers)
  /-- A file is made. -/
  | create (path : String) (hf : t.files = (s.createFile path).2.files)
    (hw : t.writers = (s.createFile path).2.writers)
  /-- A text is written. -/
  | append (f : Nat) (text : String) (hf : t.files = (s.appendFile f text).2.files)
    (hw : t.writers = (s.appendFile f text).2.writers)

lemma Stores.refl (s : State) : s.Stores s := .same rfl rfl

lemma Stores.of_eq {u : State} (h : s.Stores t) (hf : u.files = t.files)
    (hw : u.writers = t.writers) : s.Stores u := by
  cases h with
  | same hf' hw' => exact .same (hf.trans hf') (hw.trans hw')
  | create path hf' hw' => exact .create path (hf.trans hf') (hw.trans hw')
  | append f text hf' hw' => exact .append f text (hf.trans hf') (hw.trans hw')

lemma Stores.of_still (h : Still s t) : s.Stores t := .same h.files h.writers

lemma Stores.of_still_left {u : State} (hs : Still s t) (h : t.Stores u) : s.Stores u := by
  cases h with
  | same hf hw => exact .same (hf.trans hs.files) (hw.trans hs.writers)
  | create path hf hw =>
    obtain ⟨hf', hw'⟩ := createFile_congr hs.files hs.writers path
    exact .create path (hf.trans hf') (hw.trans hw')
  | append f text hf hw =>
    obtain ⟨hf', hw'⟩ := appendFile_congr hs.files hs.writers f text
    exact .append f text (hf.trans hf') (hw.trans hw')

variable {p : Party} {alarm : Option Nat} {r : Request} {reply : r.Reply}

/-- Whatever is answered, one file is made or written at most. -/
lemma stores_of_answer? (h : s.answer? p alarm r = some (reply, t)) : s.Stores t := by
  cases r with
  | create path =>
    have ht : s.createFile path = (reply, t) := Option.some.inj h
    exact .create path (by rw [ht]) (by rw [ht])
  | append f text =>
    have ht : s.appendFile f text = (reply, t) := Option.some.inj h
    exact .append f text (by rw [ht]) (by rw [ht])
  | present =>
    cases h
    exact .same rfl rfl
  | _ => exact .of_still (still_of_answer? (by exact fun hr => hr) h)

end State

/-! ## Steps of scenes -/

section Steps

variable {α β : Type} {site : Site RigSurroundings} {s t : State} {p : Party} {c d : Scene α}

lemma stores_ask {r : Request} {next : r.Reply → RigWork β} {result : RigWork β ⊕ Waiting β}
    (h : ask s p r next = (result, t)) : s.Stores t := by
  unfold ask at h
  dsimp only at h
  cases ha : (s.enter p r).2.answer? p (s.enter p r).1 r with
  | none =>
    rw [ha] at h
    cases h
    exact (State.Stores.of_still (still_enter s p r)).of_eq rfl rfl
  | some answer =>
    rw [ha] at h
    obtain ⟨reply, u⟩ := answer
    cases h
    exact .of_still_left (still_enter s p r) (State.stores_of_answer? ha)

lemma stores_resume? {w : Waiting β} {work : RigWork β} (h : resume? s p w = some (work, t)) :
    s.Stores t := by
  obtain ⟨⟨reply, u⟩, ha, he⟩ := Option.map_eq_some_iff.1 h
  cases he
  exact State.stores_of_answer? ha

namespace Scene

lemma stores_stepJob (c : Scene α) (number : Nat) :
    c.state.Stores (c.stepJob site number).state := by
  unfold stepJob
  split
  · split
    · exact .same rfl rfl
    · exact .same rfl rfl
    · split <;> rename_i he
      · exact (stores_ask he).of_eq rfl rfl
      · exact (stores_ask he).of_eq rfl rfl
  · exact .refl _

lemma stores_takeJob (c : Scene α) (number : Nat) (rest : List Nat) :
    c.state.Stores (c.takeJob number rest).state := by
  have hready : Still c.state { c.state with ready := rest } := ⟨rfl, rfl, rfl⟩
  unfold takeJob
  dsimp only
  split
  · exact .of_still hready
  · split
    · rename_i he
      exact (State.Stores.of_still_left hready (stores_resume? he)).of_eq rfl rfl
    · exact .of_still hready
  · exact .of_still hready

lemma stores_stepIdle {w : Waiting α} (h : c.stepIdle w = .more d) : c.state.Stores d.state := by
  unfold stepIdle at h
  dsimp only at h
  split at h
  · rename_i hr
    cases h
    split at hr
    · exact stores_resume? hr
    · cases hr
  · split at h
    · cases h
      exact stores_takeJob ..
    · split at h
      · cases h
        exact .same rfl rfl
      · cases h

/-- Every step of a rig makes or writes one file at most. -/
theorem stores_step (h : c.step site = .more d) : c.state.Stores d.state := by
  unfold step at h
  split at h
  · split at h
    · cases h
    · split at h <;> rename_i he <;> cases h <;> exact stores_ask he
  · split at h
    · cases h
      exact stores_stepJob ..
    · exact stores_stepIdle h

end Scene

end Steps

/-! ## Files that one writer has for itself -/

namespace State

variable {s t : State} {f : Nat} {path : String} {place : List String} {content : String}

/-- A step of the rig that does not make the file of a writer anew, and does not write into it
through another writer. The files of one acquisition are never in each other's way. -/
inductive StoresBeside (f : Nat) (s t : State) : Prop where
  /-- Nothing is made or written. -/
  | same (hf : t.files = s.files) (hw : t.writers = s.writers)
  /-- A file is made somewhere else. -/
  | create (path : String) (hf : t.files = (s.createFile path).2.files)
    (hw : t.writers = (s.createFile path).2.writers)
    (hne : ∀ n w, (s.createFile path).1 = .ok n → s.writers[f]? = some w →
      ¬Sampling.Siblings path w.path → t.files.locate path ≠ t.files.locate w.path)
  /-- A text is written into this file, or somewhere else. -/
  | append (g : Nat) (text : String) (hf : t.files = (s.appendFile g text).2.files)
    (hw : t.writers = (s.appendFile g text).2.writers)
    (hne : ∀ v w, g ≠ f → s.writers[g]? = some v → s.writers[f]? = some w →
      ¬Sampling.Siblings v.path w.path → s.files.locate v.path ≠ s.files.locate w.path)

lemma locate_ne_of_siblings {files : FileStore} {other : String}
    (h : ¬Sampling.Siblings other path → files.locate other ≠ files.locate path)
    (hp : files.locate path = .ok place) : files.locate other ≠ .ok place := by
  intro ho
  by_cases hs : Sampling.Siblings other path
  · exact hs.ne ho hp rfl
  · exact h hs (ho.trans hp.symm)

/-- Such a step adds to the file and takes nothing away. -/
theorem StoresBeside.grows (h : StoresBeside f s t) (hw : s.Writes f path place content) :
    ∃ more, t.Writes f path place (content ++ more) := by
  cases h with
  | same hfiles hwriters =>
    refine ⟨"", ?_⟩
    rw [String.append_empty]
    exact hw.of_eq hfiles hwriters
  | create other hfiles hwriters hne =>
    refine ⟨"", ?_⟩
    rw [String.append_empty]
    refine (hw.create fun n hn => ?_).of_eq hfiles hwriters
    have hapart := hne n _ hn hw.writer
    rw [hfiles] at hapart
    exact locate_ne_of_siblings hapart
      (FileStore.locate_of_opens (s.opens_createFile other) hw.locate_eq)
  | append g text hfiles hwriters hne =>
    by_cases hg : g = f
    · subst hg
      exact ⟨text, (hw.append text).2.of_eq hfiles hwriters⟩
    · refine ⟨"", ?_⟩
      rw [String.append_empty]
      refine (hw.append_of_ne hg (fun v hv => ?_) text).of_eq hfiles hwriters
      exact locate_ne_of_siblings (hne v _ hg hv hw.writer) hw.locate_eq

lemma Writes.lt (h : s.Writes f path place content) : f < s.writers.size :=
  (Array.getElem?_eq_some_iff.1 h.writer).1

lemma size_appendFile (s : State) (g : Nat) (text : String) :
    (s.appendFile g text).2.writers.size = s.writers.size := by
  unfold appendFile
  split
  · rfl
  · split
    · rfl
    · simp

/-- A writer that is new is at the beginning of an empty file, and no writer is ever lost. -/
lemma Stores.begins (h : s.Stores t) (f : Nat) :
    s.writers.size ≤ t.writers.size ∧
      (¬f < s.writers.size → f < t.writers.size → ∃ path place, t.Writes f path place "") := by
  cases h with
  | same _ hwriters =>
    rw [hwriters]
    exact ⟨Nat.le_refl _, fun hs ht => absurd ht hs⟩
  | append g text _ hwriters =>
    rw [hwriters, size_appendFile]
    exact ⟨Nat.le_refl _, fun hs ht => absurd ht hs⟩
  | create other hfiles hwriters =>
    obtain ⟨files, -, ⟨cause, he⟩ | ⟨place, -, -, -, he⟩⟩ := s.createFile_cases other
    · rw [hwriters, he]
      exact ⟨Nat.le_refl _, fun hs ht => absurd ht hs⟩
    · have hsize : t.writers.size = s.writers.size + 1 := by
        rw [hwriters, he]
        simp
      refine ⟨by omega, fun hs ht => ?_⟩
      obtain ⟨-, place, hnew⟩ := writes_of_createFile he
      obtain rfl : f = s.writers.size := by omega
      rw [he] at hfiles hwriters
      exact ⟨other, place, hnew.of_eq hfiles hwriters⟩

end State

/-! ## Courses -/

/-- The clock and the instruments may change, and any job may be the next one to go on. -/
def Drifts (s t : State) : Prop :=
  ∃ clock calendar ready attached bench, t = { s with
    clock := clock, calendar := calendar, ready := ready, attached := attached, bench := bench }

/-- A scene leads to another one: by a step of the rig, or while everybody waits. -/
inductive Scene.Goes {α : Type} (site : Site RigSurroundings) (c : Scene α) : Scene α → Prop where
  /-- A step. -/
  | step {d : Scene α} (h : c.step site = .more d) : Goes site c d
  /-- Something happens meanwhile. -/
  | drift {w : Waiting α} {s : State} (fresh : Bool) (hw : c.foreground = .waiting w)
    (hn : c.current = none) (hs : Drifts c.state s) :
    Goes site c { c with state := s, fresh := fresh }
  /-- Nothing happens. -/
  | stay : Goes site c c

section Courses

variable {α : Type} {site : Site RigSurroundings} {c d : Scene α} {p : Party} {f : Nat}
  {text : String}

lemma Scene.Goes.stores (h : c.Goes site d) : c.state.Stores d.state := by
  cases h with
  | step h => exact stores_step h
  | drift _ _ _ hs =>
    obtain ⟨_, _, _, _, _, rfl⟩ := hs
    exact .same rfl rfl
  | stay => exact .refl _

/-- Whoever writes a text does so in one step. -/
lemma Scene.stores_of_asks (ha : c.Asks p (.append f text)) (hs : c.step site = .more d) :
    d.state.files = (c.state.appendFile f text).2.files ∧
      d.state.writers = (c.state.appendFile f text).2.writers := by
  cases ha with
  | foreground hf =>
    unfold step at hs
    rw [hf] at hs
    cases hs
    exact ⟨rfl, rfl⟩
  | job hw hn hj =>
    unfold step at hs
    simp only [hw, hn] at hs
    unfold stepJob at hs
    simp only [hj] at hs
    cases hs
    exact ⟨rfl, rfl⟩

variable {c : Nat → Scene α}

/-- A file that one writer has for itself only grows. -/
lemma grows_of_beside {path : String} {place : List String} {content : String} {m n : Nat}
    (h : ∀ k, m ≤ k → k < n → State.StoresBeside f (c k).state (c (k + 1)).state) (hmn : m ≤ n)
    (hw : (c m).state.Writes f path place content) :
    ∃ more, (c n).state.Writes f path place (content ++ more) := by
  induction hmn with
  | refl => exact ⟨"", by rwa [String.append_empty]⟩
  | @step n hmn ih =>
    obtain ⟨more, hn⟩ := ih fun k hmk hkn => h k hmk (Nat.lt_succ_of_lt hkn)
    obtain ⟨more', hn'⟩ := (h n hmn (Nat.lt_succ_self n)).grows hn
    exact ⟨more ++ more', by rwa [← String.append_assoc]⟩

/-- No writer is ever lost. -/
lemma size_le_of_goes (h : ∀ n, (c n).Goes site (c (n + 1))) {m n : Nat} (hmn : m ≤ n) :
    (c m).state.writers.size ≤ (c n).state.writers.size := by
  induction hmn with
  | refl => exact Nat.le_refl _
  | step _ ih => exact Nat.le_trans ih ((h _).stores.begins 0).1

/-- A writer that has its file for itself is at the end of it. -/
lemma writes_of_beside {n : Nat} (h0 : (c 0).state.writers = #[])
    (h : ∀ n, (c n).Goes site (c (n + 1)))
    (hbeside : ∀ k < n, f < (c k).state.writers.size →
      State.StoresBeside f (c k).state (c (k + 1)).state)
    (hf : f < (c n).state.writers.size) :
    ∃ path place content, (c n).state.Writes f path place content := by
  induction n with
  | zero => simp [h0] at hf
  | succ n ih =>
    by_cases hn : f < (c n).state.writers.size
    · obtain ⟨path, place, content, hw⟩ := ih (fun k hk => hbeside k (Nat.lt_succ_of_lt hk)) hn
      obtain ⟨more, hw'⟩ := (hbeside n (Nat.lt_succ_self n) hn).grows hw
      exact ⟨path, place, _, hw'⟩
    · obtain ⟨path, place, hw⟩ := ((h n).stores.begins f).2 hn hf
      exact ⟨path, place, "", hw⟩

/-- A rig on which no file is being written takes any course, and a text is written into a file.
From then on it stays in the file, behind what was there before, as long as no other acquisition
makes the file anew or writes into it.

**Proof sketch.** A file that is made is empty, and its writer is at its end. A step of the rig that
does not touch the file leaves both as they are, and what is written through the writer comes to the
end of the file. So the file only ever grows, from the moment it was made. -/
theorem rows_stay {i n : Nat} (h0 : (c 0).state.writers = #[])
    (h : ∀ n, (c n).Goes site (c (n + 1))) (ha : (c i).Asks p (.append f text))
    (hs : (c i).step site = .more (c (i + 1)))
    (hok : ((c i).state.appendFile f text).1 = .ok ()) (hin : i < n)
    (hbeside : ∀ k < n, f < (c k).state.writers.size →
      State.StoresBeside f (c k).state (c (k + 1)).state) :
    ∃ path offset before, (c i).state.writers[f]? = some ⟨path, offset⟩ ∧
      (c i).state.files.read path = .ok before ∧
      ∀ m, i < m → m ≤ n →
        ∃ after, (c m).state.files.read path = .ok (before ++ text ++ after) := by
  have hf : f < (c i).state.writers.size := by
    by_contra hf
    unfold State.appendFile at hok
    rw [Array.getElem?_eq_none (by omega)] at hok
    cases hok
  obtain ⟨path, place, before, hw⟩ :=
    writes_of_beside h0 h (fun k hk => hbeside k (Nat.lt_trans hk hin)) hf
  refine ⟨path, _, before, hw.writer, hw.read, fun m him hmn => ?_⟩
  obtain ⟨hfiles, hwriters⟩ := Scene.stores_of_asks ha hs
  have hwritten : (c (i + 1)).state.Writes f path place (before ++ text) :=
    (hw.append text).2.of_eq hfiles hwriters
  have hlater (k : Nat) (hik : i + 1 ≤ k) (hkm : k < m) :
      State.StoresBeside f (c k).state (c (k + 1)).state := by
    refine hbeside k (Nat.lt_of_lt_of_le hkm hmn) ?_
    exact Nat.lt_of_lt_of_le hwritten.lt (size_le_of_goes h hik)
  obtain ⟨after, hm⟩ := grows_of_beside hlater him hwritten
  exact ⟨after, hm.read⟩

end Courses

/-! ## Two acquisitions of one name -/

section SameName

variable {α : Type} {site : Site RigSurroundings} {c d : Scene α} {p : Party} {r : Request}

/-- Who makes a request just now, and which one. -/
def Scene.asked? (c : Scene α) : Option (Party × Request) :=
  match c.foreground with
  | .running (.ask r _) => some (.foreground, r)
  | .running _ => none
  | .waiting _ =>
    match c.current with
    | none => none
    | some n =>
      match c.state.jobs[n]? with
      | some (.running (.ask r _)) => some (.job n, r)
      | _ => none

lemma Scene.asks_of_asked? (h : c.asked? = some (p, r)) : c.Asks p r := by
  unfold asked? at h
  split at h
  · rename_i hf
    cases h
    exact .foreground hf
  · cases h
  · rename_i hw
    split at h
    · cases h
    · rename_i hn
      split at h
      · rename_i hj
        cases h
        exact .job hw hn hj
      · cases h

lemma Scene.Asks.asked? (h : c.Asks p r) : c.asked? = some (p, r) := by
  cases h with
  | foreground hf => simp only [Scene.asked?, hf]
  | job hw hn hj => simp only [Scene.asked?, hw, hn, hj]

/-- After a request the rig goes on. -/
lemma Scene.exists_step_of_asks (site : Site RigSurroundings) (h : c.Asks p r) :
    ∃ d, c.step site = .more d := by
  cases h with
  | foreground hf =>
    unfold step
    rw [hf]
    dsimp only
    split <;> exact ⟨_, rfl⟩
  | job hw hn hj =>
    unfold step
    rw [hw, hn]
    exact ⟨_, rfl⟩

lemma Scene.follow_succ_of_step {n : Nat} (h : (c.follow site n).step site = .more d) :
    c.follow site (n + 1) = d := by
  induction n generalizing c with
  | zero =>
    rw [follow] at h
    rw [follow, h]
    rfl
  | succ n ih =>
    rw [follow] at h ⊢
    cases hstep : c.step site with
    | more e =>
      rw [hstep] at h
      exact ih h
    | done | stuck =>
      rw [hstep] at h
      rw [hstep] at h
      cases h

lemma Scene.goes_follow (site : Site RigSurroundings) (c : Scene α) (n : Nat) :
    (c.follow site n).Goes site (c.follow site (n + 1)) := by
  rcases step_follow site c n with hs | heq
  · exact .step hs
  · rw [heq]
    exact .stay

/-- A script that starts an acquisition, waits for a while, stops it, and starts another one of the
same name. -/
def sameNameScript : String := "start-simple a\nwait-for-field\nstop\nstart-simple a\nstop"

/-- The settings of a session that takes one sample in ten seconds. -/
def slowSession : SessionSettings where
  conduct := ⟨0, .ofSeconds 1, .ofSeconds 5, ⟨.ofSeconds 10, 10, 3, 0.1, false, "data", "sample"⟩⟩
  programStopLimit := .ofSeconds 5

/-- A bench whose magnet is still ramping when it is asked for the first time. -/
def rampingState : State :=
  { State.initial ⟨2024, 1, 1, 0, 0⟩ with bench := { Site.Bench.initial with ramp := 1 } }

/-- Run the script, and wait for its end. -/
def runSameName : Process Calls Unit :=
  .ask (Call.start sameNameScript) fun _ => .ask Call.wait fun _ => .done ()

/-- The scene before the script is run. -/
def sameName : Scene Unit :=
  ⟨rampingState, .running (carryOut benchSite (runSameName.translate (Call.serve slowSession))),
    none, false⟩

/-- The file of both acquisitions. -/
def sameNamePath : String := "data/2024-01-01/20240101-0000-sample-a.txt"

/-- What is in a file of a bench before the first sample. -/
def benchHeader : String := "time\tU1\tT\nseconds\tV\tK\n"

/-- The row of the first sample of the first acquisition. -/
def firstRow : String :=
  Sampling.Table.values (Duration.ofMillis 0).seconds [some (Float.ofNat 0), none]

/-- A check that goes well, up to what it says of the time of its end. -/
def checkThen (text : String) (seconds : Float) (x : Risky Unit) : Risky Float := do
  let previous : ProgramState ← Control.ask (.published 0)
  publish 0 .checking
  logAll (Script.announce (Script.load text))
  logAll (Script.rehearse .empty 0 (Script.load text).program).1
  publish 0 previous
  log (.estimate seconds)
  x
  pure seconds

/-- The seconds that a check expects the script to take. -/
def sameNameSeconds : Float := 0 + 0 + 0 + 0 + 0 + 0

lemma check_sameName :
    Session.check 0 sameNameScript =
        checkThen sameNameScript sameNameSeconds (log .finishUnknown) ∨
      Session.check 0 sameNameScript = checkThen sameNameScript sameNameSeconds (pure ()) := by
  have h : Session.check 0 sameNameScript = checkThen sameNameScript sameNameSeconds
      (if Session.calendarSeconds < sameNameSeconds then log .finishUnknown else pure ()) := by
    with_unfolding_all rfl
  rw [h]
  split
  · exact .inl rfl
  · exact .inr rfl

/-- A process that has come to its end. -/
def Foreground.isDone : Foreground α → Bool
  | .running (.done _) => true
  | _ => false

lemma Foreground.eq_of_isDone {f : Foreground Unit} (h : f.isDone) : f = .running (.done ()) := by
  unfold isDone at h
  split at h
  · rfl
  · cases h

/-- After so many steps the first row is written, after so many the second acquisition has yet to
make its file, and after so many the session has ended. -/
def LosesRow (c : Scene Unit) (i k n : Nat) : Prop :=
  ((c.follow benchSite i).asked? = some (.job 1, .append 0 firstRow)) ∧
    i < k ∧ k < n ∧
    (c.follow benchSite i).state.writers[0]?.map Writer.path = some sameNamePath ∧
    ((c.follow benchSite i).state.files.read sameNamePath).toOption = some benchHeader ∧
    (c.follow benchSite k).state.writers.size = 1 ∧
    (c.follow benchSite n).foreground.isDone ∧
    ((c.follow benchSite n).state.files.read sameNamePath).toOption = some benchHeader

set_option maxRecDepth 100000 in
lemma losesRow_sameName : ∃ i k n, LosesRow sameName i k n := by
  have h : sameName = ⟨rampingState, .running (carryOut benchSite
      ((Session.start slowSession sameNameScript).run >>= fun _ =>
        Session.wait.run >>= fun _ => pure ())), none, false⟩ := rfl
  rw [h]
  unfold Session.start Session.startAtDesk
  rcases check_sameName with hcheck | hcheck
  · rw [show Session.check slowSession.conduct.console sameNameScript = _ from hcheck]
    refine ⟨67, 95, 126, ?_, ?_⟩
    · with_unfolding_all rfl
    · decide +kernel
  · rw [show Session.check slowSession.conduct.console sameNameScript = _ from hcheck]
    refine ⟨66, 94, 125, ?_, ?_⟩
    · with_unfolding_all rfl
    · decide +kernel

lemma opening_sameName : Opening benchSite slowSession sameName where
  foreground := ⟨runSameName, rfl⟩
  jobs n status hn := by
    cases hn
  current := rfl
  slot := rfl
  desk := rfl
  program := rfl
  programToken_lt := by decide

lemma FileStore.read_of_toOption {files : FileStore} {path content : String}
    (h : (files.read path).toOption = some content) : files.read path = .ok content := by
  cases hr : files.read path with
  | error fault =>
    rw [hr] at h
    cases h
  | ok found =>
    rw [hr] at h
    exact congrArg _ (Option.some.inj h)

/-- The row says that the temperature was not read, and the header does not. -/
lemma benchHeader_ne (before after : String) : benchHeader ≠ before ++ firstRow ++ after := by
  intro h
  have hrow : 'N' ∈ firstRow.toList := by
    have hnone : 'N' ∈ (Sampling.Table.field (Sampling.Table.value none)).toList := by decide
    simp [firstRow, Sampling.Table.values, Sampling.Table.row, hnone]
  have hheader : 'N' ∈ benchHeader.toList := by
    rw [h]
    simp [hrow]
  revert hheader
  decide

/-- A scene that makes one file at most leaves it to its writer. -/
lemma State.Stores.beside {s t : State} {f : Nat} (h : s.Stores t) (hf : f < s.writers.size)
    (ht : t.writers.size ≤ 1) : State.StoresBeside f s t := by
  cases h with
  | same hfiles hwriters => exact .same hfiles hwriters
  | create path hfiles hwriters =>
    refine .create path hfiles hwriters fun n w hn => ?_
    obtain ⟨files, -, ⟨cause, he⟩ | ⟨place, -, -, -, he⟩⟩ := s.createFile_cases path
    · rw [he] at hn
      cases hn
    · rw [hwriters, he, Array.size_push] at ht
      omega
  | append g text hfiles hwriters =>
    refine .append g text hfiles hwriters fun v w hne hg => ?_
    have hg' := (Array.getElem?_eq_some_iff.1 hg).1
    rw [hwriters, size_appendFile] at ht
    omega

section Loss

variable {c : Scene Unit} {i k n : Nat}

/-- Up to the second acquisition, the first one has its file for itself. -/
lemma LosesRow.beside (h : LosesRow c i k n) (m : Nat) (hm : m < k)
    (hf : 0 < (c.follow benchSite m).state.writers.size) :
    State.StoresBeside 0 (c.follow benchSite m).state (c.follow benchSite (m + 1)).state := by
  obtain ⟨-, -, -, -, -, halone, -, -⟩ := h
  apply (Scene.goes_follow benchSite c m).stores.beside hf
  exact Nat.le_trans (size_le_of_goes (fun m => Scene.goes_follow benchSite c m) hm)
    (Nat.le_of_eq halone)

lemma LosesRow.writes (h : LosesRow c i k n) (h0 : c.state.writers = #[]) :
    ∃ place, (c.follow benchSite i).state.Writes 0 sameNamePath place benchHeader := by
  have hbeside := h.beside
  obtain ⟨-, hik, -, hwriter, hbefore, -, -, -⟩ := h
  obtain ⟨w, hw, hpath⟩ := Option.map_eq_some_iff.1 hwriter
  obtain ⟨path, place, content, hwrites⟩ := writes_of_beside (f := 0) (n := i) h0
    (fun m => Scene.goes_follow benchSite c m) (fun m hm => hbeside m (Nat.lt_trans hm hik))
    (Array.getElem?_eq_some_iff.1 hw).1
  obtain rfl : path = sameNamePath := by
    rw [← hpath, ← Option.some.inj (hwrites.writer.symm.trans hw)]
  obtain rfl : content = benchHeader :=
    Except.ok.inj (hwrites.read.symm.trans (FileStore.read_of_toOption hbefore))
  exact ⟨place, hwrites⟩

/-- The row is written in one step. -/
lemma LosesRow.written (h : LosesRow c i k n) :
    (c.follow benchSite i).Asks (.job 1) (.append 0 firstRow) ∧
      (c.follow benchSite i).step benchSite = .more (c.follow benchSite (i + 1)) := by
  have ha := Scene.asks_of_asked? h.1
  obtain ⟨d, hd⟩ := Scene.exists_step_of_asks benchSite ha
  refine ⟨ha, ?_⟩
  rw [hd, Scene.follow_succ_of_step hd]

end Loss

/-- A script starts an acquisition, stops it, and starts another one of the same name within the
minute. The second one empties the file of the first: the row that was committed to it is gone when
the session has ended. -/
theorem row_lost_sameName :
    Opening benchSite slowSession sameName ∧ sameName.state.writers = #[] ∧
      (∀ n, (sameName.follow benchSite n).Goes benchSite (sameName.follow benchSite (n + 1))) ∧
      ∃ i n, i < n ∧ (sameName.follow benchSite i).Asks (.job 1) (.append 0 firstRow) ∧
        (sameName.follow benchSite i).step benchSite =
          .more (sameName.follow benchSite (i + 1)) ∧
        ((sameName.follow benchSite i).state.appendFile 0 firstRow).1 = .ok () ∧
        (sameName.follow benchSite (i + 1)).state.files.read sameNamePath =
          .ok (benchHeader ++ firstRow) ∧
        (sameName.follow benchSite n).foreground = .running (.done ()) ∧
        ∀ before after, (sameName.follow benchSite n).state.files.read sameNamePath ≠
          .ok (before ++ firstRow ++ after) := by
  refine ⟨opening_sameName, rfl, Scene.goes_follow benchSite sameName, ?_⟩
  obtain ⟨i, k, n, h⟩ := losesRow_sameName
  obtain ⟨place, hw⟩ := h.writes rfl
  obtain ⟨ha, hs⟩ := h.written
  obtain ⟨hok, hwritten⟩ := hw.append firstRow
  obtain ⟨hfiles, -⟩ := Scene.stores_of_asks ha hs
  obtain ⟨-, hik, hkn, -, -, -, hended, hafter⟩ := h
  refine ⟨i, n, Nat.lt_trans hik hkn, ha, hs, hok, ?_, ?_, fun before after hread => ?_⟩
  · rw [hfiles]
    exact hwritten.read
  · exact Foreground.eq_of_isDone hended
  · rw [FileStore.read_of_toOption hafter] at hread
    exact benchHeader_ne before after (Except.ok.inj hread)

/-- As long as there is no second acquisition of its name, the row stays in its file. -/
theorem row_stays_sameName :
    ∃ i k, i < k ∧ (sameName.follow benchSite i).Asks (.job 1) (.append 0 firstRow) ∧
      ∃ path offset before,
        (sameName.follow benchSite i).state.writers[0]? = some ⟨path, offset⟩ ∧
        (sameName.follow benchSite i).state.files.read path = .ok before ∧
        ∀ m, i < m → m ≤ k →
          ∃ after, (sameName.follow benchSite m).state.files.read path =
            .ok (before ++ firstRow ++ after) := by
  obtain ⟨i, k, n, h⟩ := losesRow_sameName
  obtain ⟨place, hw⟩ := h.writes rfl
  obtain ⟨ha, hs⟩ := h.written
  have hik : i < k := h.2.1
  exact ⟨i, k, hik, ha, rows_stay rfl (Scene.goes_follow benchSite sameName) ha hs
    (hw.append firstRow).1 hik h.beside⟩

end SameName

end CryoRig.Rig
