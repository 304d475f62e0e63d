import CryoRig.Proofs.JobEndings
import CryoRig.Proofs.RowsKept
import CryoRig.Proofs.SupervisedSweeps

/-!
# The files of differential sweeps

Whoever starts a differential sweep makes the file of its trace, and the supervision writes into it.
If nobody else does, the file holds what these two have put into it. So once a supervision is over
that has exported the trace, there is one row for each of its points.

## Main definitions

* `CryoRig.Control.appended`: the texts that were put into a file.
* `CryoRig.Rig.Scene.LeavesTo`: in a step nobody but a given party writes into a file.

## Main results

* `CryoRig.Control.started_cases`: a start makes the file, then it starts the supervision.
* `CryoRig.Rig.Scene.Tells.writes`: a file that is left to a party holds what the party has put
  into it.
* `CryoRig.Rig.Scene.exported_then_aborted`: a sweep that was started is followed, exported and
  aborted, and its file holds the trace.
-/

namespace CryoRig

open Process

namespace Control

open Instrument Sampling

/-! ## What is written -/

/-- The texts that were put into a file, in order. -/
def appended (file : Nat) (es : List (Exchange RigSurroundings)) : List String :=
  es.filterMap fun e =>
    match (e.request : Request) with
    | .append file' text => if file' = file then some text else none
    | _ => none

section Appended

variable {s : Station} {file : Nat} {es es' : List (Exchange RigSurroundings)}
  {ws : List (Exchange WorkSurroundings)}

@[simp] lemma appended_nil : appended file [] = [] := rfl

@[simp] lemma appended_append : appended file (es ++ es') = appended file es ++ appended file es' :=
  List.filterMap_append

lemma appended_eq_nil
    (h : ∀ text reply, (⟨.append file text, reply⟩ : Exchange RigSurroundings) ∉ es) :
    appended file es = [] := by
  refine List.filterMap_eq_nil_iff.2 fun e he => ?_
  obtain ⟨r, reply⟩ := e
  cases r with
  | append file' text =>
    refine if_neg ?_
    rintro rfl
    exact h text reply he
  | _ => rfl

/-- No action writes into a file. -/
lemma appended_of_perform {a : Action} {outcome : a.Outcome}
    (h : (s.site.perform a).Ends es outcome) : appended file es = [] := by
  cases s with
  | bench =>
    obtain rfl := Station.ends_bench_iff.1 h
    rfl
  | facility f =>
    obtain ⟨said, rfl, -⟩ := ends_ofDriver_iff.1 h
    exact List.filterMap_eq_nil_iff.2 (List.forall_mem_map.2 fun _ _ => rfl)

/-- What work writes, it writes when it is carried out. -/
lemma appended_of_carriedOut (h : CarriedOut s.site ws es) : appended file es = rows file ws := by
  induction ws generalizing es with
  | nil =>
    rw [carriedOut_nil_iff.1 h]
    rfl
  | cons w rest ih =>
    obtain ⟨es₁, es₂, rfl, hw, hrest⟩ := carriedOut_cons_iff.1 h
    rw [← List.singleton_append, rows_append, appended_append, ih hrest]
    congr 1
    obtain ⟨r, reply⟩ := w
    cases r with
    | act a =>
      rw [appended_of_perform hw, rows_eq_written]
      rfl
    | rig r =>
      obtain rfl := ends_request_iff.1 hw
      rw [rows_eq_written]
      cases r <;> rfl

end Appended

/-! ## How a sweep is started -/

section Starting

variable {tuning : Tuning} {name : String} {plan : DeltaPlan} {a : Acquisition}
  {ws : List (Exchange WorkSurroundings)}

/-- A file that was made for a table was made first, and holds the head of the table. -/
lemma exists_of_openTable {path : String} {columns : List Channel} {file : Nat}
    (h : (openTable path columns).run.Ends ws (.ok file)) :
    ∃ head, ws = ⟨.rig (.create path), (.ok file : Except StorageFault Nat)⟩ :: head ∧
      rows file head = (Table.header columns).map Table.row := by
  have hrows := rows_openTable h file
  obtain ⟨es₁, es₂, made, rfl, h₁, h₂⟩ := ends_run_lift_bind_iff.1 h
  obtain rfl := ends_request_iff.1 h₁
  match made with
  | .error cause => cases (ends_run_throw_iff.1 h₂).2
  | .ok (file' : Nat) =>
    obtain ⟨es₃, es₄, _, rfl, h₃, h₄⟩ := ends_run_lift_bind_iff.1 h₂
    obtain ⟨_, -, ⟨⟩⟩ | ⟨es₅, es₆, _, rfl, h₅, h₆⟩ := ends_run_bind_iff.1 h₄
    cases (ends_run_pure_iff.1 h₆).2
    rw [rows_append, if_pos rfl] at hrows
    exact ⟨_, rfl, hrows⟩

/-- An action writes no row. -/
lemma rows_of_actOrFail {action : Action} {file : Nat} {result : Except Fault action.Result}
    (hseen : Unseen (.act action)) (h : (actOrFail action).run.Ends ws result) :
    rows file ws = [] := by
  have hasks : (actOrFail action).run.AsksOnly Unseen :=
    (asksOnly_request.2 hseen).bind fun outcome => by cases outcome <;> trivial
  rw [rows, sightings_eq_nil hasks h, List.filterMap_nil]

/-- To prepare a differential sweep is to make its file with its head, and to arm the source. -/
lemma prepared_differential {I : Interface} {site : Site I} {paths : DataPaths} {token : Nat}
    {job : Job}
    (h : (prepareJob site tuning paths token (.differential plan)).run.Ends ws (.ok job)) :
    ∃ file head, job = .supervision ⟨plan, token, file⟩ ∧
      ws = ⟨.rig (.create paths.trace), (.ok file : Except StorageFault Nat)⟩ :: head ∧
      rows file head = (Table.header Table.traceColumns).map Table.row := by
  rcases ends_run_bind_iff.1 h with ⟨_, -, ⟨⟩⟩ | ⟨ws₁, ws₂, file, rfl, hopen, h₂⟩
  rcases ends_run_bind_iff.1 h₂ with ⟨_, -, ⟨⟩⟩ | ⟨ws₃, ws₄, _, rfl, hready, h₄⟩
  rcases ends_run_bind_iff.1 h₄ with ⟨_, -, ⟨⟩⟩ | ⟨ws₅, ws₆, _, rfl, harm, h₆⟩
  obtain ⟨rfl, hjob⟩ := ends_run_pure_iff.1 h₆
  cases hjob
  obtain ⟨head, rfl, hhead⟩ := exists_of_openTable hopen
  refine ⟨file, head ++ (ws₃ ++ ws₅), rfl, by simp, ?_⟩
  rw [rows_append, rows_append, hhead, rows_of_actOrFail (fun _ => rfl) hready,
    rows_of_actOrFail (fun _ => rfl) harm, List.append_nil, List.append_nil]

/-- To start one is to prepare it, and then to start the supervision. -/
lemma started_differential {I : Interface} {site : Site I}
    (h : (startAcquisition site tuning name (.differential plan)).run.Ends ws (.ok a)) :
    ∃ first file head,
      ws = first ++ ⟨.rig (.create a.paths.trace), (.ok file : Except StorageFault Nat)⟩ ::
        (head ++ [⟨.rig (.spawn (.supervision ⟨plan, a.token, file⟩)), a.job⟩]) ∧
      rows file head = (Table.header Table.traceColumns).map Table.row := by
  obtain ⟨ws₁, ws₂, calendar, rfl, -, h₂⟩ := ends_run_lift_bind_iff.1 h
  obtain ⟨ws₃, ws₄, token, rfl, -, h₄⟩ := ends_run_lift_bind_iff.1 h₂
  obtain ⟨ws₅, ws₆, _, rfl, -, h₆⟩ := ends_run_lift_bind_iff.1 h₄
  rcases ends_run_bind_iff.1 h₆ with ⟨_, -, ⟨⟩⟩ | ⟨ws₇, ws₈, job, rfl, hjob, h₈⟩
  obtain ⟨ws₉, ws₁₀, number, rfl, hspawn, h₁₀⟩ := ends_run_lift_bind_iff.1 h₈
  obtain ⟨rfl, ha⟩ := ends_run_pure_iff.1 h₁₀
  cases ha
  obtain rfl := ends_request_iff.1 hspawn
  obtain ⟨file, head, rfl, rfl, hhead⟩ := prepared_differential hjob
  exact ⟨ws₁ ++ (ws₃ ++ ws₅), file, head, by simp, hhead⟩

section Carried

variable {s : Station} {es : List (Exchange RigSurroundings)}

/-- A sweep is only started at a station that has the means for it. -/
lemma exists_commands_of_started (h : (carryOut s.site
    (startAcquisition s.site tuning name (.differential plan)).run).Ends es (.ok a)) :
    ∃ k, s.sweepCommands? = some k := by
  obtain ⟨ws, hout, hwork⟩ := ends_carryOut_iff.1 h
  obtain ⟨before, file, rfl, hm⟩ := mem_of_startAcquisition hwork
  obtain ⟨es₁, es₂, rfl, hbefore, -⟩ := carriedOut_append_iff.1 hout
  obtain ⟨ws₁, ws₂, rfl⟩ := List.append_of_mem hm
  obtain ⟨es₃, es₄, rfl, -, hrest⟩ := carriedOut_append_iff.1 hbefore
  obtain ⟨es₅, es₆, rfl, harm, -⟩ := carriedOut_cons_iff.1 hrest
  exact Station.exists_sweepCommands harm

/-- On the rig, too, its file is made and gets its head, and the last thing is to start the
supervision. -/
lemma started_cases (h : (carryOut s.site
    (startAcquisition s.site tuning name (.differential plan)).run).Ends es (.ok a)) :
    ∃ first file head,
      es = first ++ ⟨.create a.paths.trace, (.ok file : Except StorageFault Nat)⟩ ::
        (head ++ [⟨.spawn (.supervision ⟨plan, a.token, file⟩), a.job⟩]) ∧
      appended file head = (Table.header Table.traceColumns).map Table.row := by
  obtain ⟨ws, hout, hwork⟩ := ends_carryOut_iff.1 h
  obtain ⟨first, file, head, rfl, hhead⟩ := started_differential hwork
  obtain ⟨es₁, es₂, rfl, -, hout₂⟩ := carriedOut_append_iff.1 hout
  obtain ⟨es₃, rfl, hout₃⟩ := carriedOut_rig_iff.1 hout₂
  obtain ⟨es₄, es₅, rfl, hout₄, hspawn⟩ := carriedOut_append_iff.1 hout₃
  obtain ⟨es₆, rfl, hnil⟩ := carriedOut_rig_iff.1 hspawn
  obtain rfl := carriedOut_nil_iff.1 hnil
  exact ⟨es₁, file, es₄, rfl, (appended_of_carriedOut hout₄).trans hhead⟩

end Carried

end Starting

end Control

namespace Rig

open Control Sampling

variable {α : Type} {site : Site RigSurroundings}

namespace Scene

/-! ## Along a course -/

section Steps

variable {c d : Scene α} {p : Party} {token : Nat} {asked : Option (Party × Request)}
  {reply? : Option (Party × Exchange RigSurroundings)}

/-- Whoever has a reply was answered, and apart from that nothing concerns files and tokens. -/
lemma Proceeds.exists_answer {r : Request} {reply : r.Reply}
    (h : Proceeds site c asked (some (p, ⟨r, reply⟩)) d) :
    ∃ s t alarm, s.answer? p alarm r = some (reply, t) ∧ s.tokens = c.state.tokens ∧
      Still c.state s ∧ Still t d.state := by
  have hput {t : State} {x : Foreground (p.Result α)} {current : Option Nat} {fresh : Bool} :
      Still t ((⟨t, c.foreground, current, fresh⟩ : Scene α).put p x).state := by
    rw [state_put]
    exact ⟨rfl, rfl, rfl⟩
  generalize hx : some (p, (⟨r, reply⟩ : Exchange RigSurroundings)) = reply? at h
  cases h with
  | answer _ _ ha =>
    cases hx
    exact ⟨_, _, _, ha, tokens_enter .., still_enter .., hput⟩
  | @resume _ w _ _ _ _ _ _ ha =>
    obtain ⟨request, next, alarm, rank⟩ := w
    cases hx
    exact ⟨_, _, _, ha, rfl, ⟨rfl, rfl, rfl⟩, hput⟩
  | _ => cases hx

lemma isFired_put (c : Scene α) (p : Party) (x : Foreground (p.Result α)) :
    (c.put p x).state.isFired token = c.state.isFired token := by
  rw [state_put]
  rfl

/-- A token that was fired stays so in a step. -/
lemma Proceeds.isFired (h : Proceeds site c asked reply? d)
    (hf : c.state.isFired token = true) : d.state.isFired token = true := by
  cases h with
  | @answer p r _ _ _ _ _ ha =>
    rw [isFired_put]
    exact isFired_of_answer? ha (by rwa [State.isFired, tokens_enter])
  | wait =>
    rw [isFired_put]
    change State.isFired (State.enter _ _ _).2 token = true
    rwa [State.isFired, tokens_enter]
  | @resume _ w _ _ ready _ _ _ ha =>
    rw [isFired_put]
    exact isFired_of_answer? (s := { c.state with ready := ready }) ha hf
  | turn =>
    rw [isFired_put]
    exact hf
  | take | finish => exact hf
  | idle _ hs =>
    rw [hs]
    exact hf

/-- What came of a job stays so in a step. -/
lemma Proceeds.ending? {k : Nat} {ending : Ending} (h : Proceeds site c asked reply? d)
    (hk : c.state.ending? k = some ending) : d.state.ending? k = some ending := by
  obtain ⟨e, f, he, hf, hd, -⟩ := h.happens
  exact hd.ending? (hf.ending? (he.ending? hk))

lemma Goes.isFired (h : c.Goes site d) (hf : c.state.isFired token = true) :
    d.state.isFired token = true := by
  cases h with
  | step h =>
    obtain ⟨asked, reply?, hp⟩ := proceeds_of_step h
    exact hp.isFired hf
  | drift _ _ _ hs =>
    obtain ⟨_, _, _, _, _, rfl⟩ := hs
    exact hf
  | stay => exact hf

/-- Where there is no step, at most the clock and the instruments are different. -/
lemma Goes.drifts (h : c.Goes site d) (hs : c.step site ≠ .more d) :
    d.foreground = c.foreground ∧ Drifts c.state d.state := by
  cases h with
  | step hstep => exact absurd hstep hs
  | drift _ _ _ hd => exact ⟨rfl, hd⟩
  | stay => exact ⟨rfl, _, _, _, _, _, rfl⟩

end Steps

section Courses

variable {c : Nat → Scene α} {i j n m file token : Nat} {p : Party}
  {told : List (Party × Exchange RigSurroundings)} {path : String} {place : List String}
  {content : String}

lemma isFired_of_le (h : ∀ n, (c n).Goes site (c (n + 1)))
    (hf : (c m).state.isFired token = true) (hmn : m ≤ n) :
    (c n).state.isFired token = true := by
  induction hmn with
  | refl => exact hf
  | step _ ih => exact (h _).isFired ih

/-- Under a token that was fired no pause comes to its end. -/
lemma not_hears_of_isFired (h : ∀ n, (c n).Goes site (c (n + 1))) (hmn : m ≤ n)
    (hf : (c m).state.isFired token = true) (span : Duration) :
    ¬Hears site c n p ⟨.pause token span, true⟩ := by
  rintro ⟨-, asked, hp⟩
  obtain ⟨s, t, alarm, ha, htokens, -, -⟩ := hp.exists_answer
  have hs : s.isFired token = true := by
    rw [State.isFired, htokens]
    exact isFired_of_le h hf hmn
  simp only [State.answer?, hs, if_true] at ha
  cases ha

/-- A job comes as far as what it is told takes it. -/
lemma Tells.cameTo (hgoes : ∀ n, (c n).Goes site (c (n + 1))) {number : Nat} {job : Job}
    {es : List (Exchange RigSurroundings)} (h : Tells site c i j told)
    (hc : (c i).CameTo site number job es) :
    (c j).CameTo site number job (es ++ toldTo (.job number) told) := by
  induction h with
  | start => rwa [toldTo_nil, List.append_nil]
  | step _ _ hp ih =>
    rw [toldTo_append, ← List.append_assoc]
    exact hp.cameTo ih
  | @rest n told _ hs ih =>
    obtain ⟨-, _, _, _, _, _, hd⟩ := (hgoes n).drifts hs
    exact ih.of_jobs (by rw [hd])

/-! ## Files that are left to one party -/

/-- In a step nobody but a given party writes into a file or makes it anew: unless the party asks to
write into it, whoever has got to the end of the file is still there. -/
def LeavesTo (c : Nat → Scene α) (p : Party) (file n : Nat) : Prop :=
  (∀ text, ¬(c n).Asks p (.append file text)) →
    ∀ path place content, (c n).state.Writes file path place content →
      (c (n + 1)).state.Writes file path place content

/-- Whoever makes a file is at the beginning of it. -/
lemma Hears.exists_writes (h : Hears site c n p
    ⟨.create path, (.ok file : Except StorageFault Nat)⟩) :
    ∃ place, (c (n + 1)).state.Writes file path place "" := by
  obtain ⟨-, asked, hp⟩ := h
  obtain ⟨s, t, alarm, ha, -, -, ht⟩ := hp.exists_answer
  obtain ⟨-, place, hw⟩ := State.writes_of_createFile (Option.some.inj ha)
  exact ⟨place, hw.of_still ht⟩

/-- Whoever writes into a file adds to the end of it, and that does not fail. -/
lemma Hears.writes {text : String} {reply : Except StorageFault Unit}
    (h : Hears site c n p ⟨.append file text, reply⟩)
    (hw : (c n).state.Writes file path place content) :
    reply = .ok () ∧ (c (n + 1)).state.Writes file path place (content ++ text) := by
  obtain ⟨-, asked, hp⟩ := h
  obtain ⟨s, t, alarm, ha, -, hs, ht⟩ := hp.exists_answer
  obtain ⟨hok, hwritten⟩ := (hw.of_still hs).append text
  rw [Option.some.inj ha] at hok hwritten
  exact ⟨hok, hwritten.of_still ht⟩

/-- Whoever asks to write into a file has the reply at once. -/
lemma Proceeds.of_asks_append {c d : Scene α} {asked : Option (Party × Request)}
    {reply? : Option (Party × Exchange RigSurroundings)} {text : String}
    (h : Proceeds site c asked reply? d) (ha : c.Asks p (.append file text)) :
    ∃ reply : Except StorageFault Unit, reply? = some (p, ⟨.append file text, reply⟩) := by
  have hasked := (h.asks_iff p _).2 ha
  cases h with
  | answer =>
    cases hasked
    exact ⟨_, rfl⟩
  | wait _ _ hnone =>
    cases hasked
    cases hnone
  | _ => cases hasked

/-- **A file that is left to a party holds what the party has put into it**, behind what was there
before.

**Proof sketch.** Induction on the steps. If the party is told that it has written a text, the text
is at the end of the file. Otherwise it did not ask for that, and nobody else writes. -/
theorem Tells.writes (hgoes : ∀ n, (c n).Goes site (c (n + 1))) (h : Tells site c i j told)
    (hleft : ∀ n, i ≤ n → n < j → LeavesTo c p file n)
    (hw : (c i).state.Writes file path place content) :
    (c j).state.Writes file path place
      (content ++ String.join (appended file (toldTo p told))) := by
  induction h with
  | start => simpa using hw
  | @step n told asked reply? ht hs hp ih =>
    have hn := ih fun n hin hnj => hleft n hin (Nat.lt_succ_of_lt hnj)
    rw [toldTo_append, appended_append, String.join_append, ← String.append_assoc]
    by_cases hheard : ∃ text reply, reply? = some (p, ⟨.append file text, reply⟩)
    · obtain ⟨text, reply, rfl⟩ := hheard
      have happended : appended file
          (toldTo p (some (p, (⟨.append file text, reply⟩ : Exchange RigSurroundings))).toList) =
            [text] := by
        simp [appended]
      rw [happended]
      simpa using (Hears.writes ⟨hs, asked, hp⟩ hn).2
    · have hnothing : appended file (toldTo p reply?.toList) = [] := by
        refine appended_eq_nil fun text reply hm => hheard ⟨text, reply, ?_⟩
        simpa [toldTo, Option.mem_toList] using hm
      rw [hnothing, String.join_nil, String.append_empty]
      refine hleft n ht.le (Nat.lt_succ_self n) (fun text ha => hheard ?_) _ _ _ hn
      obtain ⟨reply, hreply⟩ := hp.of_asks_append ha
      exact ⟨text, reply, hreply⟩
  | @rest n told _ hs ih =>
    have hn := ih fun n hin hnj => hleft n hin (Nat.lt_succ_of_lt hnj)
    obtain ⟨-, _, _, _, _, _, hd⟩ := (hgoes n).drifts hs
    exact hn.of_eq (by rw [hd]) (by rw [hd])

/-- So nothing that the party writes into it fails. -/
lemma Tells.writes_ok (hgoes : ∀ n, (c n).Goes site (c (n + 1))) (h : Tells site c i j told)
    (hleft : ∀ n, i ≤ n → n < j → LeavesTo c p file n)
    (hw : (c i).state.Writes file path place content) {text : String}
    {reply : Except StorageFault Unit} (hm : ⟨.append file text, reply⟩ ∈ toldTo p told) :
    reply = .ok () := by
  obtain ⟨es, es', hes⟩ := List.append_of_mem hm
  obtain ⟨n, before, -, hin, hnj, hbefore, -, hheard, -⟩ := h.split_toldTo es hes
  have hn := hbefore.writes hgoes (fun k hik hkn => hleft k hik (Nat.lt_trans hkn hnj)) hw
  exact (hheard.writes hn).1

end Courses

/-! ## Sweeps that were started -/

section Sweeps

variable {s : Station} {c : Nat → Scene α} {i j : Nat} {p : Party}
  {told : List (Party × Exchange RigSurroundings)} {tuning : Tuning} {name : String}
  {plan : DeltaPlan} {a : Acquisition} {es₀ es es₁ : List (Exchange RigSurroundings)}

/-- Where in a course a sweep was started: the file was made, got its head, and then the supervision
was started. -/
lemma Tells.started (ht : Tells s.site c i j told) (htold : toldTo p told = es₀ ++ es ++ es₁)
    (hstart : (carryOut s.site
      (startAcquisition s.site tuning name (.differential plan)).run).Ends es (.ok a)) :
    ∃ file m l during after, i ≤ m ∧ m < l ∧ l < j ∧
      Hears s.site c m p ⟨.create a.paths.trace, (.ok file : Except StorageFault Nat)⟩ ∧
      Hears s.site c l p ⟨.spawn (.supervision ⟨plan, a.token, file⟩), a.job⟩ ∧
      Tells s.site c (m + 1) (l + 1) during ∧ Tells s.site c (l + 1) j after ∧
      appended file (toldTo p during) = (Table.header Table.traceColumns).map Table.row := by
  obtain ⟨first, file, head, rfl, hhead⟩ := started_cases hstart
  obtain ⟨m, -, rest, him, -, -, -, hmade, hrest, htail⟩ :=
    ht.split_toldTo (es₀ ++ first) (by simpa using htold)
  obtain ⟨l, during, after, hml, hlj, hduring, hp, hspawned, hafter, -⟩ :=
    hrest.split_toldTo head htail
  refine ⟨file, m, l, _, after, him, hml, hlj, hmade, hspawned, hduring.hears hspawned, hafter, ?_⟩
  rw [toldTo_append, hp, toldTo_cons_self, appended_append, hhead]
  rfl

/-- What a supervision was told is the beginning of its course, and all of it once the job has
ended. -/
lemma CameTo.completes {d : Scene α} {k : SweepCommands} {number : Nat} {v : Supervision}
    (hk : s.sweepCommands? = some k) (h : d.CameTo s.site number (.supervision v) es) :
    (∃ more trace?, v.Completes s k trace? (es ++ more)) ∧
      (d.state.ending? number ≠ none → ∃ trace?, v.Completes s k trace? es) := by
  rcases h with ⟨y, hy, hbegun⟩ | ⟨turns, ending, -, hrounds, rfl⟩
  · exact ⟨Supervision.exists_completes_of_begun hk hbegun,
      fun hended => absurd (ending?_eq_none hy) hended⟩
  · rcases Supervision.completes_of_rounds hk hrounds with ⟨-, -, -, hagain⟩ | ⟨⟨trace?, hc⟩, -⟩
    · cases hagain
    · exact ⟨⟨[], trace?, by rwa [List.append_nil]⟩, fun _ => ⟨trace?, hc⟩⟩

/-- If its file is left to a supervision, all of a trace is written that was fetched. -/
lemma Tells.appended_eq {l : Nat} {v : Supervision} {trace? : Option DeltaTrace}
    {ws : List (Exchange WorkSurroundings)} {path : String} {place : List String} {content : String}
    (hgoes : ∀ n, (c n).Goes s.site (c (n + 1))) (ht : Tells s.site c l j told)
    (hleft : ∀ n, l ≤ n → n < j → LeavesTo c p v.file n)
    (hw : (c l).state.Writes v.file path place content) (hover : v.Over trace? ws)
    (hout : CarriedOut s.site ws (toldTo p told)) :
    appended v.file (toldTo p told) =
      ((trace?.elim [] DeltaTrace.points).mapIdx v.plan.fields).map Table.row := by
  rw [appended_of_carriedOut hout]
  cases trace? with
  | some trace => exact Supervision.rows_of_over hover
  | none =>
    rcases Supervision.rows_of_over_none hover with ⟨index, point, cause, hm⟩ | hrows
    · cases ht.writes_ok hgoes hleft hw (hout.mem_of_rig hm)
    · exact hrows

end Sweeps

end Scene

/-! ## A sweep with three points -/

/-- A differential sweep is about to be started, on a source that is armed at once, is finished when
it is looked at, and has three points. -/
def tracedSweep : Scene Unit where
  state := { State.initial ⟨2024, 1, 1, 0, 0⟩ with
    attached := [("source", ⟨0, [("SOUR:DCON:ARM?", [.reply "1"]),
      ("STAT:OPER:COND?", [.reply "10"]), ("SOUR:DCON:NVZ?", [.reply "1e-6"]),
      ("TRAC:DATA?", [.reply "100,0.1,101,0.2,102,0.3"])], .nothing⟩)] }
  foreground := .running (startOnRig sourceWiring plainTuning "didv" shortPlan >>= joined)
  current := none
  fresh := false

/-- What the rig does by itself from there on. -/
def tracedCourse : Nat → Scene Unit := tracedSweep.follow (refrigerator sourceWiring)

/-- The file of the trace. -/
def tracedPath : String := "data/2024-01-01/20240101-0000-sample-didv-didv.txt"

/-- What is in that file in the end. -/
def tracedText : String :=
  "I\ttime\tdV/dI\nA\tseconds\tOhm\n-0.000001\t0.1\t100\n-0.0000008\t0.2\t101\n" ++
    "-0.0000006\t0.3\t102\n"

/-- Whether a party asks to write into the first file. -/
def asksFirst (p : Party) : Option (Party × Request) → Bool
  | some (q, .append 0 _) => q == p
  | _ => false

/-- Whether a step leaves the first file to a party: the party asks to write into it, or no file is
touched, or there is none yet. -/
def leavesFirst {α : Type} (p : Party) (c d : Scene α) : Bool :=
  asksFirst p c.asked? ||
    (d.state.files == c.state.files && d.state.writers == c.state.writers) ||
    c.state.writers == #[]

lemma leavesTo_of_leavesFirst {α : Type} {c : Nat → Scene α} {p : Party} {n : Nat}
    (h : leavesFirst p (c n) (c (n + 1)) = true) : Scene.LeavesTo c p 0 n := by
  intro hnone path place content hw
  simp only [leavesFirst, Bool.or_eq_true, Bool.and_eq_true, beq_iff_eq] at h
  rcases h with (hasks | ⟨hfiles, hwriters⟩) | hempty
  · unfold asksFirst at hasks
    split at hasks
    · next q text hq =>
      obtain rfl : q = p := eq_of_beq hasks
      exact absurd (Scene.asks_of_asked? hq) (hnone text)
    · cases hasks
  · exact hw.of_eq hfiles hwriters
  · have hlt := hw.lt
    rw [hempty] at hlt
    exact absurd hlt (Nat.not_lt_zero 0)

/-- In the steps up to `last` the foreground makes one file and writes into it alone, and the last
of them starts a job; after that the job alone writes. -/
def handsOver {α : Type} (last : Nat) (path : String) (n : Nat) (c d : Scene α) : Bool :=
  leavesFirst (if n ≤ last then .foreground else .job 0) c d &&
    (c.state.jobs.size == d.state.jobs.size || n == last && c.state.jobs.size == 0) &&
    d.state.writers.all fun w => w.path == path

section HandsOver

variable {α : Type} {site : Site RigSurroundings} {c : Nat → Scene α} {last k n file : Nat}
  {p : Party} {path path' : String}

lemma leavesTo_of_handsOver
    (h : ∀ n < k, handsOver last path n (c n) (c (n + 1)) = true) (hn : n < k)
    (hp : p = if n ≤ last then .foreground else .job 0) : Scene.LeavesTo c p 0 n := by
  have hstep := h n hn
  simp only [handsOver, Bool.and_eq_true] at hstep
  rw [hp]
  exact leavesTo_of_leavesFirst hstep.1.1

/-- Only the last of those steps starts a job. -/
lemma spawned_of_handsOver (h : ∀ n < k, handsOver last path n (c n) (c (n + 1)) = true)
    {job : Job} {number : Nat} (hn : n < k)
    (hh : Scene.Hears site c n p ⟨.spawn job, number⟩) : n = last ∧ number = 0 := by
  obtain ⟨_, _, hspawn⟩ := hh
  obtain ⟨hnumber, hcame, -⟩ := hspawn.cameTo_new
  have hlt : number < (c (n + 1)).state.jobs.size := by
    rcases hcame with ⟨y, hy, -⟩ | ⟨_, _, he, -⟩
    · exact Scene.lt_size_of_at? hy
    · exact (Scene.at?_of_ending? he).2
  have hstep := h n hn
  simp only [handsOver, Bool.and_eq_true, Bool.or_eq_true, beq_iff_eq] at hstep
  rcases hstep.1.2 with hsame | ⟨hl, hzero⟩
  · rw [hnumber, hsame] at hlt
    exact absurd hlt (Nat.lt_irrefl _)
  · exact ⟨hl, hnumber.trans hzero⟩

/-- There is only one file. -/
lemma created_of_handsOver (hgoes : ∀ n, (c n).Goes site (c (n + 1)))
    (h : ∀ n < k, handsOver last path n (c n) (c (n + 1)) = true)
    (hone : (c k).state.writers.size = 1) (hn : n < k) (hh : Scene.Hears site c n p
      ⟨.create path', (.ok file : Except StorageFault Nat)⟩) : file = 0 ∧ path' = path := by
  obtain ⟨place, hw⟩ := hh.exists_writes
  have hsize := size_le_of_goes hgoes hn
  have hlt := Nat.lt_of_lt_of_le hw.lt hsize
  have hstep := h n hn
  simp only [handsOver, Bool.and_eq_true] at hstep
  have hpath := Array.all_eq_true_iff_forall_mem.1 hstep.2 _ (Array.mem_of_getElem? hw.writer)
  exact ⟨by omega, eq_of_beq hpath⟩

end HandsOver

/-- The start makes one file, and writes into it alone; its last step is the one that starts the
job, and after that the job alone writes. -/
def tracedStep (n : Nat) (c d : Scene Unit) : Bool :=
  leavesFirst (if n ≤ 43 then .foreground else .job 0) c d &&
    (c.state.jobs.size == d.state.jobs.size || n == 43 && c.state.jobs.size == 0) &&
    d.state.writers.all fun w => w.path == tracedPath

set_option maxRecDepth 100000 in
lemma tracedStep_tracedCourse :
    ∀ n < 67, tracedStep n (tracedCourse n) (tracedCourse (n + 1)) = true := by
  decide +kernel

lemma end_tracedCourse :
    (tracedCourse 67).foreground.joins = true ∧ ((tracedCourse 67).state.ending? 0).isSome ∧
      (tracedCourse 67).state.writers.size = 1 ∧
      ((tracedCourse 67).state.files.read tracedPath).toOption = some tracedText := by
  decide +kernel

lemma goes_tracedCourse (n : Nat) :
    (tracedCourse n).Goes (refrigerator sourceWiring) (tracedCourse (n + 1)) :=
  Scene.goes_follow ..

section Traced

variable {n m l file : Nat} {p : Party} {path : String}

lemma leavesTo_tracedCourse (hn : n < 67) (hp : p = if n ≤ 43 then .foreground else .job 0) :
    Scene.LeavesTo tracedCourse p 0 n :=
  leavesTo_of_handsOver tracedStep_tracedCourse hn hp

/-- Only the last step of the start starts a job. -/
lemma eq_of_spawned {job : Job} {number : Nat} (hl : l < 67)
    (h : Scene.Hears (refrigerator sourceWiring) tracedCourse l p ⟨.spawn job, number⟩) :
    l = 43 ∧ number = 0 :=
  spawned_of_handsOver tracedStep_tracedCourse hl h

/-- There is only one file. -/
lemma eq_of_created (hm : m < 67) (h : Scene.Hears (refrigerator sourceWiring) tracedCourse m p
    ⟨.create path, (.ok file : Except StorageFault Nat)⟩) : file = 0 ∧ path = tracedPath :=
  created_of_handsOver goes_tracedCourse tracedStep_tracedCourse end_tracedCourse.2.2.1 hm h

end Traced

end Rig

end CryoRig
