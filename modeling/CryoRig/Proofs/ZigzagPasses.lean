import CryoRig.Proofs.RangeEnds
import CryoRig.Script.Plan

/-!
# The passes of a zigzag

The targets of a stepped sweep are the points of a range, gone through forth and back as many times
as there are passes. The passes stand one behind the other, all of one length, so where a target
stands says which pass it belongs to and which point it is. A pass begins with the point that the
one before it has ended with: at a turn the parameter stays where it is.

## Main results

* `CryoRig.Script.getElem?_stepList`: which point stands at a place.
* `CryoRig.Script.exists_turn`: where one pass ends and the next one begins.
* `CryoRig.Script.reverse_stepList`: forth and back is the same backwards.
* `CryoRig.Script.readPasses_of_texts`: how many points and passes a line asks for.
* `CryoRig.Script.zigzag_passes`: the targets of a line that starts a sweep, and what it is charged
  for.
-/

namespace CryoRig.Script

open Number

variable {first last : Float} {forward : List Float} {points zigzag p i : Nat}

/-! ## Passes -/

/-- A pass has the points in their order, or the other way round. -/
lemma getElem?_pass (hi : i < forward.length) :
    (pass forward p)[i]? = forward[if p % 2 = 0 then i else forward.length - 1 - i]? := by
  unfold pass
  split
  · rfl
  · rw [List.getElem?_reverse hi]

/-- The passes stand one behind the other. -/
lemma getElem?_flatMap_pass (hp : p < zigzag) (hi : i < forward.length) :
    ((List.range zigzag).flatMap (pass forward))[p * forward.length + i]? =
      (pass forward p)[i]? := by
  induction zigzag with
  | zero => exact absurd hp (Nat.not_lt_zero p)
  | succ zigzag ih =>
    have hlength : ((List.range zigzag).flatMap (pass forward)).length =
        zigzag * forward.length := by
      simp [List.length_flatMap, List.map_const']
    rw [List.range_succ, List.flatMap_append, List.flatMap_singleton]
    rcases Nat.lt_succ_iff_lt_or_eq.1 hp with hlt | rfl
    · have hbefore : p * forward.length + i < zigzag * forward.length :=
        calc p * forward.length + i < p * forward.length + forward.length :=
              Nat.add_lt_add_left hi _
          _ = (p + 1) * forward.length := (Nat.succ_mul p _).symm
          _ ≤ zigzag * forward.length := Nat.mul_le_mul_right _ hlt
      rw [List.getElem?_append_left (hlength ▸ hbefore), ih hlt]
    · rw [List.getElem?_append_right (by omega), hlength, Nat.add_sub_cancel_left]

/-- **Which point stands at a place**: even passes have the points in their order, odd ones have
them the other way round. -/
theorem getElem?_stepList (first last : Float) (hp : p < zigzag) (hi : i < points) :
    (stepList first last points zigzag)[p * points + i]? =
      (linspace first last points)[if p % 2 = 0 then i else points - 1 - i]? := by
  have hi' : i < (linspace first last points).length := by rwa [length_linspace]
  have hplace := getElem?_flatMap_pass hp hi'
  rw [getElem?_pass hi', length_linspace] at hplace
  exact hplace

/-- There is a target at each place of a pass. -/
lemma exists_target (first last : Float) (hp : p < zigzag) (hi : i < points) :
    ∃ x, (stepList first last points zigzag)[p * points + i]? = some x ∧
      (linspace first last points)[if p % 2 = 0 then i else points - 1 - i]? = some x := by
  have hplace :
      (if p % 2 = 0 then i else points - 1 - i) < (linspace first last points).length := by
    rw [length_linspace]
    split <;> omega
  exact ⟨_, (getElem?_stepList first last hp hi).trans (List.getElem?_eq_getElem hplace),
    List.getElem?_eq_getElem hplace⟩

/-- A pass ends with the point that the next one begins with. -/
theorem exists_turn (hpoints : 1 ≤ points) (hp : p + 1 < zigzag) :
    ∃ x, (stepList first last points zigzag)[p * points + (points - 1)]? = some x ∧
      (stepList first last points zigzag)[(p + 1) * points]? = some x := by
  have hlast : points - 1 < points := by omega
  obtain ⟨x, hend, hpoint⟩ := exists_target first last (Nat.lt_of_succ_lt hp) hlast
  refine ⟨x, hend, ?_⟩
  have hbegin := getElem?_stepList first last hp hpoints
  rw [Nat.add_zero] at hbegin
  -- one of the two passes goes forth and the other one back
  have hturn : (if (p + 1) % 2 = 0 then 0 else points - 1 - 0) =
      if p % 2 = 0 then points - 1 else points - 1 - (points - 1) := by
    split <;> split <;> omega
  rw [hbegin, hturn, hpoint]

/-- A pass of the other direction has the same points backwards. -/
lemma reverse_pass {q : Nat} (h : (p + q) % 2 = 1) :
    (pass forward p).reverse = pass forward q := by
  unfold pass
  split <;> split
  · omega
  · rfl
  · exact List.reverse_reverse forward
  · omega

/-- **An even number of passes** reads the same backwards. -/
theorem reverse_stepList (h : zigzag % 2 = 0) :
    (stepList first last points zigzag).reverse = stepList first last points zigzag := by
  have hrange : (List.range zigzag).reverse = (List.range zigzag).map (zigzag - 1 - ·) := by
    rw [List.range_eq_range', List.reverse_range', List.range_eq_range']
    exact List.map_congr_left fun p _ => by omega
  unfold stepList
  rw [List.reverse_flatMap, hrange, List.flatMap_map]
  refine List.flatMap_congr fun p hp => ?_
  have hlt := List.mem_range.1 hp
  exact reverse_pass (by omega)

/-! ## Lines -/

/-- Two whole numbers from one on with a star between them are read as points and passes. -/
lemma readPasses_of_texts {a b : String} (ha : WholeText points a.toList)
    (hb : WholeText zigzag b.toList) (hamax : points ≤ hugeMax) (hbmax : zigzag ≤ hugeMax)
    (hpoints : 1 ≤ points) (hzigzag : 1 ≤ zigzag) :
    readPasses (a ++ "*" ++ b) = .ok (points, zigzag) := by
  have hcut : FirstCut ['*'] (a ++ "*" ++ b).toList a.toList b.toList := by
    have hlist : (a ++ "*" ++ b).toList = a.toList ++ ['*'] ++ b.toList := by simp
    rw [hlist]
    exact firstCut_of_star ha.star_notMem
  rw [readPasses, bind_eq_ok_iff]
  refine ⟨(points, zigzag), elim_eq_ok_iff.2 ?_, ?_⟩
  · refine (parts_eq_some_iff (by simp)).2 ⟨_, _, hcut, ?_, ?_⟩
    · rw [String.ofList_toList]
      exact readWhole?_eq_some_iff.2 ⟨ha, hamax⟩
    · rw [String.ofList_toList]
      exact readWhole?_eq_some_iff.2 ⟨hb, hbmax⟩
  · dsimp only
    rw [if_neg (by omega)]
    rfl

/-- What is planned for a line that starts a sweep. -/
lemma plan_startStep {l : Line} {c : RunConfig} {name : String} {parameter : Parameter}
    {targets : List Float} {relax measure : Float}
    (hl : l.command = .ok (.startStep name parameter targets)) (hrelax : c.stepRelax = some relax)
    (hmeasure : c.stepMeasure = some measure) :
    let charge := Float.ofNat targets.length * (relax + measure)
    l.plan c = .ok ⟨[.sweepEstimate parameter targets.length charge],
      .start name (.stepped (.start parameter targets relax measure)) c.autorange, charge, c⟩ := by
  exact Line.plan_eq_ok_iff.2
    ⟨_, hl, plan_startStep_eq_ok_iff.2 ⟨relax, measure, hrelax, hmeasure, rfl⟩⟩

/-- **The passes of a zigzag.** Every pass visits every point, the even ones in their order and the
odd ones the other way round. Each pass begins with the point that the one before it has ended with,
and an even number of passes reads the same backwards.

A line that starts a sweep over so many points in so many passes takes up these targets, and is
charged for dropping and keeping ticks once for each of them.

**Proof sketch.** The passes are of one length, so a place is cut into a pass and a place in it by
dividing. At a turn one pass goes forth and the other one back. Read backwards, each pass stands for
the one that is as far from the other end, which goes in the other direction if their number is
even. -/
theorem zigzag_passes (first last : Float) {points zigzag : Nat} (hpoints : 1 ≤ points)
    (hzigzag : 1 ≤ zigzag) :
    (stepList first last points zigzag).length = points * zigzag ∧
    (∀ p < zigzag, ∀ i < points, ∃ x,
      (stepList first last points zigzag)[p * points + i]? = some x ∧
        (linspace first last points)[if p % 2 = 0 then i else points - 1 - i]? = some x) ∧
    (∀ p, p + 1 < zigzag → ∃ x,
      (stepList first last points zigzag)[p * points + (points - 1)]? = some x ∧
        (stepList first last points zigzag)[(p + 1) * points]? = some x) ∧
    (zigzag % 2 = 0 →
      (stepList first last points zigzag).reverse = stepList first last points zigzag) ∧
    ∀ (l : Line) (number : Nat) (name word range a b : String) (parameter : Parameter)
      (c : RunConfig) (relax measure charge : Float),
      l = ⟨number, "start-step", [name, word, range, a ++ "*" ++ b]⟩ →
      Parameter.parse word = .ok parameter → readRange range = .ok (first, last) →
      WholeText points a.toList → WholeText zigzag b.toList →
      points ≤ hugeMax → zigzag ≤ hugeMax →
      c.stepRelax = some relax → c.stepMeasure = some measure →
      charge = Float.ofNat (points * zigzag) * (relax + measure) →
      l.plan c = .ok ⟨[.sweepEstimate parameter (points * zigzag) charge],
        .start name (.stepped
          (.start parameter (stepList first last points zigzag) relax measure)) c.autorange,
        charge, c⟩ ∧
      ∀ sum rest, (rehearse c sum (l :: rest)).2 = (rehearse c (sum + charge) rest).2 := by
  have hlength : (stepList first last points zigzag).length = points * zigzag :=
    (length_stepList first last points zigzag).trans (Nat.mul_comm zigzag points)
  refine ⟨hlength, fun p hp i hi => exists_target first last hp hi,
    fun p hp => exists_turn hpoints hp, reverse_stepList, ?_⟩
  rintro l number name word range a b parameter c relax measure charge rfl hword hrange ha hb hamax
    hbmax hrelax hmeasure rfl
  have hcommand : Line.command ⟨number, "start-step", [name, word, range, a ++ "*" ++ b]⟩ =
      .ok (.startStep name parameter (stepList first last points zigzag)) := by
    have hpasses := readPasses_of_texts ha hb hamax hbmax hpoints hzigzag
    have hname : Operation.startStep.name = "start-step" := rfl
    rw [Line.command, Command.parse_eq_ok_iff hname, Command.ofArguments_startStep_iff]
    exact ⟨parameter, first, last, points, zigzag, hword, hrange, hpasses, rfl⟩
  have hplan := plan_startStep hcommand hrelax hmeasure
  rw [hlength] at hplan
  refine ⟨hplan, fun sum rest => ?_⟩
  rw [rehearse, hplan]

/-- Three seconds for each target: one to drop ticks and two to keep them. -/
def threeSeconds : RunConfig :=
  { RunConfig.empty with stepRelax := some 1, stepMeasure := some 2 }

/-- Three points gone through three times: the second pass ends where the third one begins, and a
line that asks for it is charged for nine times one second and two. -/
theorem zigzag_passes_threeTimes :
    (1 ≤ 3 ∧ (stepList 0 1 3 3).length = 9) ∧
    (∃ x y, (linspace 0 1 3)[0]? = some x ∧ (linspace 0 1 3)[1]? = some y ∧
      (stepList 0 1 3 3)[4]? = some y ∧ (stepList 0 1 3 3)[5]? = some x ∧
      (stepList 0 1 3 3)[6]? = some x) ∧
    (rehearse threeSeconds 0
      [⟨1, "start-step", ["s", "vg", "0" ++ ".." ++ "1", "3" ++ "*" ++ "3"]⟩]).2 = .ok 27 := by
  obtain ⟨hlength, hplaces, hturns, -, hlines⟩ := @zigzag_passes 0 1 3 3 (by decide) (by decide)
  obtain ⟨x, hx, hfirst⟩ := hplaces 1 (by decide) 2 (by decide)
  obtain ⟨y, hy, hsecond⟩ := hplaces 1 (by decide) 1 (by decide)
  obtain ⟨x', hx', hnext⟩ := hturns 1 (by decide)
  obtain rfl : x' = x := Option.some.inj (hx'.symm.trans hx)
  have hrange : readRange ("0" ++ ".." ++ "1") = .ok (0, 1) := by
    have hzero : readFinite? "0" = some 0 := by decide +kernel
    have hone : readFinite? "1" = some 1 := by decide +kernel
    rw [readRange_append hzero hone]
    rfl
  have hthree : WholeText 3 "3".toList :=
    (readWhole?_eq_some_iff.1 (show readWhole? hugeMax "3" = some 3 by decide)).1
  obtain ⟨-, hrehearse⟩ := hlines _ 1 "s" "vg" ("0" ++ ".." ++ "1") "3" "3" .gateVoltage
    threeSeconds 1 2 _ rfl (by decide +kernel) hrange hthree hthree (by decide) (by decide) rfl rfl
    rfl
  have hcharge : (0 : Float) + Float.ofNat (3 * 3) * (1 + 2) = 27 := by decide +kernel
  refine ⟨⟨by decide, hlength⟩, ⟨x', y, hfirst, hsecond, hy, hx, hnext⟩, ?_⟩
  rw [hrehearse, rehearse, hcharge]

end CryoRig.Script
