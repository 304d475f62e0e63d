import CryoRig.Proofs.RunOrders
import Mathlib.Data.List.TakeWhile

/-!
# The line that set something last

A check carries the settings of a script from line to line. What it comes to can be told from the
text alone: a line is in order if it can be read and the settings it needs were made on lines before
it, and what counts for it is the last line before it that says something of the setting.

## Main definitions

* `CryoRig.Script.asked?`: what a text asks for, read on its own.
* `CryoRig.Script.latest`: what the last of some texts says of a setting.
* `CryoRig.Script.InOrder`: a text is in order after those before it.
* `CryoRig.Script.seconds?`: the seconds that a command is charged for.

## Main results

* `CryoRig.Script.of_accumulate`: lines without a complaint are in order, and leave behind what the
  last of them say.
* `CryoRig.Script.exists_of_estimate_error`: a complaint is about the first line out of order.
-/

namespace CryoRig.Text

variable {cs word : List Char} {c : Char}

/-! ## Words of a trimmed text -/

lemma wordsFrom_trimLeft : wordsFrom [] (trimLeft cs) = wordsFrom [] cs := by
  induction cs with
  | nil => rfl
  | cons c cs ih => cases h : isBlank c <;> simp_all [trimLeft, wordsFrom]

lemma wordsFrom_concat_of_isBlank (h : isBlank c = true) :
    wordsFrom word (cs ++ [c]) = wordsFrom word cs := by
  induction cs generalizing word with
  | nil => cases word <;> simp [wordsFrom, h]
  | cons d cs ih => cases hd : isBlank d <;> simp [wordsFrom, hd, ih]

lemma wordsFrom_append_of_isBlank {blanks : List Char} (h : ∀ c ∈ blanks, isBlank c = true) :
    wordsFrom word (cs ++ blanks) = wordsFrom word cs := by
  induction blanks generalizing cs with
  | nil => rw [List.append_nil]
  | cons c blanks ih =>
    rw [List.append_cons, ih fun d hd => h d (List.mem_cons_of_mem c hd),
      wordsFrom_concat_of_isBlank (h c List.mem_cons_self)]

lemma wordsFrom_trimRight : wordsFrom word (trimRight cs) = wordsFrom word cs := by
  have hcs : trimRight cs ++ (cs.reverse.takeWhile isBlank).reverse = cs := by
    rw [trimRight, ← List.reverse_append, List.takeWhile_append_dropWhile, List.reverse_reverse]
  have hblanks : ∀ c ∈ (cs.reverse.takeWhile isBlank).reverse, isBlank c = true := fun c hc =>
    List.mem_takeWhile_imp (List.mem_reverse.1 hc)
  calc wordsFrom word (trimRight cs)
      = wordsFrom word (trimRight cs ++ (cs.reverse.takeWhile isBlank).reverse) :=
        (wordsFrom_append_of_isBlank hblanks).symm
    _ = wordsFrom word cs := by rw [hcs]

/-- The blanks at the ends of a text do not matter for its words. -/
lemma words_trim (s : String) : words (trim s) = words s := by
  simp [words, trim, trimChars, wordsFrom_trimRight, wordsFrom_trimLeft]

end CryoRig.Text

namespace CryoRig.Script

/-! ## What texts ask for -/

/-- What a text asks for, read on its own. -/
def asked? (text : String) : Option Command :=
  match Text.words text with
  | [] => none
  | operation :: arguments => (Command.read operation arguments).toOption

/-- What a command says of the seconds dropped after each step. -/
def Command.relax? : Command → Option Float
  | .config (.stepRelax seconds) => some seconds
  | _ => none

/-- What a command says of the seconds averaged after that. -/
def Command.measure? : Command → Option Float
  | .config (.stepMeasure seconds) => some seconds
  | _ => none

/-- What a command says of raising ranges on overload. -/
def Command.autorange? : Command → Option Bool
  | .config (.autorange on) => some on
  | _ => none

/-- What a command says of the field: where it is, or where it goes. -/
def Command.field? : Command → Option Float
  | .config (.currentField tesla) | .setTargetField tesla _ => some tesla
  | _ => none

/-- What a command says of the temperature: where it is, or where it goes. -/
def Command.temperature? : Command → Option Float
  | .config (.currentTemperature kelvin) | .setTargetTemperature kelvin _ => some kelvin
  | _ => none

/-- What the last text that says something of a setting says of it. -/
def latest {α : Type} (says? : Command → Option α) (texts : List String) : Option α :=
  (texts.filterMap fun text => (asked? text).bind says?).getLast?

/-- A setting is made by some text. -/
def Configured (texts : List String) (setting : Float → Setting) : Prop :=
  ∃ text ∈ texts, ∃ x, asked? text = some (.config (setting x))

/-- A text is in order after those before it. -/
structure InOrder (before : List String) (text : String) : Prop where
  /-- If it has words, they can be read as a command. -/
  reads : ∀ operation arguments, Text.words text = operation :: arguments →
    ∃ command, Command.read operation arguments = .ok command
  /-- A stepped sweep needs to be told how long to relax. -/
  relax : ∀ name parameter targets, asked? text = some (.startStep name parameter targets) →
    Configured before .stepRelax
  /-- A stepped sweep needs to be told how long to measure. -/
  measure : ∀ name parameter targets, asked? text = some (.startStep name parameter targets) →
    Configured before .stepMeasure
  /-- A ramp of the field needs to be told the field. -/
  field : ∀ tesla rate, asked? text = some (.setTargetField tesla rate) →
    Configured before .currentField
  /-- A ramp of the temperature needs to be told the temperature. -/
  temperature : ∀ kelvin rate, asked? text = some (.setTargetTemperature kelvin rate) →
    Configured before .currentTemperature

/-- Every text is in order after those before it. -/
def AllInOrder (texts : List String) : Prop :=
  ∀ before text after, texts = before ++ text :: after → InOrder before text

/-- The seconds that a command is charged for after given texts, if the settings it needs are
made. -/
def seconds? (before : List String) : Command → Option Float
  | .wait seconds => some seconds
  | .startStep _ _ targets => do
    let relax ← latest Command.relax? before
    let measure ← latest Command.measure? before
    some (Float.ofNat targets.length * (relax + measure))
  | .setTargetField tesla rate =>
    (latest Command.field? before).map fun current => (tesla - current).abs / rate * 60
  | .setTargetTemperature kelvin rate =>
    (latest Command.temperature? before).map fun current => (kelvin - current).abs / rate * 60
  | _ => some 0

/-- What texts ask for one after the other, each command with all texts before its own. -/
def commands (before : List String) : List String → List (List String × Command)
  | [] => []
  | text :: rest => ((asked? text).map (before, ·)).toList ++ commands (before ++ [text]) rest

/-- The settings that are left behind by what texts say last. -/
def configAfter (texts : List String) : RunConfig where
  stepRelax := latest Command.relax? texts
  stepMeasure := latest Command.measure? texts
  autorange := latest Command.autorange? texts
  field := latest Command.field? texts
  temperature := latest Command.temperature? texts

variable {before texts : List String} {text : String} {command : Command} {step : Step}
  {c : RunConfig}

lemma latest_concat {α : Type} (says? : Command → Option α) :
    latest says? (before ++ [text]) = ((asked? text).bind says?).or (latest says? before) := by
  unfold latest
  cases h : (asked? text).bind says? with
  | none => simp [List.filterMap_append, h]
  | some a => simp [List.filterMap_append, h]

lemma latest_eq_none_iff {α : Type} {says? : Command → Option α} : latest says? texts = none ↔
    ∀ text ∈ texts, ∀ command, asked? text = some command → says? command = none := by
  simp [latest, Option.bind_eq_none_iff]

lemma configAfter_concat_of_none (h : asked? text = none) :
    configAfter (before ++ [text]) = configAfter before := by
  simp [configAfter, latest_concat, h]

/-! ## Plans and what was said last -/

/-- Settings of which a command says something new. -/
def RunConfig.after (c : RunConfig) (command : Command) : RunConfig where
  stepRelax := command.relax?.or c.stepRelax
  stepMeasure := command.measure?.or c.stepMeasure
  autorange := command.autorange?.or c.autorange
  field := command.field?.or c.field
  temperature := command.temperature?.or c.temperature

lemma configAfter_concat (h : asked? text = some command) :
    configAfter (before ++ [text]) = (configAfter before).after command := by
  simp [configAfter, RunConfig.after, latest_concat, h]

/-- A plan leaves behind what its command says, and else what was there before. -/
lemma config_of_plan (h : Script.plan c command = .ok step) : step.config = c.after command := by
  cases command with
  | config setting => cases setting <;> cases h <;> rfl
  | startStep name parameter targets =>
    obtain ⟨_, _, -, -, rfl⟩ := plan_startStep_eq_ok_iff.1 h
    rfl
  | setTargetField tesla rate =>
    obtain ⟨_, -, rfl⟩ := plan_setTargetField_eq_ok_iff.1 h
    rfl
  | setTargetTemperature kelvin rate =>
    obtain ⟨_, -, rfl⟩ := plan_setTargetTemperature_eq_ok_iff.1 h
    rfl
  | _ =>
    cases h
    rfl

/-- A plan is charged for by what was said last. -/
lemma charge_of_plan (h : Script.plan (configAfter before) command = .ok step) :
    seconds? before command = some step.charge := by
  cases command with
  | startStep name parameter targets =>
    obtain ⟨_, _, hrelax, hmeasure, rfl⟩ := plan_startStep_eq_ok_iff.1 h
    simp only [configAfter] at hrelax hmeasure
    rw [seconds?, hrelax, hmeasure]
    rfl
  | setTargetField tesla rate =>
    obtain ⟨_, hfield, rfl⟩ := plan_setTargetField_eq_ok_iff.1 h
    simp only [configAfter] at hfield
    rw [seconds?, hfield]
    rfl
  | setTargetTemperature kelvin rate =>
    obtain ⟨_, htemperature, rfl⟩ := plan_setTargetTemperature_eq_ok_iff.1 h
    simp only [configAfter] at htemperature
    rw [seconds?, htemperature]
    rfl
  | _ =>
    cases h
    rfl

/-! ## Plans and settings that are needed -/

lemma Configured.mono {setting : Float → Setting} (h : Configured before setting)
    (hsub : before ⊆ texts) : Configured texts setting := by
  obtain ⟨text, hmem, hasked⟩ := h
  exact ⟨text, hsub hmem, hasked⟩

/-- A setting that nothing but its own line says something of is made if the last such line says
something. -/
lemma configured_iff_latest {setting : Float → Setting} {says? : Command → Option Float}
    (hsaid : ∀ command x, says? command = some x ↔ command = .config (setting x)) :
    Configured texts setting ↔ ∃ x, latest says? texts = some x := by
  constructor
  · rintro ⟨text, hmem, x, hasked⟩
    rw [← Option.ne_none_iff_exists']
    intro hnone
    have := latest_eq_none_iff.1 hnone text hmem _ hasked
    rw [(hsaid _ x).2 rfl] at this
    cases this
  · rintro ⟨x, hx⟩
    obtain ⟨text, hmem, hb⟩ := List.mem_filterMap.1 (List.mem_of_getLast? hx)
    obtain ⟨command, hasked, hs⟩ := Option.bind_eq_some_iff.1 hb
    exact ⟨text, hmem, x, (hsaid command x).1 hs ▸ hasked⟩

lemma relax?_eq_some_iff (command : Command) (x : Float) :
    command.relax? = some x ↔ command = .config (.stepRelax x) := by
  cases command with
  | config setting => cases setting <;> simp [Command.relax?]
  | _ => simp [Command.relax?]

lemma measure?_eq_some_iff (command : Command) (x : Float) :
    command.measure? = some x ↔ command = .config (.stepMeasure x) := by
  cases command with
  | config setting => cases setting <;> simp [Command.measure?]
  | _ => simp [Command.measure?]

lemma AllInOrder.inOrder {after : List String} (h : AllInOrder (before ++ text :: after)) :
    InOrder before text := h before text after rfl

/-- Where a quantity is told by its own line, or by a ramp that needs it to be told, its own line
comes first. -/
lemma configured_of_latest (hb : AllInOrder before) {setting : Float → Setting}
    {says? : Command → Option Float} {x : Float} (hx : latest says? before = some x)
    (hsaid : ∀ earlier text command, InOrder earlier text → asked? text = some command →
      ∀ x, says? command = some x →
        command = .config (setting x) ∨ Configured earlier setting) :
    Configured before setting := by
  obtain ⟨text, hmem, hb'⟩ := List.mem_filterMap.1 (List.mem_of_getLast? hx)
  obtain ⟨command, hasked, hs⟩ := Option.bind_eq_some_iff.1 hb'
  obtain ⟨earlier, after, rfl⟩ := List.append_of_mem hmem
  rcases hsaid earlier text command hb.inOrder hasked x hs with rfl | h
  · exact ⟨text, hmem, x, hasked⟩
  · exact h.mono (List.subset_append_left _ _)

lemma configured_field (hb : AllInOrder before) :
    Configured before .currentField ↔ ∃ x, latest Command.field? before = some x := by
  constructor
  · rintro ⟨text, hmem, x, hasked⟩
    rw [← Option.ne_none_iff_exists']
    intro hnone
    cases latest_eq_none_iff.1 hnone text hmem _ hasked
  · rintro ⟨x, hx⟩
    refine configured_of_latest hb hx fun earlier text command horder hasked y hy => ?_
    cases command with
    | config setting =>
      cases setting <;> cases hy
      exact .inl rfl
    | setTargetField tesla rate => exact .inr (horder.field tesla rate hasked)
    | _ => cases hy

lemma configured_temperature (hb : AllInOrder before) :
    Configured before .currentTemperature ↔
      ∃ x, latest Command.temperature? before = some x := by
  constructor
  · rintro ⟨text, hmem, x, hasked⟩
    rw [← Option.ne_none_iff_exists']
    intro hnone
    cases latest_eq_none_iff.1 hnone text hmem _ hasked
  · rintro ⟨x, hx⟩
    refine configured_of_latest hb hx fun earlier text command horder hasked y hy => ?_
    cases command with
    | config setting =>
      cases setting <;> cases hy
      exact .inl rfl
    | setTargetTemperature kelvin rate => exact .inr (horder.temperature kelvin rate hasked)
    | _ => cases hy

variable {operation : String} {arguments : List String} {number : Nat}

lemma asked?_of_words (hw : Text.words text = operation :: arguments) :
    asked? text = (Command.read operation arguments).toOption := by
  simp [asked?, hw]

lemma plan_of_read (h : Command.read operation arguments = .ok command) :
    (Line.mk number operation arguments).plan c =
      (Script.plan c command).mapError fun complaint => complaint.onLine number := by
  simp [Line.plan, Line.command, Command.parse, h, Except.mapError, bind, Except.bind]

lemma exists_ok_of_mapError {α ε ε' : Type} {f : ε → ε'} {x : Except ε α} {a : α}
    (h : x.mapError f = .ok a) : x = .ok a := by
  cases x <;> cases h
  rfl

lemma exists_read_of_plan (h : (Line.mk number operation arguments).plan c = .ok step) :
    ∃ command, Command.read operation arguments = .ok command ∧
      Script.plan c command = .ok step := by
  rw [Line.plan_eq] at h
  have hplan := exists_ok_of_mapError h
  cases hread : Command.read operation arguments with
  | error complaint =>
    rw [hread] at hplan
    cases hplan
  | ok command =>
    rw [hread] at hplan
    exact ⟨command, rfl, hplan⟩

/-- A command has a plan exactly if the settings it needs are made. -/
lemma exists_plan_iff (hb : AllInOrder before) :
    (∃ step, Script.plan (configAfter before) command = .ok step) ↔
      (∀ name parameter targets, command = .startStep name parameter targets →
        Configured before .stepRelax ∧ Configured before .stepMeasure) ∧
      (∀ tesla rate, command = .setTargetField tesla rate → Configured before .currentField) ∧
      (∀ kelvin rate, command = .setTargetTemperature kelvin rate →
        Configured before .currentTemperature) := by
  cases command with
  | startStep name parameter targets =>
    rw [configured_iff_latest relax?_eq_some_iff, configured_iff_latest measure?_eq_some_iff]
    simp only [plan_startStep_eq_ok_iff]
    constructor
    · rintro ⟨_, _, _, hrelax, hmeasure, -⟩
      simpa using ⟨⟨_, hrelax⟩, _, hmeasure⟩
    · rintro ⟨h, -, -⟩
      obtain ⟨⟨relax, hrelax⟩, measure, hmeasure⟩ := h _ _ _ rfl
      exact ⟨_, relax, measure, hrelax, hmeasure, rfl⟩
  | setTargetField tesla rate =>
    rw [configured_field hb]
    simp only [plan_setTargetField_eq_ok_iff]
    constructor
    · rintro ⟨_, _, hfield, -⟩
      simpa using ⟨_, hfield⟩
    · rintro ⟨-, h, -⟩
      obtain ⟨current, hcurrent⟩ := h _ _ rfl
      exact ⟨_, current, hcurrent, rfl⟩
  | setTargetTemperature kelvin rate =>
    rw [configured_temperature hb]
    simp only [plan_setTargetTemperature_eq_ok_iff]
    constructor
    · rintro ⟨_, _, htemperature, -⟩
      simpa using ⟨_, htemperature⟩
    · rintro ⟨-, -, h⟩
      obtain ⟨current, hcurrent⟩ := h _ _ rfl
      exact ⟨_, current, hcurrent, rfl⟩
  | _ => simp [Script.plan]

/-- A text that asks for something is in order exactly if there is a plan for it. -/
lemma inOrder_iff_of_words (number : Nat) (hb : AllInOrder before)
    (hw : Text.words text = operation :: arguments) : InOrder before text ↔
      ∃ step, (Line.mk number operation arguments).plan (configAfter before) = .ok step := by
  have hasked := asked?_of_words hw
  constructor
  · intro h
    obtain ⟨command, hread⟩ := h.reads _ _ hw
    have hc : asked? text = some command := by rw [hasked, hread]; rfl
    obtain ⟨step, hplan⟩ : ∃ step, Script.plan (configAfter before) command = .ok step := by
      refine (exists_plan_iff hb).2 ⟨?_, ?_, ?_⟩
      · rintro name parameter targets rfl
        exact ⟨h.relax _ _ _ hc, h.measure _ _ _ hc⟩
      · rintro tesla rate rfl
        exact h.field _ _ hc
      · rintro kelvin rate rfl
        exact h.temperature _ _ hc
    exact ⟨step, by rw [plan_of_read hread, hplan]; rfl⟩
  · rintro ⟨step, h⟩
    obtain ⟨command, hread, hplan⟩ := exists_read_of_plan h
    obtain ⟨hsweep, hfield, htemperature⟩ := (exists_plan_iff hb).1 ⟨step, hplan⟩
    have hc {command' : Command} (h' : asked? text = some command') : command = command' := by
      rw [hasked, hread] at h'
      exact Option.some.inj h'
    refine ⟨fun operation' arguments' hw' => ?_, fun name parameter targets h' => ?_,
      fun name parameter targets h' => ?_, fun tesla rate h' => ?_, fun kelvin rate h' => ?_⟩
    · obtain ⟨rfl, rfl⟩ := List.cons.inj (hw.symm.trans hw')
      exact ⟨command, hread⟩
    · exact (hsweep _ _ _ (hc h')).1
    · exact (hsweep _ _ _ (hc h')).2
    · exact hfield _ _ (hc h')
    · exact htemperature _ _ (hc h')

lemma inOrder_of_blank (hw : Text.words text = []) : InOrder before text := by
  have hasked : asked? text = none := by simp [asked?, hw]
  constructor <;> simp [hw, hasked]

/-! ## Whole scripts -/

lemma allInOrder_nil : AllInOrder [] := by
  intro before text after h
  simp at h

lemma AllInOrder.concat (hb : AllInOrder before) (h : InOrder before text) :
    AllInOrder (before ++ [text]) := by
  intro earlier text' after heq
  rcases List.eq_nil_or_concat after with rfl | ⟨after, last, rfl⟩
  · obtain ⟨rfl, rfl⟩ : before = earlier ∧ text = text' := by simpa using List.append_inj' heq rfl
    exact h
  · have heq' : before ++ [text] = (earlier ++ text' :: after) ++ [last] := by simpa using heq
    exact hb earlier text' after (List.append_inj' heq' rfl).1

variable {sum sum' : Float}

lemma programFrom_cons_of_blank {rest : List String} (hw : Text.words text = []) :
    programFrom number (text :: rest) = programFrom (number + 1) rest := by
  simp [programFrom, Line.ofText?, hw]

lemma programFrom_cons_of_words {rest : List String}
    (hw : Text.words text = operation :: arguments) :
    programFrom number (text :: rest) =
      ⟨number, operation, arguments⟩ :: programFrom (number + 1) rest := by
  simp [programFrom, Line.ofText?, hw]

/-- Lines without a complaint are in order, leave behind the settings that were made last, and are
charged for one by one.

**Proof sketch.** Induction on the lines, over all that may stand before them. A blank line changes
nothing. Any other is in order because it has a plan, and the plan says what it leaves behind and
what it is charged. -/
theorem of_accumulate (hb : AllInOrder before)
    (h : accumulate (configAfter before) sum (programFrom (before.length + 1) texts) =
      .ok (c, sum')) :
    AllInOrder (before ++ texts) ∧ c = configAfter (before ++ texts) ∧
      ∃ charges : List Float,
        (commands before texts).map (fun p => seconds? p.1 p.2) = charges.map some ∧
          sum' = charges.foldl (· + ·) sum := by
  induction texts generalizing before sum with
  | nil =>
    obtain ⟨rfl, rfl⟩ : configAfter before = c ∧ sum = sum' := by
      simpa [programFrom, accumulate] using h
    rw [List.append_nil]
    exact ⟨hb, rfl, [], rfl, rfl⟩
  | cons text texts ih =>
    rw [List.append_cons]
    cases hw : Text.words text with
    | nil =>
      have hasked : asked? text = none := by simp [asked?, hw]
      rw [programFrom_cons_of_blank hw, ← configAfter_concat_of_none hasked] at h
      simpa [commands, hasked] using ih (hb.concat (inOrder_of_blank hw)) (by simpa using h)
    | cons operation arguments =>
      rw [programFrom_cons_of_words hw, accumulate_cons] at h
      cases hplan : (Line.mk (before.length + 1) operation arguments).plan (configAfter before) with
      | error fault =>
        rw [hplan] at h
        cases h
      | ok step =>
        rw [hplan] at h
        obtain ⟨command, hread, hstep⟩ := exists_read_of_plan hplan
        have hasked : asked? text = some command := by rw [asked?_of_words hw, hread]; rfl
        have hconfig : step.config = configAfter (before ++ [text]) := by
          rw [config_of_plan hstep, configAfter_concat hasked]
        obtain ⟨horder, hc, charges, hcharges, hsum⟩ :=
          ih (hb.concat ((inOrder_iff_of_words _ hb hw).2 ⟨step, hplan⟩))
            (by simpa [bind, Except.bind, hconfig] using h)
        refine ⟨horder, hc, step.charge :: charges, ?_, hsum⟩
        simp [commands, hasked, hcharges, charge_of_plan hstep]

/-- The line of a text in a script, and the lines of the texts before it. -/
lemma exists_of_programFrom_eq {first rest : List Line} {l : Line}
    (h : programFrom number texts = first ++ l :: rest) :
    ∃ before text after, texts = before ++ text :: after ∧ first = programFrom number before ∧
      Line.ofText? (number + before.length) text = some l := by
  induction texts generalizing number first with
  | nil => simp [programFrom] at h
  | cons text texts ih =>
    cases hw : Text.words text with
    | nil =>
      rw [programFrom_cons_of_blank hw] at h
      obtain ⟨before, text', after, rfl, rfl, hl⟩ := ih h
      refine ⟨text :: before, text', after, rfl, (programFrom_cons_of_blank hw).symm, ?_⟩
      rwa [List.length_cons, Nat.add_comm before.length, ← Nat.add_assoc]
    | cons operation arguments =>
      rw [programFrom_cons_of_words hw] at h
      cases first with
      | nil =>
        obtain ⟨rfl, -⟩ := List.cons.inj h
        exact ⟨[], text, texts, rfl, rfl, by simp [Line.ofText?, hw]⟩
      | cons k first =>
        obtain ⟨rfl, hrest⟩ := List.cons.inj h
        obtain ⟨before, text', after, rfl, rfl, hl⟩ := ih hrest
        refine ⟨text :: before, text', after, rfl, (programFrom_cons_of_words hw).symm, ?_⟩
        rwa [List.length_cons, Nat.add_comm before.length, ← Nat.add_assoc]

lemma words_of_ofText? {l : Line} (h : Line.ofText? number text = some l) :
    l.number = number ∧ Text.words text = l.operation :: l.arguments := by
  cases hw : Text.words text with
  | nil => simp [Line.ofText?, hw] at h
  | cons operation arguments =>
    obtain rfl : Line.mk number operation arguments = l := by simpa [Line.ofText?, hw] using h
    exact ⟨rfl, rfl⟩

variable {s : Script}

/-- The blanks around the lines of a text do not matter. -/
lemma program_load (source : String) :
    (Script.load source).program = programFrom 1 (Text.lines source) := by
  have htrim (number : Nat) (texts : List String) :
      programFrom number (texts.map Text.trim) = programFrom number texts := by
    induction texts generalizing number with
    | nil => rfl
    | cons text texts ih => simp [programFrom, ih, Line.ofText?, Text.words_trim]
  exact htrim 1 _

/-- A complaint about a script is about the first line that is out of order. -/
theorem exists_of_estimate_error {fault : LineFault} (hs : s.program = programFrom 1 texts)
    (h : estimate s = .error fault) :
    ∃ before text after, texts = before ++ text :: after ∧ AllInOrder before ∧
      ¬InOrder before text ∧ fault.line = before.length + 1 := by
  obtain ⟨first, l, rest, c, sum, hp, hacc, hl⟩ := exists_of_rehearse_error h
  obtain ⟨before, text, after, htexts, rfl, hline⟩ := exists_of_programFrom_eq (hs.symm.trans hp)
  obtain ⟨hnumber, hw⟩ := words_of_ofText? hline
  obtain ⟨hb, rfl, -⟩ := of_accumulate allInOrder_nil hacc
  refine ⟨before, text, after, htexts, hb, fun horder => ?_, ?_⟩
  · obtain ⟨step, hstep⟩ := (inOrder_iff_of_words l.number hb hw).1 horder
    cases hl.symm.trans hstep
  · rw [Line.line_of_plan_error hl, hnumber, Nat.add_comm]

/-- A script without a complaint is in order, and its estimate is what its commands are charged for
one by one, added up from the left. -/
theorem of_estimate {seconds : Float} (hs : s.program = programFrom 1 texts)
    (h : estimate s = .ok seconds) :
    AllInOrder texts ∧ ∃ charges : List Float,
      (commands [] texts).map (fun p => seconds? p.1 p.2) = charges.map some ∧
        seconds = charges.foldl (· + ·) 0 := by
  unfold estimate at h
  have happ := rehearse_append .empty 0 s.program []
  rw [List.append_nil, h, hs] at happ
  cases hacc : accumulate .empty 0 (programFrom 1 texts) with
  | error fault =>
    rw [hacc] at happ
    cases happ
  | ok reached =>
    rw [hacc] at happ
    cases happ
    obtain ⟨horder, -, hcharges⟩ := of_accumulate allInOrder_nil hacc
    exact ⟨horder, hcharges⟩

/-- A script has an estimate exactly if it is in order. -/
theorem exists_estimate_iff (hs : s.program = programFrom 1 texts) :
    (∃ seconds, estimate s = .ok seconds) ↔ AllInOrder texts := by
  refine ⟨fun ⟨_, h⟩ => (of_estimate hs h).1, fun h => ?_⟩
  cases he : estimate s with
  | ok seconds => exact ⟨seconds, rfl⟩
  | error fault =>
    obtain ⟨before, text, after, hlines, -, hnot, -⟩ := exists_of_estimate_error hs he
    exact absurd (h before text after hlines) hnot

end CryoRig.Script
