import Countersign.Settings

/-!
# Which value a setting ends with

Settings are made of steps in any order and number. A step that names a setting replaces it, and a
step that reads an environment fills it where it is missing. So after a run a setting is

* what the last step says that names it, whatever environments were read before or after;
* without such a step, what the first environment holds that defines its variable;
* else missing.

* `Setting` -- the eight settings, each with the type of its values;
* `Setting.get_apply` -- what one step leaves of a setting and what it brings;
* `Setting.get_run` -- what a run leaves and brings, from whatever settings it starts;
* `Environment.value?_ofTexts` -- what a variable holds that is assigned more than once;
* `named_over_environment` -- the run from blank settings, one setting after the other.
-/

namespace Countersign

namespace Settings

/-! ## 1. Settings, one by one -/

/-- One of the settings, with the type of its values. -/
inductive Setting : Type → Type
  | region : Setting String
  | service : Setting String
  | accessKeyId : Setting String
  | secretAccessKey : Setting String
  | algorithm : Setting String
  | doubleEncodePath : Setting Bool
  | signedNames : Setting (List String)
  | payloadMode : Setting PayloadMode

/-- The environment that a step reads. -/
def Step.environment? : Step → Option Environment
  | .environment e => some e
  | _ => none

namespace Setting

variable {α : Type}

/-- The value of a setting. -/
def get : Setting α → Settings → Option α
  | .region, s => s.region
  | .service, s => s.service
  | .accessKeyId, s => s.accessKeyId
  | .secretAccessKey, s => s.secretAccessKey
  | .algorithm, s => s.algorithm
  | .doubleEncodePath, s => s.doubleEncodePath
  | .signedNames, s => s.signedNames
  | .payloadMode, s => s.payloadMode

/-- The value that a step names for a setting. -/
def named? : Setting α → Step → Option α
  | .region, .region v => some v
  | .service, .service v => some v
  | .accessKeyId, .accessKeyId v => some v
  | .secretAccessKey, .secretAccessKey v => some v
  | .algorithm, .algorithm v => some v
  | .doubleEncodePath, .doubleEncodePath v => some v
  | .signedNames, .signedNames v => some v
  | .payloadMode, .payloadMode v => some v
  | _, _ => none

/-- The value that an environment has for a setting; none for a setting without a variable. -/
def defined? : Setting α → Environment → Option α
  | .region, e => e.value? regionVariable
  | .accessKeyId, e => e.value? accessKeyIdVariable
  | .secretAccessKey, e => e.value? secretAccessKeyVariable
  | _, _ => none

/-- **One step**: what it names, else what was there, else what it reads. -/
theorem get_apply (x : Setting α) (s : Settings) (step : Step) :
    x.get (s.apply step) =
      (x.named? step).or ((x.get s).or (step.environment?.bind x.defined?)) := by
  cases step with
  | environment e =>
    -- nothing is named; the settings with a variable are filled and the others stay
    cases x <;> simp [get, named?, apply, fill, Step.environment?, defined?, Option.orElse_eq_or]
  | _ => cases x <;> simp [get, named?, apply, Step.environment?]

end Setting

/-! ## 2. Runs -/

section Runs

variable {α : Type}

/-- The value of the last step that names a setting. -/
def lastNamed (x : Setting α) (steps : List Step) : Option α := (steps.filterMap x.named?).getLast?

/-- What the first environment holds that has a value by `read`, of those that steps read. -/
def firstRead (read : Environment → Option α) (steps : List Step) : Option α :=
  (steps.filterMap Step.environment?).findSome? read

@[simp] theorem lastNamed_nil (x : Setting α) : lastNamed x [] = none := rfl

@[simp] theorem firstRead_nil (read : Environment → Option α) : firstRead read [] = none := rfl

/-- A later step that names the setting wins. -/
theorem lastNamed_cons (x : Setting α) (step : Step) (steps : List Step) :
    lastNamed x (step :: steps) = (lastNamed x steps).or (x.named? step) := by
  unfold lastNamed
  cases h : x.named? step with
  | none => rw [List.filterMap_cons_none h, Option.or_none]
  | some v =>
    rw [List.filterMap_cons_some h, List.getLast?_cons]
    cases (steps.filterMap x.named?).getLast? <;> rfl

/-- An earlier environment wins. -/
theorem firstRead_cons (read : Environment → Option α) (step : Step) (steps : List Step) :
    firstRead read (step :: steps) = (step.environment?.bind read).or (firstRead read steps) := by
  unfold firstRead
  cases h : step.environment? with
  | none => rw [List.filterMap_cons_none h, Option.bind_none, Option.none_or]
  | some e =>
    rw [List.filterMap_cons_some h, List.findSome?_cons, Option.bind_some]
    cases read e <;> rfl

/-- **A run**: what its last step says that names the setting, else what was there before, else what
    the first environment has for it. -/
theorem Setting.get_run (x : Setting α) (s : Settings) (steps : List Step) :
    x.get (s.run steps) = (lastNamed x steps).or ((x.get s).or (firstRead x.defined? steps)) := by
  induction steps generalizing s with
  | nil => rw [run_nil, lastNamed_nil, firstRead_nil, Option.none_or, Option.or_none]
  | cons step steps ih =>
    rw [run_cons, ih, x.get_apply, lastNamed_cons, firstRead_cons]
    simp only [Option.or_assoc]

/-- What no environment has a value for is not filled. -/
theorem firstRead_of_none (steps : List Step) :
    firstRead (fun _ => (none : Option α)) steps = none :=
  List.findSome?_eq_none_iff.2 fun _ _ => rfl

end Runs

end Settings

/-! ## 3. Environments of texts -/

namespace Environment

/-- The first entry of a name is found. -/
theorem lookup_eq_head? {β : Type} (name : String) (entries : List (String × β)) :
    entries.lookup name = (entries.filter fun p => p.1 = name).head?.map Prod.snd := by
  induction entries with
  | nil => rfl
  | cons p rest ih =>
    by_cases h : p.1 = name
    · subst h
      rw [List.lookup_cons_self, List.filter_cons_of_pos (by simp)]
      rfl
    · have hne : (name == p.1) = false := beq_false_of_ne (Ne.symm h)
      rw [List.lookup_cons, hne, List.filter_cons_of_neg (by simpa using h), ih]

/-- A variable has the value of its last assignment, and none where this is no text. -/
theorem value?_eq (e : Environment) (name : String) :
    e.value? name = (e.assignments.filter fun p => p.1 = name).getLast?.bind Prod.snd := by
  unfold value?
  rw [lookup_eq_head?, List.filter_reverse, List.head?_reverse]
  cases (e.assignments.filter fun p => p.1 = name).getLast? <;> rfl

/-- In an environment of texts it is the text of the last pair. -/
theorem value?_ofTexts (pairs : List (String × String)) (name : String) :
    (ofTexts pairs).value? name =
      (pairs.filter fun p => p.1 = name).getLast?.map Prod.snd := by
  rw [value?_eq]
  unfold ofTexts
  rw [List.filter_map, List.getLast?_map]
  show Option.bind (Option.map _ (pairs.filter fun p => p.1 = name).getLast?) Prod.snd = _
  cases (pairs.filter fun p => p.1 = name).getLast? <;> rfl

end Environment

/-! ## 4. The run from blank settings -/

namespace Settings

/-- **What is named wins over every environment, and of environments the first one.** After any
    steps, each of the three settings with a variable is what its last naming step says, else what
    the first environment that defines the variable holds, else missing; the others are what their
    last naming step says. A variable of an environment of texts has the text of its last pair. -/
theorem named_over_environment (steps : List Step) :
    let s := blank.run steps
    s.region = (lastNamed .region steps).or (firstRead (·.value? regionVariable) steps) ∧
      s.accessKeyId =
        (lastNamed .accessKeyId steps).or (firstRead (·.value? accessKeyIdVariable) steps) ∧
      s.secretAccessKey =
        (lastNamed .secretAccessKey steps).or (firstRead (·.value? secretAccessKeyVariable) steps) ∧
      s.service = lastNamed .service steps ∧ s.algorithm = lastNamed .algorithm steps ∧
      s.doubleEncodePath = lastNamed .doubleEncodePath steps ∧
      s.signedNames = lastNamed .signedNames steps ∧
      s.payloadMode = lastNamed .payloadMode steps ∧
      ∀ pairs name, (Environment.ofTexts pairs).value? name =
        (pairs.filter fun p => p.1 = name).getLast?.map Prod.snd := by
  intro s
  have hread : ∀ {α : Type} (x : Setting α), x.get blank = none →
      x.get s = (lastNamed x steps).or (firstRead x.defined? steps) := by
    intro α x hx
    rw [x.get_run, hx, Option.none_or]
  have hnamed : ∀ {α : Type} (x : Setting α), x.get blank = none →
      x.defined? = (fun _ => none) → x.get s = lastNamed x steps := by
    intro α x hx hd
    rw [hread x hx, hd, firstRead_of_none, Option.or_none]
  exact ⟨hread .region rfl, hread .accessKeyId rfl, hread .secretAccessKey rfl,
    hnamed .service rfl rfl, hnamed .algorithm rfl rfl, hnamed .doubleEncodePath rfl rfl,
    hnamed .signedNames rfl rfl, hnamed .payloadMode rfl rfl, Environment.value?_ofTexts⟩

/-- Environments before and behind the step that names the region. -/
example : (blank.run [.environment (.ofTexts [(regionVariable, "a")]), .region "b", .service "c",
    .environment (.ofTexts [(regionVariable, "d")])]).region = some "b" := by decide

end Settings

end Countersign
