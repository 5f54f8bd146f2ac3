import Mathlib.Data.List.Sort
import ReliabilityLab.Foundation.JsonEquality
import ReliabilityLab.Tools.Incident

namespace ReliabilityLab

/-- How a request fails: an `ApiError`, or an exception of Python that `handle` turns into one. -/
inductive MobileError where
  | api (status : Nat) (code message : String)
  | raised (error : Exn)
  deriving DecidableEq

/-- The status and the code that the client gets to see. -/
def MobileError.answer : MobileError → Nat × String
  | .api status code _ => (status, code)
  | .raised _ => (409, "evidence_invalid")

namespace Mobile

def keyError {α : Type} : Except MobileError α := .error (.raised .lookupError)

def typeError {α : Type} : Except MobileError α := .error (.raised (.other "TypeError"))

def valueError {α : Type} : Except MobileError α := .error (.raised .valueError)

/-- `value[key]`. -/
def item (value : Json) (key : String) : Except MobileError Json :=
  match value with
  | .obj items =>
    match items.lookup key with
    | some found => .ok found
    | none => keyError
  | _ => typeError

/-- `sequence[index]` behind `index < len(sequence)`; a dict of JSON has no number as key. -/
def entry (sequence : Json) (index : Nat) : Except MobileError (Option Json) :=
  match sequence with
  | .arr items => .ok items[index]?
  | .str text => .ok (text.toList[index]?.map fun c => .str (String.singleton c))
  | .obj items => if index < items.length then keyError else .ok none
  | _ => typeError

/-- What `for item in value` runs over. -/
def elements (value : Json) : Except MobileError (List Json) :=
  match value with
  | .arr items => .ok items
  | .str text => .ok (text.toList.map fun c => .str (String.singleton c))
  | .obj items => .ok (items.map fun entry => .str entry.1)
  | _ => typeError

/-- `_digest`. -/
def digest (sha256 : Json → String) (value : Json) : Except MobileError String :=
  match canonicalJsonDigest sha256 value with
  | .ok text => .ok text
  | .error error => .error (.raised error)

/-- `_text`. -/
def isText (value : Json) (maximum : Nat) : Bool :=
  match value with
  | .str text => 1 ≤ text.length && text.length ≤ maximum
  | _ => false

/-- `_identifier`. -/
def isIdentifier (value : Json) : Bool :=
  match value with
  | .str text =>
    isText value 128 && text.toList.all (fun c => ('a' ≤ c ∧ c ≤ 'z') || ('0' ≤ c ∧ c ≤ '9') || c = '-') &&
      text.toList.head? ≠ some '-'
  | _ => false

/-- `bool(value)`. -/
def truthy (value : Json) : Bool :=
  match value with
  | .null => false
  | .bool flag => flag
  | .int number => number ≠ 0
  | .float number => number ≠ .finite 0
  | .str text => text ≠ ""
  | .arr items => !items.isEmpty
  | .obj items => !items.isEmpty

/-- The value is this text. -/
def named (value : Json) (text : String) : Bool := Json.str text == value

@[simp] theorem named_iff {value : Json} {text : String} : named value text = true ↔ value = .str text := Json.beq_str

def isQuery (name : Json) : Bool :=
  named name "get_service_health" || named name "search_recent_logs" || named name "get_deployment"

def isRollback (name : Json) : Bool := named name "prepare_rollback"

/-- `_tool_input`; a name that cannot be hashed raises. -/
def toolInput (name arguments : Json) : Except MobileError Bool :=
  if name.hashable then
    if isQuery name then .ok (arguments == .obj [])
    else if isRollback name then
      match arguments with
      | .obj items => .ok (items.all (·.1 = "deployment_id") && (items.lookup "deployment_id").any (isText · 128))
      | _ => .ok false
    else .ok false
  else typeError

/-- `_tool_output`, for the names that `_tool_input` lets through. -/
def toolOutput (name arguments : Json) : Json :=
  if named name "get_service_health" then healthFixture
  else if named name "search_recent_logs" then logsFixture
  else if named name "get_deployment" then deploymentFixture
  else rollbackFixture (((arguments.obj?.getD []).lookup "deployment_id").getD .null)

/-- `set(value) == set(names)`. -/
def hasKeys (value : Dict) (names : List String) : Bool :=
  value.all (·.1 ∈ names) && names.all fun name => (value.lookup name).isSome

def textValues (value : Dict) : Bool := value.all (·.2.str?.isSome)

def logItem (value : Json) : Bool :=
  match value with
  | .obj items => hasKeys items ["level", "message"] && textValues items
  | _ => false

/-- `_valid_output`. -/
def validOutput (name output : Json) : Bool :=
  match output with
  | .obj items =>
    if named name "get_service_health" then hasKeys items ["service", "status"] && textValues items
    else if named name "get_deployment" then hasKeys items ["deployment_id", "version"] && textValues items
    else if isRollback name then
      hasKeys items ["deployment_id", "prepared"] && ((items.lookup "deployment_id").any (·.str?.isSome)) &&
        (items.lookup "prepared").any (·.bool?.isSome)
    else if named name "search_recent_logs" then
      hasKeys items ["entries"] && match items.lookup "entries" with
        | some (.arr entries) => entries.all logItem
        | _ => false
    else false
  | _ => false

end Mobile

/-- The packaged catalog of one instance, as accepted at its construction. -/
structure MobileApp where
  scenarios : List (Json × Dict)
  suiteHash : String
  metadata : Json
  six : scenarios.length = 6
  dicts : ∀ entry ∈ scenarios, (Json.obj entry.2).wellFormed = true

namespace MobileApp
open Mobile

/-- `d[key] = value` for keys that are JSON values: an equal key stays as it is. -/
def putScenario (scenarios : List (Json × Dict)) (key : Json) (scenario : Dict) : List (Json × Dict) :=
  if scenarios.any (·.1 == key) then
    scenarios.map fun entry => if entry.1 == key then (entry.1, scenario) else entry
  else scenarios ++ [(key, scenario)]

/-- `{item["scenario"]["id"]: item["scenario"] for item in items}`. -/
def collectScenarios : List Json → List (Json × Dict) → Except MobileError (List (Json × Dict))
  | [], scenarios => .ok scenarios
  | packaged :: rest, scenarios => do
    let scenario ← item packaged "scenario"
    let key ← item scenario "id"
    match scenario with
    | .obj fields => if key.hashable then collectScenarios rest (putScenario scenarios key fields) else typeError
    | _ => typeError

theorem item_wellFormed {value found : Json} {key : String} (clean : value.wellFormed = true)
    (read : item value key = .ok found) : found.wellFormed = true := by
  unfold item at read
  split at read
  · rename_i items
    simp only [Json.wellFormed, Bool.and_eq_true] at clean
    split at read
    · rename_i known there
      cases read
      exact Json.wellFormed_lookup clean.2 there
    · cases read
  · cases read

theorem elements_wellFormed {value : Json} {values : List Json} (clean : value.wellFormed = true)
    (read : elements value = .ok values) : ∀ inner ∈ values, inner.wellFormed = true := by
  have members : ∀ items : List Json, Json.wellFormedList items = true → ∀ inner ∈ items, inner.wellFormed = true := by
    intro items all
    induction items with
    | nil => simp
    | cons first rest ih =>
      simp only [Json.wellFormedList, Bool.and_eq_true] at all
      exact List.forall_mem_cons.mpr ⟨all.1, ih all.2⟩
  unfold elements at read
  split at read <;> cases read
  · exact members _ (by simpa [Json.wellFormed] using clean)
  · intro inner listed
    obtain ⟨c, -, rfl⟩ := List.mem_map.mp listed
    rfl
  · intro inner listed
    obtain ⟨entry, -, rfl⟩ := List.mem_map.mp listed
    rfl

theorem putScenario_dicts {scenarios : List (Json × Dict)} {key : Json} {scenario : Dict}
    (dicts : ∀ entry ∈ scenarios, (Json.obj entry.2).wellFormed = true) (new : (Json.obj scenario).wellFormed = true) :
    ∀ entry ∈ putScenario scenarios key scenario, (Json.obj entry.2).wellFormed = true := by
  intro entry listed
  unfold putScenario at listed
  split at listed
  · obtain ⟨old, there, rfl⟩ := List.mem_map.mp listed
    split
    · exact new
    · exact dicts old there
  · rcases List.mem_append.mp listed with old | added
    · exact dicts entry old
    · rw [List.mem_singleton.mp added]
      exact new

theorem collectScenarios_dicts {items : List Json} {scenarios collected : List (Json × Dict)}
    (clean : ∀ packaged ∈ items, packaged.wellFormed = true)
    (dicts : ∀ entry ∈ scenarios, (Json.obj entry.2).wellFormed = true)
    (done : collectScenarios items scenarios = .ok collected) :
    ∀ entry ∈ collected, (Json.obj entry.2).wellFormed = true := by
  induction items generalizing scenarios with
  | nil =>
    cases done
    exact dicts
  | cons packaged rest ih =>
    rw [List.forall_mem_cons] at clean
    rw [collectScenarios] at done
    cases read : item packaged "scenario" with
    | error error =>
      rw [read] at done
      cases done
    | ok scenario =>
      rw [read] at done
      cases named : item scenario "id" with
      | error error =>
        simp only [bind, Except.bind, named] at done
        cases done
      | ok key =>
        simp only [bind, Except.bind, named] at done
        split at done
        · split at done
          · exact ih clean.2 (putScenario_dicts dicts (item_wellFormed clean.1 read)) done
          · cases done
        · cases done

/-- `__init__`, as far as the package goes. A catalog that was read has no key twice. -/
def create (sha256 : Json → String) (catalog metadata : Json) (clean : catalog.wellFormed = true) :
    Except MobileError MobileApp :=
  match packed : item catalog "scenarios" with
  | .error error => .error error
  | .ok packaged => do
    let suite ← digest sha256 packaged
    let suiteHash ← item catalog "suite_hash"
    let format := ((catalog.obj?.getD []).lookup "format").getD .null
    if (Json.str "arl-scenarios/v1" == format) && (Json.str suite == suiteHash) then
      match listed : elements packaged with
      | .error error => .error error
      | .ok items =>
        match collected : collectScenarios items [] with
        | .error error => .error error
        | .ok scenarios =>
          if six : scenarios.length = 6 then
            .ok ⟨scenarios, suite, metadata, six,
              collectScenarios_dicts (elements_wellFormed (item_wellFormed clean packed) listed) (by simp) collected⟩
          else valueError
    else valueError

variable (app : MobileApp)

/-- `self.scenarios.get(key)`. -/
def scenario? (key : Json) : Option Dict := (app.scenarios.find? (·.1 == key)).map (·.2)

/-- `a <= b` for two scenario ids; ids of different kinds cannot be compared. -/
def idLe (a b : Json) : Option Bool :=
  match a, b with
  | .str x, .str y => some (x ≤ y)
  | _, _ =>
    match a.number?, b.number? with
    | some (.finite x), some (.finite y) => some (x ≤ y)
    | _, _ => none

/-- `sorted(self.scenarios.values(), key=lambda item: item["id"])`. -/
def sortedScenarios : Except MobileError (List Dict) := do
  let keyed ← app.scenarios.mapM fun entry => (item (.obj entry.2) "id").map fun id => (id, entry.2)
  if keyed.all fun a => keyed.all fun b => (idLe a.1 b.1).isSome then
    pure ((keyed.insertionSort fun a b => idLe a.1 b.1 = some true).map (·.2))
  else typeError

end MobileApp

end ReliabilityLab
