import ReliabilityLab.Mobile.Convergence

namespace ReliabilityLab

open Mobile MobileApp

namespace MobileStore
variable {store next : MobileStore} {evaluation : MobileEvaluation}

theorem find_evaluation (stored : evaluation ∈ store.evaluations) :
    store.evaluations.find? (·.evaluationId = evaluation.evaluationId) = some evaluation := by
  cases found : store.evaluations.find? (·.evaluationId = evaluation.evaluationId) with
  | none => simpa using List.find?_eq_none.mp found evaluation stored
  | some known =>
    have same : known.evaluationId = evaluation.evaluationId := by simpa using List.find?_some found
    rw [List.inj_on_of_nodup_map store.evaluation_ids (List.mem_of_find?_eq_some found) stored same]

theorem insertEvaluation_appends (inserted : store.insertEvaluation evaluation = .ok next) :
    next.evaluations = store.evaluations ++ [evaluation] := by
  unfold insertEvaluation at inserted
  split at inserted
  · split at inserted <;> cases inserted
    rfl
  · cases inserted

theorem insertRun_evaluations {rows : RunRows} (inserted : store.insertRun rows = .ok next) :
    next.evaluations = store.evaluations := by
  unfold insertRun at inserted
  split at inserted <;> cases inserted
  rfl

theorem transact_evaluations {id : Uuid} {body : RunRows → Except MobileError RunRows}
    (done : store.transact id body = .ok next) : next.evaluations = store.evaluations := by
  obtain ⟨rows, new, -, -, rfl⟩ := transact_ok done
  rfl

/-- Every run that the evaluation refers to is over. -/
def Over (store : MobileStore) (evaluation : MobileEvaluation) : Prop :=
  ∀ reference ∈ evaluation.runs, ∃ rows, store.rows? reference.1 = some rows ∧ rows.run.status.terminal = true

end MobileStore

section Evaluations
variable {sha256 : Json → String} {apps : MobileApp → Prop} {op : MobileOp} {reading : MobileReading}
  {store next : MobileStore} {evaluation : MobileEvaluation}
  {w v : World Nat MobileOp MobileOp.Answer MobileError (Nat × Json) MobileReading MobileStore}

theorem committed_evaluations {α : Type} {value : α} {result : Except MobileError MobileStore}
    (grows : ∀ next, result = .ok next → evaluation ∈ next.evaluations) (stored : evaluation ∈ store.evaluations) :
    evaluation ∈ (committed store value result).2.evaluations := by
  rcases committed_store store value result with same | done
  · rwa [same]
  · exact grows _ done

/-- No operation takes an evaluation away. -/
theorem apply_evaluations (stored : evaluation ∈ store.evaluations) :
    evaluation ∈ (op.apply sha256 reading store).2.evaluations := by
  cases op with
  | create run =>
    refine committed_evaluations (fun next inserted => ?_) stored
    rwa [MobileStore.insertRun_evaluations inserted]
  | advance app id =>
    refine committed_evaluations (fun next done => ?_) stored
    rwa [MobileStore.transact_evaluations done]
  | decide app id decision =>
    refine committed_evaluations (fun next done => ?_) stored
    rwa [MobileStore.transact_evaluations done]
  | record other =>
    refine committed_evaluations (fun next inserted => ?_) stored
    rw [MobileStore.insertEvaluation_appends inserted]
    exact List.mem_append_left _ stored
  | loadRun id =>
    simp only [MobileOp.apply]
    split <;> exact stored
  | loadEvaluation id =>
    simp only [MobileOp.apply]
    split <;> exact stored
  | fresh | loadEvents | listEvaluations => exact stored

theorem evaluation_stays (leads : Machine.Leads (mobileSystem sha256 apps) w v)
    (stored : evaluation ∈ w.state.evaluations) : evaluation ∈ v.state.evaluations := by
  induction leads with
  | refl => exact stored
  | tail _ move ih =>
    cases move with
    | start | issue | finish | crash => exact ih
    | @commit p op next reading answer t issued performed =>
      rcases performed with performed | ⟨rfl, -⟩
      · have same : t = (op.apply sha256 reading _).2 := congrArg Prod.snd performed
        rw [same]
        exact apply_evaluations ih
      · exact ih
    | ambient moved => exact moved.elim

end Evaluations

/-- The reads of certain runs and of their events. -/
def ReadsRuns (ids : List Uuid) : MobileOp → Prop
  | .loadRun id => id ∈ ids
  | .loadEvents id => id ∈ ids
  | _ => False

/-- A run that is read is the one that was asked for. -/
def NamedRun : (op : MobileOp) → op.Answer → Prop
  | .loadRun id, .ok run => run.id = id
  | _, _ => True

section Reads
variable {sha256 : Json → String} {app : MobileApp} {ids : List Uuid} {α : Type}

/-- The program reads these runs and nothing else. -/
abbrev Reader (ids : List Uuid) (program : MobileProgram α) : Prop :=
  program.Within (ReadsRuns ids) NamedRun (fun _ => True) (fun _ => True)

theorem reader_ofExcept {result : Except MobileError α} : Reader ids (.ofExcept result : MobileProgram α) :=
  Program.within_ofExcept (fun _ _ => trivial) fun _ _ => trivial

theorem reader_loadEvents {id : Uuid} (listed : id ∈ ids) : Reader ids (request (.loadEvents id)) :=
  Program.within_ask listed (fun _ _ _ _ => trivial) fun _ _ _ _ => trivial

theorem reader_verifiedCase {reference : Uuid × String} (listed : reference.1 ∈ ids) :
    Reader ids (app.verifiedCase sha256 reference) := by
  have loaded : (request (.loadRun reference.1)).Within (ReadsRuns ids) NamedRun (fun run => run.id = reference.1)
      (fun _ => True) := by
    refine Program.within_ask listed (fun answer run named same => ?_) fun _ _ _ _ => trivial
    subst same
    exact named
  refine Program.within_bind loaded fun run same => ?_
  have here : run.id ∈ ids := same ▸ listed
  refine Program.within_bind (Program.within_bind (reader_loadEvents here) fun _ _ => reader_ofExcept) fun found _ => ?_
  split
  · exact Program.within_bind (reader_loadEvents here) fun _ _ =>
      Program.within_bind (reader_loadEvents here) fun _ _ => reader_ofExcept
  · trivial

theorem reader_verifiedCases {references : List (Uuid × String)} (listed : ∀ reference ∈ references, reference.1 ∈ ids) :
    Reader ids (app.verifiedCases sha256 references) := by
  induction references with
  | nil => trivial
  | cons reference rest ih =>
    rw [List.forall_mem_cons] at listed
    exact Program.within_bind (reader_verifiedCase listed.1) fun _ _ => Program.within_bind (ih listed.2) fun _ _ => trivial

theorem reader_report (evaluation : MobileEvaluation) :
    Reader (evaluation.runs.map (·.1)) (app.report sha256 evaluation) := by
  unfold report
  split
  · exact Program.within_bind (reader_verifiedCases fun _ listed => List.mem_map_of_mem listed) fun _ _ => reader_ofExcept
  · trivial

/-- Databases with the same rows of some runs answer the reads of these runs alike. -/
theorem reads_agree {s t : MobileStore} {op : MobileOp} (same : ∀ id ∈ ids, t.rows? id = s.rows? id)
    (reads : ReadsRuns ids op) (reading reading' : MobileReading) :
    NamedRun op (op.apply sha256 reading s).1 ∧ (op.apply sha256 reading s).2 = s ∧
      (op.apply sha256 reading' t).2 = t ∧ (op.apply sha256 reading' t).1 = (op.apply sha256 reading s).1 := by
  cases op with
  | loadRun id =>
    simp only [MobileOp.apply, same id reads]
    cases found : s.rows? id with
    | none => exact ⟨trivial, rfl, rfl, rfl⟩
    | some rows => exact ⟨(MobileStore.mem_of_rows? found).2, rfl, rfl, rfl⟩
  | loadEvents id =>
    refine ⟨trivial, rfl, rfl, ?_⟩
    simp only [MobileOp.apply, MobileStore.events, same id reads]
  | fresh | create | advance | decide | record | loadEvaluation | listEvaluations => exact reads.elim

/-- A report is a function of the runs that the evaluation refers to, and changes nothing. -/
theorem report_agrees {evaluation : MobileEvaluation} {s t : MobileStore} {readings : Nat → MobileReading}
    (same : ∀ reference ∈ evaluation.runs, t.rows? reference.1 = s.rows? reference.1) (clock other : Nat) :
    ((app.report sha256 evaluation).execute (MobileOp.apply sha256) readings (clock, s)).2.2 = s ∧
    ((app.report sha256 evaluation).execute (MobileOp.apply sha256) readings (other, t)).2.2 = t ∧
    ((app.report sha256 evaluation).execute (MobileOp.apply sha256) readings (other, t)).1 =
      ((app.report sha256 evaluation).execute (MobileOp.apply sha256) readings (clock, s)).1 := by
  have listed : ∀ id ∈ evaluation.runs.map (·.1), t.rows? id = s.rows? id := by
    intro id inside
    obtain ⟨reference, there, rfl⟩ := List.mem_map.mp inside
    exact same reference there
  exact Program.execute_agree (reader_report evaluation) fun op reading reading' reads =>
    reads_agree listed reads reading reading'

theorem request_ok {op : MobileOp} {value : op.Value} {readings : Nat → MobileReading} {here after : Nat × MobileStore}
    (done : (request op).execute (MobileOp.apply sha256) readings here = (.ok value, after)) :
    op.apply sha256 (readings here.1) here.2 = (.ok value, after.2) := by
  obtain ⟨answer, middle, asked, read⟩ := Program.execute_bind_ok.mp done
  obtain ⟨same, rfl⟩ := Program.execute_ofExcept_ok.mp read
  cases asked
  exact Prod.ext same rfl

/-- An evaluation that was carried out is stored, and its report is the one that was answered. -/
theorem evaluate_ok {report : Json} {readings : Nat → MobileReading} {here after : Nat × MobileStore}
    (done : (app.evaluate sha256).execute (MobileOp.apply sha256) readings here = (.ok report, after)) :
    ∃ evaluation clock, evaluation ∈ after.2.evaluations ∧
      (app.report sha256 evaluation).execute (MobileOp.apply sha256) readings (clock, after.2) = (.ok report, after) := by
  obtain ⟨reading, first, -, done⟩ := Program.execute_bind_ok.mp done
  obtain ⟨provenance, second, -, done⟩ := Program.execute_bind_ok.mp done
  obtain ⟨scenarios, third, -, done⟩ := Program.execute_bind_ok.mp done
  obtain ⟨runs, fourth, -, done⟩ := Program.execute_bind_ok.mp done
  obtain ⟨_, ⟨clock, stored⟩, recorded, done⟩ := Program.execute_bind_ok.mp done
  have inserted := committed_ok (request_ok recorded)
  have unchanged : ((app.report sha256 ⟨reading.id, reading.supply.now, runs, provenance⟩).execute
      (MobileOp.apply sha256) readings (clock, stored)).2.2 = stored := (report_agrees (fun _ _ => rfl) clock clock).1
  rw [done] at unchanged
  subst unchanged
  refine ⟨_, clock, ?_, done⟩
  rw [MobileStore.insertEvaluation_appends inserted]
  exact List.mem_append_right _ (List.mem_singleton_self _)

theorem report_named {evaluation : MobileEvaluation} {report : Json} {readings : Nat → MobileReading}
    {here after : Nat × MobileStore}
    (done : (app.report sha256 evaluation).execute (MobileOp.apply sha256) readings here = (.ok report, after)) :
    ∃ fields, report = .obj (("evaluation_id", .str (Uuid.text evaluation.evaluationId)) :: fields) := by
  unfold MobileApp.report at done
  split at done
  · obtain ⟨cases, middle, -, done⟩ := Program.execute_bind_ok.mp done
    obtain ⟨rendered, -⟩ := Program.execute_ofExcept_ok.mp done
    unfold reportJson at rendered
    dsimp only at rendered
    split at rendered <;> cases rendered
    exact ⟨_, rfl⟩
  · cases done

theorem posted_ok {query : Query} {body report : Json} {status : Nat} {readings : Nat → MobileReading}
    {here after : Nat × MobileStore}
    (posted : app.handle sha256 readings (.evaluate query body) here = (.ok (status, report), after)) :
    status = 201 ∧ ∃ middle, (app.evaluate sha256).execute (MobileOp.apply sha256) readings middle = (.ok report, after) := by
  obtain ⟨_, first, -, posted⟩ := Program.execute_bind_ok.mp posted
  obtain ⟨items, second, -, posted⟩ := Program.execute_bind_ok.mp posted
  dsimp only at posted
  split at posted
  · split at posted
    · obtain ⟨value, third, done, posted⟩ := Program.execute_bind_ok.mp posted
      cases posted
      exact ⟨rfl, second, done⟩
    · cases posted
  · obtain ⟨refused, -⟩ := Program.execute_ofExcept_ok.mp posted
    cases refused

/-- The report that an evaluation answers is read back as it was, whatever requests come in between and wherever
they are interrupted, if the runs of the evaluation were over by then. -/
theorem posted_report_stays {query : Query} {body report : Json} {status clock after : Nat}
    {readings : Nat → MobileReading} {s t : MobileStore}
    (posted : app.handle sha256 readings (.evaluate query body) (clock, s) = (.ok (status, report), after, t)) :
    status = 201 ∧ ∃ evaluation ∈ t.evaluations,
      (∃ fields, report = .obj (("evaluation_id", .str (Uuid.text evaluation.evaluationId)) :: fields)) ∧
      (t.Over evaluation → ∀ apps w v, w.state = t → Machine.Leads (mobileSystem sha256 apps) w v → ∀ later, ∃ last,
        app.handle sha256 readings (.getEvaluation evaluation.evaluationId []) (later, v.state) =
          (.ok (200, report), last, v.state)) := by
  obtain ⟨created, middle, evaluated⟩ := posted_ok posted
  obtain ⟨evaluation, start, stored, reported⟩ := evaluate_ok evaluated
  refine ⟨created, evaluation, stored, report_named reported, ?_⟩
  rintro stopped apps w v rfl leads later
  have same : ∀ reference ∈ evaluation.runs, v.state.rows? reference.1 = w.state.rows? reference.1 := by
    intro reference listed
    obtain ⟨rows, found, ended⟩ := stopped reference listed
    rw [found, terminal_stays leads found ended]
  have rendered : ((app.report sha256 evaluation).execute (MobileOp.apply sha256) readings (start, w.state)).1 = .ok report :=
    congrArg Prod.fst reported
  obtain ⟨last, answered⟩ : ∃ last, (app.report sha256 evaluation).execute (MobileOp.apply sha256) readings
      (later + 1, v.state) = (.ok report, last, v.state) := by
    obtain ⟨-, unchanged, agrees⟩ := report_agrees same start (later + 1)
    exact ⟨_, Prod.ext (agrees.trans rendered) (Prod.ext rfl unchanged)⟩
  have there := MobileStore.find_evaluation (evaluation_stays leads stored)
  have loaded : (request (.loadEvaluation evaluation.evaluationId)).execute (MobileOp.apply sha256) readings
      (later, v.state) = (.ok evaluation, later + 1, v.state) := by
    refine Program.execute_bind_ok.mpr ⟨.ok evaluation, (later + 1, v.state), ?_, rfl⟩
    show (_, _, _) = _
    simp only [MobileOp.apply, there]
  have shown : ((app.report sha256 evaluation).bind fun shown => .ret (200, shown)).execute (MobileOp.apply sha256) readings
      (later + 1, v.state) = (.ok (200, report), last, v.state) :=
    Program.execute_bind_ok.mpr ⟨report, (last, v.state), answered, rfl⟩
  exact ⟨last, Program.execute_bind_ok.mpr ⟨(), (later, v.state), rfl,
    Program.execute_bind_ok.mpr ⟨evaluation, (later + 1, v.state), loaded, shown⟩⟩⟩

end Reads

/-! A package of six scenarios that finish at once. -/

namespace Sample

def plainCatalog : Json :=
  .obj [("format", .str "arl-scenarios/v1"), ("suite_hash", .str (hash .null)),
    ("scenarios", .arr (["zero", "one", "two", "three", "four", "five"].map fun id => scenario id [finishAction] []))]

def plainCreated : Except MobileError MobileApp := MobileApp.create hash plainCatalog metadata (by decide)

theorem plainCreated_ok : plainCreated.toOption.isSome = true := by decide +kernel

def plainApp : MobileApp := plainCreated.toOption.get plainCreated_ok

@[irreducible]
def evaluated : Except MobileError (Nat × Json) × Nat × MobileStore :=
  plainApp.handle hash readings (.evaluate [] (.obj [("suite", .str "incident-response")])) (0, MobileStore.empty)

theorem evaluated_eq : evaluated = plainApp.handle hash readings
    (.evaluate [] (.obj [("suite", .str "incident-response")])) (0, MobileStore.empty) := by
  unfold evaluated
  rfl

theorem evaluated_over : evaluated.2.2.evaluations.all (fun evaluation => evaluation.runs.all fun reference =>
    (evaluated.2.2.rows? reference.1).any (·.run.status.terminal)) = true := by decide +kernel

end Sample

theorem posted_report_stays_plain : ∃ report, Sample.evaluated.1 = .ok (201, report) ∧
    ∃ evaluation ∈ Sample.evaluated.2.2.evaluations, ∃ last,
      Sample.plainApp.handle Sample.hash Sample.readings (.getEvaluation evaluation.evaluationId [])
        (1000, Sample.evaluated.2.2) = (.ok (200, report), last, Sample.evaluated.2.2) := by
  have answers : Sample.evaluated.1.toOption.isSome = true := by decide +kernel
  obtain ⟨⟨status, report⟩, answered⟩ := Option.isSome_iff_exists.mp answers
  have parts : ∀ outcome : Except MobileError (Nat × Json) × Nat × MobileStore, ∀ answer, outcome.1 = answer →
      outcome = (answer, outcome.2.1, outcome.2.2) := by
    rintro ⟨_, _, _⟩ _ rfl
    rfl
  have posted := parts Sample.evaluated _ (ok_of_toOption answered)
  nth_rewrite 1 [Sample.evaluated_eq] at posted
  obtain ⟨rfl, evaluation, stored, -, stays⟩ := posted_report_stays posted
  have ended : Sample.evaluated.2.2.Over evaluation := by
    intro reference listed
    have all := List.all_eq_true.mp (List.all_eq_true.mp Sample.evaluated_over evaluation stored) reference listed
    simpa [Option.any_eq_true] using all
  let quiet : World Nat MobileOp MobileOp.Answer MobileError (Nat × Json) MobileReading MobileStore :=
    ⟨Sample.evaluated.2.2, fun _ => .idle⟩
  obtain ⟨last, read⟩ := stays ended (fun _ => True) quiet quiet rfl .refl 1000
  exact ⟨report, ok_of_toOption answered, evaluation, stored, last, read⟩

end ReliabilityLab

