import ReliabilityLab.Foundation.Rounding
import ReliabilityLab.Storage.TraceNumbers
import Mathlib.Data.List.Sort

namespace ReliabilityLab

/-- An intentional public failure. -/
structure ApiError where
  status : Nat
  code : String
  message : String
  deriving DecidableEq

structure TraceEventResponse where
  id : Uuid
  traceId : Uuid
  spanId : Uuid
  parentSpanId : Option Uuid
  sequence : Int
  eventType : EventType
  payload : Dict
  status : String

structure TracePage where
  events : List TraceEventResponse
  nextAfterSequence : Int
  hasMore : Bool

def traceStringKeys : List String :=
  ["tool_name", "code", "kind", "source", "actor", "outcome", "summary", "reason", "from_status"]

def traceIntegerKeys : List String := ["attempt", "after_attempt", "action_step", "step"]

def traceBooleanKeys : List String := ["transient", "cached", "allow"]

/-- `float(value)`; too large an integer raises. -/
def floatOfInt (value : Int) : Except Exn PyFloat :=
  match double.round value.natAbs with
  | some size => .ok (.finite (if value < 0 then -(size : ℚ) else size))
  | none => .error .overflow

/-- The items of `raw` under these keys whose values are of one type. -/
def typedItems (raw : Dict) (keys : List String) (typed : Json → Bool) : Dict :=
  keys.filterMap fun key => ((raw.lookup key).filter typed).map fun value => (key, value)

/-- The delay of a retry, always shown as a float. -/
def delayItems (raw : Dict) : Except Exn Dict :=
  match raw.lookup "retry_delay_seconds" with
  | some (.int delay) => (floatOfInt delay).map fun value => [("retry_delay_seconds", .float value)]
  | some (.float delay) => .ok [("retry_delay_seconds", .float delay)]
  | _ => .ok []

/-- `_trace_response`. -/
def traceResponse (event : EventRow) : Except Exn TraceEventResponse :=
  let raw := event.payload.obj?.getD []
  (delayItems raw).map fun delay => {
    id := event.id
    traceId := event.traceId
    spanId := event.spanId
    parentSpanId := event.parentSpanId
    sequence := event.sequence
    eventType := event.eventType
    payload := typedItems raw traceStringKeys (·.str?.isSome) ++ typedItems raw traceIntegerKeys (·.int?.isSome) ++
      typedItems raw traceBooleanKeys (·.bool?.isSome) ++ delay
    status := event.status }

/-- No integer delay is too large for a float; the gateway writes delays as floats only. -/
def FloatDelay (event : EventRow) : Prop :=
  ∀ delay : Int, (event.payload.obj?.getD []).lookup "retry_delay_seconds" = some (.int delay) →
    (double.round delay.natAbs).isSome

theorem traceResponse_ok {event : EventRow} (delay : FloatDelay event) : ∃ shown, traceResponse event = .ok shown := by
  have items : ∃ items, delayItems (event.payload.obj?.getD []) = .ok items := by
    unfold delayItems
    split
    · rename_i value found
      obtain ⟨size, fits⟩ := Option.isSome_iff_exists.mp (delay value found)
      rw [floatOfInt, fits]
      exact ⟨_, rfl⟩
    · exact ⟨_, rfl⟩
    · exact ⟨_, rfl⟩
  obtain ⟨items, done⟩ := items
  rw [traceResponse, done]
  exact ⟨_, rfl⟩

namespace Store

/-- `ORDER BY sequence, id`. -/
def Numbers (a b : EventRow) : Prop := a.sequence < b.sequence ∨ a.sequence = b.sequence ∧ a.id ≤ b.id

instance : DecidableRel Numbers := fun a b =>
  inferInstanceAs (Decidable (a.sequence < b.sequence ∨ a.sequence = b.sequence ∧ a.id ≤ b.id))

/-- `list_events_page`: one row more than the limit tells whether there are more. -/
def listEventsPage (st : Store) (traceId : Uuid) (afterSequence limit : Int) : Except Exn (List EventRow × Bool) :=
  if afterSequence < 0 then .error .valueError
  else if ¬ (1 ≤ limit ∧ limit ≤ 100) then .error .valueError
  else
    let later := (st.trace traceId).filter fun row => afterSequence < row.sequence
    let rows := (later.insertionSort Numbers).take (limit + 1).toNat
    .ok (rows.take limit.toNat, limit < rows.length)

end Store

/-- An exception that no handler knows. -/
def internalError : ApiError := ⟨500, "internal_error", "Internal server error."⟩

/-- An exception becomes the response of the last handler. -/
def served {α : Type} : Except Exn α → Except ApiError α
  | .ok value => .ok value
  | .error _ => .error internalError

namespace RunQueryService

/-- `_required`. -/
def required (st : Store) (runId : Uuid) : Except ApiError Run :=
  match st.runs runId with
  | some row => .ok row.payload
  | none => .error ⟨404, "run_not_found", "Run was not found."⟩

/-- `trace`: a page of public events, and the cursor behind it. -/
def trace (st : Store) (runId : Uuid) (afterSequence limit : Int) : Except ApiError TracePage := do
  let run ← required st runId
  let (events, hasMore) ← served (st.listEventsPage run.traceId afterSequence limit)
  let cursor := (events.getLast?.map fun event => (event.sequence : Int)).getD afterSequence
  let shown ← served (events.mapM traceResponse)
  pure ⟨shown, if cursor = 0 then afterSequence else cursor, hasMore⟩

end RunQueryService

/-- `GET /v1/runs/{run_id}/trace`; the query parameters are validated first. -/
def getTraceRequest (st : Store) (runId : Uuid) (afterSequence limit : Int) : Except ApiError TracePage :=
  if 0 ≤ afterSequence ∧ 1 ≤ limit ∧ limit ≤ 100 then RunQueryService.trace st runId afterSequence limit
  else .error ⟨422, "validation_error", "Request validation failed."⟩

/-! Pages of a trace whose events are numbered from one on. -/

/-- The numbers of a trace are `1..count`, in whatever order its rows are stored. -/
def NumberedTo (st : Store) (traceId : Uuid) (count : Nat) : Prop :=
  ((st.trace traceId).map (·.sequence)).Perm (List.range' 1 count)

namespace Store
variable {st : Store} {traceId : Uuid} {count : Nat}

/-- The rows of a trace in the order of their numbers. -/
def numbered (st : Store) (traceId : Uuid) : List EventRow := (st.trace traceId).insertionSort Numbers

theorem numbers_total : Std.Total Numbers := ⟨fun a b => by
  rcases Nat.lt_trichotomy a.sequence b.sequence with less | same | more
  · exact Or.inl (Or.inl less)
  · rcases Nat.le_total a.id b.id with le | le
    · exact Or.inl (Or.inr ⟨same, le⟩)
    · exact Or.inr (Or.inr ⟨same.symm, le⟩)
  · exact Or.inr (Or.inl more)⟩

theorem numbers_trans : IsTrans EventRow Numbers := ⟨fun a b c ab bc => by
  rcases ab with ab | ⟨ab, idAb⟩ <;> rcases bc with bc | ⟨bc, idBc⟩
  · exact Or.inl (ab.trans bc)
  · exact Or.inl (bc ▸ ab)
  · exact Or.inl (ab ▸ bc)
  · exact Or.inr ⟨ab.trans bc, idAb.trans idBc⟩⟩

theorem sort_sorted (rows : List EventRow) : (rows.insertionSort Numbers).Pairwise Numbers := by
  have total := numbers_total
  have trans := numbers_trans
  exact List.pairwise_insertionSort _ _

theorem mem_numbered {row : EventRow} : row ∈ st.numbered traceId ↔ row ∈ st.trace traceId := List.mem_insertionSort _

theorem numbered_sequences (trace : NumberedTo st traceId count) :
    (st.numbered traceId).map (·.sequence) = List.range' 1 count := by
  have same : ((st.numbered traceId).map (·.sequence)).Perm (List.range' 1 count) :=
    ((List.perm_insertionSort Numbers (st.trace traceId)).map _).trans trace
  refine same.eq_of_pairwise (fun a b _ _ (le : a ≤ b) (ge : b ≤ a) => Nat.le_antisymm le ge) ?_ ?_
  · refine List.pairwise_map.mpr ((sort_sorted (st.trace traceId)).imp fun {a b} order => ?_)
    rcases order with less | ⟨equal, _⟩ <;> omega
  · exact List.pairwise_le_range' 1

theorem numbered_length (trace : NumberedTo st traceId count) : (st.numbered traceId).length = count := by
  have sequences := congrArg List.length (numbered_sequences trace)
  rwa [List.length_map, List.length_range'] at sequences

/-- The rows of one trace are known by their numbers. -/
theorem NumberedTo.eq_of_sequence (trace : NumberedTo st traceId count) {a b : EventRow} (storedA : a ∈ st.trace traceId)
    (storedB : b ∈ st.trace traceId) (same : a.sequence = b.sequence) : a = b := by
  have distinct : ((st.trace traceId).map (·.sequence)).Nodup := trace.nodup_iff.mpr (List.nodup_range' 1)
  exact List.inj_on_of_nodup_map distinct storedA storedB same

/-- Of rows with consecutive numbers, those after a cursor are the tail behind it. -/
theorem filter_later {rows : List EventRow} {first : Nat} (sequences : rows.map (·.sequence) = List.range' first rows.length)
    (after : Nat) : rows.filter (fun row => decide ((after : Int) < row.sequence)) = rows.drop (after + 1 - first) := by
  induction rows generalizing first with
  | nil => simp
  | cons row rest ih =>
    rw [List.map_cons, List.length_cons, List.range'_succ, List.cons.injEq] at sequences
    obtain ⟨number, others⟩ := sequences
    have tail := ih others
    by_cases later : after < first
    · have none : after + 1 - first = 0 := by omega
      have none' : after + 1 - (first + 1) = 0 := by omega
      have kept : decide ((after : Int) < row.sequence) = true := decide_eq_true (by omega)
      rw [none'] at tail
      simp only [List.filter_cons, kept, if_true, tail, none, List.drop_zero]
    · have more : after + 1 - first = (after + 1 - (first + 1)) + 1 := by omega
      have dropped : decide ((after : Int) < row.sequence) = false := decide_eq_false (by omega)
      simp only [List.filter_cons, dropped, Bool.false_eq_true, if_false, tail, more, List.drop_succ_cons]

theorem later_sorted (trace : NumberedTo st traceId count) (after : Nat) :
    ((st.trace traceId).filter fun row => decide ((after : Int) < row.sequence)).insertionSort Numbers =
      (st.numbered traceId).drop after := by
  have sequences := numbered_sequences trace
  have length := numbered_length trace
  have counted : (st.numbered traceId).map (·.sequence) = List.range' 1 (st.numbered traceId).length := by
    rw [sequences, length]
  have cut := filter_later counted after
  rw [Nat.add_sub_cancel] at cut
  rw [← cut]
  have same := (List.perm_insertionSort Numbers _).trans
    ((List.perm_insertionSort Numbers (st.trace traceId)).filter fun row => decide ((after : Int) < row.sequence)).symm
  refine same.eq_of_pairwise (fun a b inA inB ab ba => ?_) (sort_sorted _) ((sort_sorted _).sublist List.filter_sublist)
  have storedA : a ∈ st.trace traceId := (List.mem_filter.mp ((List.mem_insertionSort _).mp inA)).1
  have storedB : b ∈ st.trace traceId := mem_numbered.mp (List.mem_filter.mp inB).1
  refine NumberedTo.eq_of_sequence trace storedA storedB ?_
  rcases ab with less | ⟨equal, _⟩
  · rcases ba with less' | ⟨equal', _⟩ <;> omega
  · exact equal

/-- A page is the next `limit` events behind the cursor, and knows whether any are left. -/
theorem listEventsPage_numbered (trace : NumberedTo st traceId count) (after limit : Nat) (valid : 1 ≤ limit ∧ limit ≤ 100) :
    st.listEventsPage traceId after limit =
      .ok (((st.numbered traceId).drop after).take limit, decide (limit + after < count)) := by
  have cursor : ¬ (after : Int) < 0 := by omega
  have inside : (1 : Int) ≤ limit ∧ (limit : Int) ≤ 100 := by omega
  have length := numbered_length trace
  have ahead : ((limit : Int) + 1).toNat = limit + 1 := by omega
  simp only [listEventsPage, if_neg cursor, inside, not_true, and_self, if_false, later_sorted trace, ahead, Int.toNat_natCast,
    List.take_take, Nat.min_eq_left (Nat.le_succ limit), List.length_take, List.length_drop, length]
  congr 2
  rw [decide_eq_decide]
  omega

end Store

theorem mapM_forall₂ {α β : Type} (render : α → Except Exn β) (rows : List α)
    (showable : ∀ row ∈ rows, ∃ shown, render row = .ok shown) :
    ∃ shown, rows.mapM render = .ok shown ∧ List.Forall₂ (fun row shown => render row = .ok shown) rows shown := by
  induction rows with
  | nil => exact ⟨[], rfl, .nil⟩
  | cons row rest ih =>
    obtain ⟨first, done⟩ := showable row List.mem_cons_self
    obtain ⟨others, rendered, related⟩ := ih fun other member => showable other (List.mem_cons_of_mem _ member)
    refine ⟨first :: others, ?_, .cons done related⟩
    rw [List.mapM_cons, done]
    simp [bind, Except.bind, rendered, pure, Except.pure]

/-- Rows and what the API shows of them. -/
def Shown (rows : List EventRow) (events : List TraceEventResponse) : Prop :=
  List.Forall₂ (fun row shown => traceResponse row = .ok shown) rows events

theorem traceResponse_sequence {row : EventRow} {shown : TraceEventResponse} (done : traceResponse row = .ok shown) :
    shown.sequence = row.sequence := by
  cases delay : delayItems (row.payload.obj?.getD []) with
  | error error =>
    simp only [traceResponse, delay] at done
    cases done
  | ok items =>
    simp only [traceResponse, delay] at done
    cases done
    rfl

theorem Shown.sequences {rows : List EventRow} {events : List TraceEventResponse} (shown : Shown rows events) :
    events.map (·.sequence) = rows.map fun row => (row.sequence : Int) := by
  induction shown with
  | nil => rfl
  | cons done _ ih => rw [List.map_cons, List.map_cons, ih, traceResponse_sequence done]

theorem Store.page_sequences {st : Store} {traceId : Uuid} {count : Nat} (trace : NumberedTo st traceId count)
    (after limit : Nat) : (((st.numbered traceId).drop after).take limit).map (·.sequence) =
      List.range' (after + 1) (min limit (count - after)) := by
  rw [List.map_take, List.map_drop, numbered_sequences trace, List.drop_range', Nat.mul_one, Nat.add_comm 1]
  rcases Nat.le_total limit (count - after) with less | more
  · rw [List.take_range'_of_length_ge less, Nat.min_eq_left less]
  · rw [List.take_range'_of_length_le more, Nat.min_eq_right more]

/-- The number of the last event of a page, or the cursor where the page is empty. -/
theorem Store.page_cursor {st : Store} {traceId : Uuid} {count : Nat} (trace : NumberedTo st traceId count)
    {after : Nat} (limit : Nat) (inside : after ≤ count) :
    (((((st.numbered traceId).drop after).take limit).getLast?.map fun event => (event.sequence : Int)).getD after) =
      (min (after + limit) count : Nat) := by
  have sequences := Store.page_sequences trace after limit
  have last : ∀ rows : List EventRow, rows.getLast?.map (fun event => (event.sequence : Int)) =
      (rows.map (·.sequence)).getLast?.map Int.ofNat := by
    intro rows
    rw [List.getLast?_map, Option.map_map]
    rfl
  rw [last, sequences, List.getLast?_range']
  split
  · simp only [Option.map_none, Option.getD_none]
    omega
  · simp only [Option.map_some, Option.getD_some, Int.ofNat_eq_natCast]
    omega

/-- What the endpoint answers for a cursor inside the trace. -/
theorem getTraceRequest_numbered {st : Store} {runId : Uuid} {row : RunRow} {count : Nat} (stored : st.runs runId = some row)
    (trace : NumberedTo st row.payload.traceId count)
    (delays : ∀ event ∈ st.trace row.payload.traceId, FloatDelay event)
    {after limit : Nat} (valid : 1 ≤ limit ∧ limit ≤ 100) (inside : after ≤ count) :
    ∃ page, getTraceRequest st runId after limit = .ok page ∧
      Shown (((st.numbered row.payload.traceId).drop after).take limit) page.events ∧
      page.nextAfterSequence = (min (after + limit) count : Nat) ∧ page.hasMore = decide (limit + after < count) := by
  have bounds : (0 : Int) ≤ after ∧ (1 : Int) ≤ limit ∧ (limit : Int) ≤ 100 := by omega
  obtain ⟨shown, rendered, related⟩ := mapM_forall₂ traceResponse
    (((st.numbered row.payload.traceId).drop after).take limit) fun event member =>
      traceResponse_ok (delays event (Store.mem_numbered.mp (List.mem_of_mem_drop (List.mem_of_mem_take member))))
  have cursor := Store.page_cursor trace limit inside
  have next : (if ((min (after + limit) count : Nat) : Int) = 0 then (after : Int) else (min (after + limit) count : Nat)) =
      (min (after + limit) count : Nat) := by
    split <;> omega
  refine ⟨⟨shown, (min (after + limit) count : Nat), decide (limit + after < count)⟩, ?_, related, rfl, rfl⟩
  rw [getTraceRequest, if_pos bounds]
  simp only [RunQueryService.trace, RunQueryService.required, stored, Store.listEventsPage_numbered trace after limit valid,
    served, rendered, bind, Except.bind, pure, Except.pure, cursor, next]

end ReliabilityLab
