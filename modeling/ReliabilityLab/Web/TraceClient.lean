import ReliabilityLab.Api.TracePages
import ReliabilityLab.Storage.Fencing

namespace ReliabilityLab

def tracePageSize : Nat := 100

def maxTraceEvents : Nat := 10000

/-- `Math.ceil(MAX_TRACE_EVENTS / TRACE_PAGE_SIZE)`. -/
def maxTracePages : Nat := (maxTraceEvents + tracePageSize - 1) / tracePageSize

structure ApiClientError where
  status : Nat
  code : String
  message : String
  deriving DecidableEq

def traceTooLarge : ApiClientError := ⟨502, "trace_too_large", "The trace exceeds the 10000-event dashboard limit."⟩

def invalidTracePage : ApiClientError := ⟨502, "invalid_trace_page", "The API returned an inconsistent trace page."⟩

/-- `requestJson`: the envelope of a failure is thrown as it came. -/
def requestJson {α : Type} : Except ApiError α → Except ApiClientError α
  | .ok value => .ok value
  | .error error => .error ⟨error.status, error.code, error.message⟩

/-- `Number.isSafeInteger`. -/
def safeInteger (value : Int) : Bool := value.natAbs ≤ 9007199254740991

/-- The numbers of the events go up by one from `expected`; the last of them. -/
def expectSequences : Int → List TraceEventResponse → Option Int
  | expected, [] => some expected
  | expected, event :: rest =>
    if safeInteger event.sequence && event.sequence = expected + 1 then expectSequences (expected + 1) rest else none

/-- `validateTracePage`. -/
def validTracePage (page : TracePage) (afterSequence : Int) : Bool :=
  page.events.length ≤ tracePageSize && safeInteger page.nextAfterSequence &&
    match expectSequences afterSequence page.events with
    | none => false
    | some expected => page.nextAfterSequence = expected && !(page.hasMore && page.events.isEmpty)

section Loop
variable (fetch : Nat → Int → Except ApiClientError TracePage)

/-- The loop of `getTrace` once so many pages are loaded; `fetch` answers the requests in their order. -/
def getTracePages (pagesLoaded : Nat) (afterSequence : Int) (events : List TraceEventResponse) :
    Except ApiClientError TracePage :=
  if maxTracePages ≤ pagesLoaded then .error traceTooLarge
  else
    match fetch pagesLoaded afterSequence with
    | .error error => .error error
    | .ok page =>
      if !validTracePage page afterSequence then .error invalidTracePage
      else if maxTraceEvents < events.length + page.events.length then .error traceTooLarge
      else if !page.hasMore then .ok ⟨events ++ page.events, page.nextAfterSequence, false⟩
      else getTracePages (pagesLoaded + 1) page.nextAfterSequence (events ++ page.events)
termination_by maxTracePages - pagesLoaded

end Loop

/-- `getTrace`, where `stores` is what the server's database holds at the requests. -/
def getTrace (stores : Nat → Store) (runId : Uuid) : Except ApiClientError TracePage :=
  getTracePages (fun request after => requestJson (getTraceRequest (stores request) runId after tracePageSize)) 0 0 []

/-! An honest page is never refused. -/

theorem expectSequences_eq {expected : Int} {events : List TraceEventResponse} {first : Nat} (start : expected = first)
    (sequences : events.map (·.sequence) = (List.range' (first + 1) events.length).map Int.ofNat)
    (small : first + events.length ≤ 9007199254740991) : 
    expectSequences expected events = some ((first + events.length : Nat) : Int) := by
  induction events generalizing expected first with
  | nil => rw [expectSequences, start, List.length_nil, Nat.add_zero]
  | cons event rest ih =>
    rw [List.map_cons, List.length_cons, List.range'_succ, List.map_cons, List.cons.injEq] at sequences
    obtain ⟨number, others⟩ := sequences
    rw [List.length_cons] at small
    have next : event.sequence = expected + 1 := by
      rw [number, start]
      rfl
    have safe : safeInteger event.sequence = true := by
      rw [safeInteger, decide_eq_true_eq, number, Int.ofNat_eq_natCast, Int.natAbs_natCast]
      omega
    have start' : expected + 1 = ((first + 1 : Nat) : Int) := by
      rw [start]
      rfl
    have later := ih start' others (by omega)
    have total : first + 1 + rest.length = first + (event :: rest).length := by
      rw [List.length_cons]
      omega
    have fits : (safeInteger event.sequence && decide (event.sequence = expected + 1)) = true := by
      rw [safe, Bool.true_and]
      exact decide_eq_true next
    rw [expectSequences, if_pos fits, later, total]

theorem validTracePage_page {page : TracePage} {rows : List EventRow} {first : Nat} (shown : Shown rows page.events)
    (sequences : rows.map (·.sequence) = List.range' (first + 1) rows.length) (short : rows.length ≤ tracePageSize)
    (next : page.nextAfterSequence = (first + rows.length : Nat)) (more : page.hasMore = true → rows ≠ [])
    (small : first + rows.length ≤ 9007199254740991) : validTracePage page first = true := by
  have length : page.events.length = rows.length := shown.length_eq.symm
  have numbers : page.events.map (·.sequence) = (List.range' (first + 1) page.events.length).map Int.ofNat := by
    rw [Shown.sequences shown, length, ← sequences, List.map_map]
    rfl
  have expected := expectSequences_eq (rfl : (first : Int) = first) numbers (by omega)
  have nonempty : (page.hasMore && page.events.isEmpty) = false := by
    cases hasMore : page.hasMore with
    | false => rfl
    | true =>
      have some : page.events ≠ [] := fun none => more hasMore (List.eq_nil_of_length_eq_zero (by rw [← length, none]; rfl))
      simpa using some
  have safe : safeInteger page.nextAfterSequence = true := by
    rw [safeInteger, decide_eq_true_eq, next, Int.natAbs_natCast]
    exact small
  rw [next] at safe
  simp only [validTracePage, expected, safe, nonempty, length, next, decide_eq_true short, Bool.not_false, Bool.and_true,
    decide_true]

/-- What the requests of one client meet: a run with a trace that is numbered from one on, and
whose events stay. -/
structure Serves (stores : Nat → Store) (runId traceId : Uuid) (count : Nat → Nat) : Prop where
  stored : ∀ request, ∃ row, (stores request).runs runId = some row ∧ row.payload.traceId = traceId
  numbered : ∀ request, NumberedTo (stores request) traceId (count request)
  delays : ∀ request, ∀ event ∈ (stores request).trace traceId, FloatDelay event
  kept : ∀ request, (stores request).trace traceId ⊆ (stores (request + 1)).trace traceId

namespace Serves
variable {stores : Nat → Store} {runId traceId : Uuid} {count : Nat → Nat} (serves : Serves stores runId traceId count)
include serves

/-- The trace at one request is the beginning of the trace at the next one. -/
theorem earlier (request : Nat) : (stores request).numbered traceId =
    ((stores (request + 1)).numbered traceId).take (count request) := by
  have now := Store.numbered_sequences (serves.numbered request)
  have next := Store.numbered_sequences (serves.numbered (request + 1))
  have nowLength := Store.numbered_length (serves.numbered request)
  have nextLength := Store.numbered_length (serves.numbered (request + 1))
  have number : ∀ (rows : List EventRow) (total index : Nat) (inside : index < rows.length),
      rows.map (·.sequence) = List.range' 1 total → rows[index].sequence = index + 1 := by
    intro rows total index inside sequences
    have at' := List.getElem_of_eq sequences (i := index) (by rwa [List.length_map])
    rw [List.getElem_map, List.getElem_range'] at at'
    omega
  have place : ∀ index (inside : index < ((stores request).numbered traceId).length),
      ∃ inside' : index < ((stores (request + 1)).numbered traceId).length,
        ((stores request).numbered traceId)[index] = ((stores (request + 1)).numbered traceId)[index] := by
    intro index inside
    have member := serves.kept request (Store.mem_numbered.mp (List.getElem_mem inside))
    obtain ⟨other, inside', same⟩ := List.getElem_of_mem (Store.mem_numbered.mpr member)
    have here := number _ _ index inside now
    have there := number _ _ other inside' next
    rw [same, here] at there
    have equal : other = index := by omega
    subst equal
    exact ⟨inside', same.symm⟩
  refine List.ext_getElem ?_ fun index inside inside' => ?_
  · rw [List.length_take, nowLength, nextLength, Nat.min_eq_left]
    by_contra shorter
    have positive : count request - 1 < ((stores request).numbered traceId).length := by omega
    obtain ⟨inside', -⟩ := place (count request - 1) positive
    omega
  · obtain ⟨_, same⟩ := place index inside
    rw [List.getElem_take, same]

theorem count_le (request : Nat) : count request ≤ count (request + 1) := by
  have lengths := congrArg List.length (serves.earlier request)
  rw [List.length_take, Store.numbered_length (serves.numbered request),
    Store.numbered_length (serves.numbered (request + 1))] at lengths
  omega

theorem numbered_prefix {request later : Nat} (le : request ≤ later) :
    (stores request).numbered traceId <+: (stores later).numbered traceId := by
  induction le with
  | refl => exact List.prefix_refl _
  | step _ ih => exact ih.trans (serves.earlier _ ▸ List.take_prefix _ _)

/-- The client's loop stops at the first request whose page reaches the end of the trace, with
the whole trace as it then is, or gives up after the last page it may load. -/
theorem pages {loaded : Nat} {events : List TraceEventResponse} (bound : loaded ≤ maxTracePages)
    (inside : 100 * loaded ≤ count loaded) (gathered : Shown (((stores loaded).numbered traceId).take (100 * loaded)) events) :
    (∃ request page, loaded ≤ request ∧ request < 100 ∧ count request ≤ 100 * (request + 1) ∧
      getTracePages (fun request after => requestJson (getTraceRequest (stores request) runId after tracePageSize)) loaded
        (100 * loaded : Nat) events = .ok page ∧
      Shown ((stores request).numbered traceId) page.events ∧ page.nextAfterSequence = count request ∧ page.hasMore = false) ∨
    (getTracePages (fun request after => requestJson (getTraceRequest (stores request) runId after tracePageSize)) loaded
        (100 * loaded : Nat) events = .error traceTooLarge ∧
      ∀ request, loaded ≤ request → request < 100 → 100 * (request + 1) < count request) := by
  induction left : maxTracePages - loaded generalizing loaded events with
  | zero =>
    have full : loaded = maxTracePages := by omega
    subst full
    refine Or.inr ⟨?_, fun request above below => absurd above (not_le.mpr below)⟩
    rw [getTracePages, if_pos le_rfl]
  | succ left' ih =>
    have room : loaded < 100 := by
      have limit : maxTracePages = 100 := rfl
      omega
    obtain ⟨row, stored, own⟩ := serves.stored loaded
    subst own
    have trace := serves.numbered loaded
    have size := Store.numbered_length trace
    obtain ⟨page, answer, shown, next, more⟩ :=
      getTraceRequest_numbered stored trace (serves.delays loaded) (show 1 ≤ 100 ∧ 100 ≤ 100 by omega) inside
    have pageSize : ((((stores loaded).numbered row.payload.traceId).drop (100 * loaded)).take 100).length =
        min 100 (count loaded - 100 * loaded) := by
      rw [List.length_take, List.length_drop, size]
    have pageLength : page.events.length ≤ 100 := by
      rw [← shown.length_eq, pageSize]
      omega
    have eventsLength : events.length = 100 * loaded := by
      rw [← gathered.length_eq, List.length_take, size, Nat.min_eq_left inside]
    have numbers : ((((stores loaded).numbered row.payload.traceId).drop (100 * loaded)).take 100).map (·.sequence) =
        List.range' (100 * loaded + 1)
          ((((stores loaded).numbered row.payload.traceId).drop (100 * loaded)).take 100).length := by
      rw [pageSize]
      exact Store.page_sequences trace _ _
    have valid : validTracePage page (100 * loaded : Nat) = true := by
      refine validTracePage_page shown numbers (by rw [pageSize]; exact Nat.min_le_left _ _) ?_ ?_ (by rw [pageSize]; omega)
      · rw [next, pageSize]
        congr 1
        omega
      · intro hasMore none
        rw [more, decide_eq_true_eq] at hasMore
        rw [none, List.length_nil] at pageSize
        omega
    have together : Shown (((stores loaded).numbered row.payload.traceId).take (100 * (loaded + 1))) (events ++ page.events) := by
      rw [Nat.mul_succ, List.take_add]
      exact List.rel_append gathered shown
    have fetched : requestJson (getTraceRequest (stores loaded) runId (100 * loaded : Nat) tracePageSize) = .ok page := by
      rw [show ((tracePageSize : Nat) : Int) = ((100 : Nat) : Int) from rfl, answer]
      rfl
    have under : ¬ maxTracePages ≤ loaded := not_le.mpr room
    have fits : ¬ maxTraceEvents < events.length + page.events.length := by
      have limit : maxTraceEvents = 10000 := rfl
      omega
    by_cases last : count loaded ≤ 100 * (loaded + 1)
    · have done : page.hasMore = false := by
        rw [more, decide_eq_false_iff_not]
        omega
      refine Or.inl ⟨loaded, ⟨events ++ page.events, page.nextAfterSequence, false⟩, le_rfl, room, last, ?_, ?_, ?_, rfl⟩
      · rw [getTracePages, if_neg under, fetched]
        simp only [valid, fits, done, Bool.not_true, Bool.false_eq_true, if_false, Bool.not_false, if_true]
      · rwa [List.take_of_length_le (by rw [size]; exact last)] at together
      · rw [next]
        congr 1
        omega
    · have cursor : page.nextAfterSequence = (100 * (loaded + 1) : Nat) := by
        rw [next]
        congr 1
        omega
      have behind : page.hasMore = true := by
        rw [more, decide_eq_true_eq]
        omega
      have step : getTracePages (fun request after => requestJson (getTraceRequest (stores request) runId after tracePageSize))
          loaded (100 * loaded : Nat) events =
          getTracePages (fun request after => requestJson (getTraceRequest (stores request) runId after tracePageSize))
            (loaded + 1) (100 * (loaded + 1) : Nat) (events ++ page.events) := by
        rw [getTracePages, if_neg under, fetched]
        simp only [valid, fits, behind, Bool.not_true, Bool.false_eq_true, if_false, cursor]
      have grown := serves.count_le loaded
      have same : ((stores loaded).numbered row.payload.traceId).take (100 * (loaded + 1)) =
          ((stores (loaded + 1)).numbered row.payload.traceId).take (100 * (loaded + 1)) := by
        rw [serves.earlier loaded, List.take_take, Nat.min_eq_left (by omega)]
      rw [same] at together
      rw [step]
      rcases ih (show loaded + 1 ≤ 100 from room) (by omega) together (by omega) with ⟨request, whole, above, found⟩ | ⟨failed, long⟩
      · exact Or.inl ⟨request, whole, by omega, found⟩
      · refine Or.inr ⟨failed, fun request above below => ?_⟩
        rcases Nat.eq_or_lt_of_le above with rfl | later
        · omega
        · exact long request later below

/-- The loop from its start. -/
theorem whole :
    (∃ request page, count request ≤ 10000 ∧ getTrace stores runId = .ok page ∧
      Shown ((stores request).numbered traceId) page.events ∧ page.nextAfterSequence = count request ∧ page.hasMore = false) ∨
    (getTrace stores runId = .error traceTooLarge ∧ ∀ request, request < 100 → 100 * (request + 1) < count request) := by
  rcases serves.pages (Nat.zero_le 100) (Nat.zero_le _) .nil with
    ⟨request, page, -, below, small, done, found⟩ | ⟨failed, long⟩
  · exact Or.inl ⟨request, page, by omega, done, found⟩
  · exact Or.inr ⟨failed, fun request below => long request (Nat.zero_le _) below⟩

theorem shown_sequences {request : Nat} {events : List TraceEventResponse}
    (shown : Shown ((stores request).numbered traceId) events) :
    events.map (·.sequence) = (List.range' 1 (count request)).map Int.ofNat := by
  rw [Shown.sequences shown, ← Store.numbered_sequences (serves.numbered request), List.map_map]
  rfl

end Serves

/-- Any interleaving of the writers between the requests leaves the trace numbered. -/
theorem Serves.of_writes {cfg : StoreSettings} {stores : Nat → Store} {runId traceId : Uuid}
    (start : EventWrites cfg Store.empty (stores 0)) (later : ∀ request, EventWrites cfg (stores request) (stores (request + 1)))
    (stored : ∀ request, ∃ row, (stores request).runs runId = some row ∧ row.payload.traceId = traceId)
    (delays : ∀ request, ∀ event ∈ (stores request).trace traceId, FloatDelay event) :
    Serves stores runId traceId fun request => ((stores request).trace traceId).length := by
  have reached : ∀ request, Numbered (stores request) := by
    intro request
    induction request with
    | zero => exact start.numbered empty_numbered
    | succ request ih => exact (later request).numbered ih
  refine ⟨stored, fun request => ?_, delays, fun request => ?_⟩
  · rw [NumberedTo, (reached request).sequences]
  · exact List.filter_subset _ ((later request).keeps.subset)

/-- The client shows the whole trace or says that it is too large, and never takes an honest
page for an inconsistent one. Events that are appended meanwhile only make the trace longer. -/
theorem trace_paging_complete {stores : Nat → Store} {runId traceId : Uuid} {count : Nat → Nat}
    (serves : Serves stores runId traceId count) :
    (∀ total, (∀ request, count request = total) →
        (total ≤ 10000 → ∃ page, getTrace stores runId = .ok page ∧ Shown ((stores 0).numbered traceId) page.events ∧
          page.events.map (·.sequence) = (List.range' 1 total).map Int.ofNat ∧ page.nextAfterSequence = total ∧
          page.hasMore = false) ∧
        (10000 < total → getTrace stores runId = .error traceTooLarge)) ∧
      ((∀ request, count request ≤ 10000) → ∃ request page, getTrace stores runId = .ok page ∧
          Shown ((stores request).numbered traceId) page.events ∧
          page.events.map (·.sequence) = (List.range' 1 (count request)).map Int.ofNat ∧ page.hasMore = false ∧
          (stores 0).numbered traceId <+: (stores request).numbered traceId) ∧
      getTrace stores runId ≠ .error invalidTracePage := by
  refine ⟨fun total fixed => ⟨fun small => ?_, fun large => ?_⟩, fun small => ?_, fun refused => ?_⟩
  · rcases serves.whole with ⟨request, page, -, done, shown, next, more⟩ | ⟨-, long⟩
    · have same : (stores 0).numbered traceId = (stores request).numbered traceId := by
        refine (serves.numbered_prefix (Nat.zero_le request)).eq_of_length ?_
        rw [Store.numbered_length (serves.numbered 0), Store.numbered_length (serves.numbered request), fixed, fixed]
      have sequences := serves.shown_sequences shown
      rw [fixed] at sequences next
      exact ⟨page, done, same ▸ shown, sequences, next, more⟩
    · have last := long 99 (by omega)
      rw [fixed] at last
      omega
  · rcases serves.whole with ⟨request, page, short, -⟩ | ⟨failed, -⟩
    · rw [fixed] at short
      omega
    · exact failed
  · rcases serves.whole with ⟨request, page, -, done, shown, -, more⟩ | ⟨-, long⟩
    · exact ⟨request, page, done, shown, serves.shown_sequences shown, more, serves.numbered_prefix (Nat.zero_le request)⟩
    · have last := long 99 (by omega)
      have bound := small 99
      omega
  · rcases serves.whole with ⟨request, page, -, done, -⟩ | ⟨failed, -⟩
    · rw [done] at refused
      cases refused
    · rw [failed] at refused
      exact absurd (congrArg ApiClientError.code (Except.error.inj refused)) (by decide)

/-- A run with one event at the first request and two at all later ones. -/
def growingStore : Nat → Store
  | 0 => fencedStore.insertEvent (plainEvent 1)
  | _ + 1 => (fencedStore.insertEvent (plainEvent 1)).insertEvent (plainEvent 1)

theorem growingStore_serves :
    Serves growingStore 0 1 fun request => ((growingStore request).trace 1).length := by
  have created : EventWrite plainSettings Store.empty fencedStore := .elsewhere rfl rfl
  have first := plainEvent_appends 1 fencedStore
  have second := plainEvent_appends 1 (fencedStore.insertEvent (plainEvent 1))
  have start : EventWrites plainSettings Store.empty (growingStore 0) := (Relation.ReflTransGen.single created).tail first
  refine Serves.of_writes start ?_ ?_ ?_
  · intro request
    cases request with
    | zero => exact .single second
    | succ request => exact .refl
  · intro request
    cases request with
    | zero => exact ⟨⟨1, 1, fencedRun⟩, rfl, rfl⟩
    | succ request => exact ⟨⟨1, 1, fencedRun⟩, rfl, rfl⟩
  · intro request event member delay found
    have plain : event.payload = .obj [] := by
      cases request with
      | zero =>
        cases List.mem_singleton.mp member
        rfl
      | succ request =>
        rcases List.mem_pair.mp member with rfl | rfl <;> rfl
    rw [plain] at found
    cases found

theorem trace_paging_complete_growing : ∃ request page, getTrace growingStore 0 = .ok page ∧
    Shown ((growingStore request).numbered 1) page.events ∧ page.hasMore = false ∧
    (growingStore 0).numbered 1 <+: (growingStore request).numbered 1 := by
  have short : ∀ request, ((growingStore request).trace 1).length ≤ 10000 := by
    intro request
    cases request with
    | zero => exact (by decide : 1 ≤ 10000)
    | succ request => exact (by decide : 2 ≤ 10000)
  obtain ⟨request, page, done, shown, -, more, start⟩ := (trace_paging_complete growingStore_serves).2.1 short
  exact ⟨request, page, done, shown, more, start⟩

end ReliabilityLab
