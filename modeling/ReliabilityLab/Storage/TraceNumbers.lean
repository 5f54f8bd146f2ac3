import Mathlib.Logic.Relation
import ReliabilityLab.Storage.Transactions

namespace ReliabilityLab

/-- One transaction of one of any number of writers, as it ended: committed,
refused or broken at any of its statements. `elsewhere` are the transactions
on the other tables. -/
inductive EventWrite (cfg : StoreSettings) (st after : Store) : Prop
  | append (event : TraceEvent) (answer : Except Exn Unit) :
      Settles (Store.appendEvent cfg event) st answer after → EventWrite cfg st after
  | save (now : DateTime) (run : Run) (events : List TraceEvent) (owner version : Nat) (answer : Except Exn Run) :
      Settles (Store.saveRunOwnedWithEvents cfg now run events owner version) st answer after → EventWrite cfg st after
  | decide (id : Uuid) (step : Int) (row : ApprovalRow) (answer : Except Exn ApprovalRow) :
      Settles (Store.recordPendingApprovalAt cfg id step row) st answer after → EventWrite cfg st after
  | elsewhere : after.events = st.events → after.counters = st.counters → EventWrite cfg st after

/-- Any interleaving of the writers: their transactions come one after the other. -/
abbrev EventWrites (cfg : StoreSettings) : Store → Store → Prop := Relation.ReflTransGen (EventWrite cfg)

/-- Every trace is numbered from one on, and its counter is its last number. -/
structure Numbered (st : Store) : Prop where
  sequences : ∀ traceId, (st.trace traceId).map (·.sequence) = List.range' 1 (st.trace traceId).length
  counter : ∀ traceId, st.counters traceId =
    if (st.trace traceId).length = 0 then none else some (st.trace traceId).length

/-- Rows that continue a trace: its next numbers in order, for these events. -/
structure Continues (st : Store) (traceId : Uuid) (events : List TraceEvent) (rows : List EventRow) : Prop where
  sequences : rows.map (·.sequence) = List.range' ((st.trace traceId).length + 1) events.length
  contents : rows.map EventRow.content = events.map TraceEvent.content

variable {cfg : StoreSettings} {st after : Store}

namespace Store

theorem trace_insertEvent_self (st : Store) (event : TraceEvent) :
    ∃ row, (st.insertEvent event).events = st.events ++ [row] ∧ row.sequence = st.nextSequence event.traceId ∧
      row.content = event.content ∧ (st.insertEvent event).trace event.traceId = st.trace event.traceId ++ [row] := by
  refine ⟨_, rfl, rfl, rfl, ?_⟩
  simp [trace, insertEvent]

theorem trace_insertEvent_of_ne {event : TraceEvent} {traceId : Uuid} (other : traceId ≠ event.traceId) :
    (st.insertEvent event).trace traceId = st.trace traceId := by
  simp [trace, insertEvent, Ne.symm other]

end Store

theorem Numbered.nextSequence (numbered : Numbered st) (traceId : Uuid) :
    st.nextSequence traceId = (st.trace traceId).length + 1 := by
  have counter := numbered.counter traceId
  unfold Store.nextSequence
  split at counter
  · rename_i empty
    rw [counter, empty]
  · rw [counter]

/-- The upsert and the insert together number one more event. -/
theorem Numbered.insertEvent (numbered : Numbered st) (event : TraceEvent) : Numbered (st.insertEvent event) := by
  obtain ⟨row, -, sequence, -, own⟩ := Store.trace_insertEvent_self st event
  have next := numbered.nextSequence event.traceId
  constructor
  · intro traceId
    by_cases same : traceId = event.traceId
    · subst same
      rw [own, List.map_append, numbered.sequences, List.length_append, List.length_singleton, List.range'_concat,
        List.map_singleton, sequence, next]
      simp [Nat.add_comm]
    · rw [Store.trace_insertEvent_of_ne same]
      exact numbered.sequences traceId
  · intro traceId
    by_cases same : traceId = event.traceId
    · subst same
      have counted : (st.insertEvent event).counters event.traceId = some (st.nextSequence event.traceId) :=
        Function.update_self ..
      rw [counted, own, next]
      simp
    · have kept : (st.insertEvent event).counters traceId = st.counters traceId := Function.update_of_ne same ..
      rw [kept, Store.trace_insertEvent_of_ne same]
      exact numbered.counter traceId

theorem Numbered.insertEvents (numbered : Numbered st) (events : List TraceEvent) :
    Numbered (st.insertEvents events) := by
  induction events generalizing st with
  | nil => exact numbered
  | cons event rest ih => exact ih (numbered.insertEvent event)

/-- The events of one save are numbered one after the other, in the given order. -/
theorem Numbered.continues {traceId : Uuid} {events : List TraceEvent} (numbered : Numbered st)
    (own : ∀ event ∈ events, event.traceId = traceId) :
    ∃ rows, (st.insertEvents events).events = st.events ++ rows ∧ Continues st traceId events rows := by
  induction events generalizing st with
  | nil => exact ⟨[], by simp [Store.insertEvents], rfl, rfl⟩
  | cons event rest ih =>
    have mine := own event List.mem_cons_self
    obtain ⟨row, stored, sequence, content, trace⟩ := Store.trace_insertEvent_self st event
    obtain ⟨rows, added, later⟩ := ih (numbered.insertEvent event) fun other member =>
      own other (List.mem_cons_of_mem _ member)
    refine ⟨row :: rows, ?_, ?_, ?_⟩
    · have whole : st.insertEvents (event :: rest) = (st.insertEvent event).insertEvents rest := rfl
      rw [whole, added, stored, List.append_assoc]
      rfl
    · have longer : ((st.insertEvent event).trace traceId).length = (st.trace traceId).length + 1 := by
        rw [← mine, trace, List.length_append, List.length_singleton]
      rw [List.map_cons, later.sequences, longer, sequence, numbered.nextSequence, mine, List.length_cons,
        List.range'_succ]
    · rw [List.map_cons, later.contents, content, List.map_cons]

theorem insertEvents_prefix (events : List TraceEvent) : st.events <+: (st.insertEvents events).events := by
  induction events generalizing st with
  | nil => exact List.prefix_refl _
  | cons event rest ih =>
    obtain ⟨row, stored, -⟩ := Store.trace_insertEvent_self st event
    exact (stored ▸ List.prefix_append st.events [row]).trans ih

/-- Everything that one transaction can do to the events: nothing, or to append some. -/
theorem EventWrite.effect (write : EventWrite cfg st after) :
    (after.events = st.events ∧ after.counters = st.counters) ∨
      ∃ (events : List TraceEvent) (base : Store), base.events = st.events ∧ base.counters = st.counters ∧
        after = base.insertEvents events := by
  cases write with
  | append event answer settled =>
    cases settled with
    | committed done => exact .inr ⟨[Store.cleanEvent cfg event], st, rfl, rfl, Store.appendEvent_ok done⟩
    | refused | broken => exact .inl ⟨rfl, rfl⟩
  | save now run events owner version answer settled =>
    cases settled with
    | committed done =>
      obtain ⟨updated, result, same⟩ := Store.saveRunOwnedWithEvents_ok done
      obtain ⟨_, _, -, -, -, -, -, -, rfl⟩ := Store.updateOwned_ok result
      exact .inr ⟨_, st.setRun run.id _, rfl, rfl, same⟩
    | refused | broken => exact .inl ⟨rfl, rfl⟩
  | decide id step row answer settled =>
    cases settled with
    | committed done =>
      unfold Store.recordPendingApprovalAt at done
      split at done
      · cases done
      · obtain ⟨-, ⟨-, rfl⟩ | ⟨-, run, -, -, rfl⟩⟩ := Store.recordPendingApproval_ok done
        · exact .inl ⟨rfl, rfl⟩
        · exact .inr ⟨[_], st.setApproval id step.toNat row, rfl, rfl, rfl⟩
    | refused | broken => exact .inl ⟨rfl, rfl⟩
  | elsewhere events counters => exact .inl ⟨events, counters⟩

theorem Numbered.congr {base : Store} (numbered : Numbered st) (events : base.events = st.events)
    (counters : base.counters = st.counters) : Numbered base := by
  have trace : ∀ traceId, base.trace traceId = st.trace traceId := fun traceId => by
    rw [Store.trace, Store.trace, events]
  constructor
  · intro traceId
    rw [trace]
    exact numbered.sequences traceId
  · intro traceId
    rw [trace, counters]
    exact numbered.counter traceId

theorem EventWrite.numbered (write : EventWrite cfg st after) (numbered : Numbered st) : Numbered after := by
  rcases write.effect with ⟨events, counters⟩ | ⟨events, base, before, counters, rfl⟩
  · exact numbered.congr events counters
  · exact (numbered.congr before counters).insertEvents events

theorem EventWrite.keeps (write : EventWrite cfg st after) : st.events <+: after.events := by
  rcases write.effect with ⟨events, -⟩ | ⟨events, base, before, -, rfl⟩
  · exact events ▸ List.prefix_refl st.events
  · exact before ▸ insertEvents_prefix events

theorem empty_numbered : Numbered Store.empty := ⟨fun _ => rfl, fun _ => rfl⟩

theorem EventWrites.numbered (writes : EventWrites cfg st after) (numbered : Numbered st) : Numbered after := by
  induction writes with
  | refl => exact numbered
  | tail _ write ih => exact write.numbered ih

theorem EventWrites.keeps (writes : EventWrites cfg st after) : st.events <+: after.events := by
  induction writes with
  | refl => exact List.prefix_refl _
  | tail _ write ih => exact ih.trans write.keeps

/-- Traces are numbered without gaps in every interleaving, stored events stay,
and the events of one owned save are consecutive. -/
theorem trace_numbering (writes : EventWrites cfg Store.empty st) :
    Numbered st ∧ (∀ later, EventWrites cfg st later → st.events <+: later.events) ∧
      ∀ now run events owner version saved after,
        Store.saveRunOwnedWithEvents cfg now run events owner version st = .ok (saved, after) →
          ∃ rows, after.events = st.events ++ rows ∧
            Continues st run.traceId (events.map (Store.cleanEvent cfg)) rows := by
  have numbered := writes.numbered empty_numbered
  refine ⟨numbered, fun later more => more.keeps, fun now run events owner version saved after done => ?_⟩
  have own := Store.saveRunOwnedWithEvents_own done
  obtain ⟨updated, result, rfl⟩ := Store.saveRunOwnedWithEvents_ok done
  obtain ⟨_, _, -, -, -, -, -, -, rfl⟩ := Store.updateOwned_ok result
  have clean : ∀ event ∈ events.map (Store.cleanEvent cfg), event.traceId = run.traceId := by
    intro event member
    obtain ⟨given, among, rfl⟩ := List.mem_map.mp member
    exact own given among
  have saving : Numbered (st.setRun run.id ⟨run.traceId, version + 1, saved⟩) := numbered.congr rfl rfl
  obtain ⟨rows, stored, continues⟩ := saving.continues clean
  exact ⟨rows, stored, continues.sequences, continues.contents⟩

/-- Default leases, no secrets. -/
def plainSettings : StoreSettings := ⟨[], ⟨fun c => [c], fun _ => false⟩, 30000000, 30000000⟩

def plainEvent (traceId : Uuid) : TraceEvent := ⟨traceId, none, none, .runRunning, .obj [], .obj [], "ok"⟩

theorem plainEvent_appends (traceId : Uuid) (st : Store) :
    EventWrite plainSettings st (st.insertEvent (plainEvent traceId)) :=
  .append (plainEvent traceId) (.ok ()) (.committed rfl)

theorem trace_numbering_two_traces : ∃ st, EventWrites plainSettings Store.empty st ∧ Numbered st ∧
    (st.trace 1).map (·.sequence) = [1, 2] ∧ (st.trace 2).map (·.sequence) = [1] := by
  have first := plainEvent_appends 1 Store.empty
  have second := plainEvent_appends 2 (Store.empty.insertEvent (plainEvent 1))
  have third := plainEvent_appends 1 ((Store.empty.insertEvent (plainEvent 1)).insertEvent (plainEvent 2))
  have writes := ((Relation.ReflTransGen.single first).tail second).tail third
  exact ⟨_, writes, (trace_numbering writes).1, rfl, rfl⟩

end ReliabilityLab
