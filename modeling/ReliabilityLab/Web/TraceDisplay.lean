import ReliabilityLab.Api.TracePages
import ReliabilityLab.Evaluation.Models
import ReliabilityLab.Web.Waterfall

namespace ReliabilityLab

/-- A number of a response as `JSON.parse` reads it: the nearest one, or an infinity. -/
def jsNumber : Json → Option PyFloat
  | .int value => some (match floatOfInt value with
    | .ok number => number
    | .error _ => .inf (value < 0))
  | .float value => some value
  | _ => none

/-- The payload of a response, field by field as the dashboard looks at it. -/
def displayedPayload (payload : Dict) : Web.TracePayload where
  toolName := (payload.lookup "tool_name").bind Json.str?
  attempt := (payload.lookup "attempt").bind jsNumber
  actionStep := (payload.lookup "action_step").bind jsNumber
  transient := (payload.lookup "transient").bind Json.bool?
  retryDelaySeconds := (payload.lookup "retry_delay_seconds").bind jsNumber

def displayed (response : TraceEventResponse) : Web.TraceEvent Uuid where
  id := response.id
  spanId := response.spanId
  eventType := response.eventType.value
  status := response.status
  payload := displayedPayload response.payload

theorem lookup_typedItems (raw : Dict) (keys : List String) (typed : Json → Bool) (key : String) :
    (typedItems raw keys typed).lookup key = if key ∈ keys then (raw.lookup key).filter typed else none := by
  induction keys with
  | nil => rfl
  | cons name rest ih =>
    unfold typedItems at ih ⊢
    rw [List.filterMap_cons]
    by_cases same : key = name
    · subst same
      rw [if_pos List.mem_cons_self]
      cases found : (raw.lookup key).filter typed with
      | none =>
        rw [found] at ih
        simpa using ih
      | some value => simp
    · have elsewhere : key ∈ name :: rest ↔ key ∈ rest := by simp [same]
      rw [if_congr elsewhere rfl rfl, ← ih]
      cases (raw.lookup name).filter typed with
      | none => rfl
      | some value => simp [List.lookup_cons, beq_false_of_ne same]

/-- What the dashboard reads of an event, from what the store holds. -/
structure Displays (row : EventRow) (event : Web.TraceEvent Uuid) : Prop where
  id : event.id = row.id
  spanId : event.spanId = row.spanId
  eventType : event.eventType = row.eventType.value
  status : event.status = row.status
  toolName : event.payload.toolName = (row.content.field "tool_name").bind Json.str?
  attempt : ∀ attempt, row.content.field "attempt" = some (.int attempt) → event.payload.attempt = jsNumber (.int attempt)
  actionStep : ∀ step, row.content.field "action_step" = some (.int step) → event.payload.actionStep = jsNumber (.int step)
  transient : event.payload.transient = (row.content.field "transient").bind Json.bool?
  delay : ∀ delay, row.content.field "retry_delay_seconds" = some (.float delay) →
    event.payload.retryDelaySeconds = some delay

theorem delayItems_lookup {raw items : Dict} {key : String} (done : delayItems raw = .ok items)
    (other : key ≠ "retry_delay_seconds") : items.lookup key = none := by
  have apart : (key == "retry_delay_seconds") = false := beq_false_of_ne other
  unfold delayItems at done
  split at done
  · rename_i delay _
    cases converted : floatOfInt delay with
    | error error =>
      rw [converted] at done
      cases done
    | ok value =>
      rw [converted] at done
      cases done
      simp [List.lookup_cons, apart]
  · cases done
    simp [List.lookup_cons, apart]
  · cases done
    rfl

theorem displays {row : EventRow} {response : TraceEventResponse} (done : traceResponse row = .ok response) :
    Displays row (displayed response) := by
  cases converted : delayItems (row.payload.obj?.getD []) with
  | error error =>
    rw [traceResponse, converted] at done
    cases done
  | ok delay =>
    rw [traceResponse, converted] at done
    cases done
    have field : ∀ key, row.content.field key = (row.payload.obj?.getD []).lookup key := by
      intro key
      unfold EventContent.field EventRow.content
      cases row.payload.obj? <;> rfl
    have undelayed : ∀ key, key ≠ "retry_delay_seconds" → delay.lookup key = none := fun key other =>
      delayItems_lookup converted other
    refine ⟨rfl, rfl, rfl, rfl, ?_, fun attempt found => ?_, fun step found => ?_, ?_, fun seconds found => ?_⟩
    · rw [field]
      simp only [displayed, displayedPayload, List.lookup_append, lookup_typedItems, undelayed "tool_name" (by decide)]
      cases (row.payload.obj?.getD []).lookup "tool_name" with
      | none => rfl
      | some value => cases value <;> rfl
    · rw [field] at found
      simp only [displayed, displayedPayload, List.lookup_append, lookup_typedItems, found]
      rfl
    · rw [field] at found
      simp only [displayed, displayedPayload, List.lookup_append, lookup_typedItems, found]
      rfl
    · rw [field]
      simp only [displayed, displayedPayload, List.lookup_append, lookup_typedItems, undelayed "transient" (by decide)]
      cases (row.payload.obj?.getD []).lookup "transient" with
      | none => rfl
      | some value => cases value <;> rfl
    · rw [field] at found
      rw [delayItems, found] at converted
      cases converted
      simp only [displayed, displayedPayload, List.lookup_append, lookup_typedItems]
      rfl

end ReliabilityLab
