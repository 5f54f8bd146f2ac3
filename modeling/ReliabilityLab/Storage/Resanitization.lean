import ReliabilityLab.Storage.Concealment

namespace ReliabilityLab

variable {tables : CharTables}

/-- An order in which a set of secrets may be processed: every nonempty one, the longest
first, and equal lengths as they come. -/
def SecretOrder (secrets order : List String) : Prop :=
  (∀ secret, secret ∈ order ↔ secret ∈ secrets ∧ secret ≠ "") ∧ order.Pairwise fun a b => b.length ≤ a.length

def redactInOrder (order : List String) (text : String) : String :=
  order.foldl (fun clean secret => replaceText clean secret redacted) text

mutual
/-- `_sanitize` of one call, which takes the secrets in one order throughout. -/
def sanitizeInOrder (tables : CharTables) (order : List String) : Json → Json
  | .obj items => .obj (sanitizeItemsInOrder tables order items)
  | .arr items => .arr (sanitizeListInOrder tables order items)
  | .str text => .str (redactInOrder order text)
  | .null => .null
  | .bool value => .bool value
  | .int value => .int value
  | .float value => .float value

def sanitizeItemsInOrder (tables : CharTables) (order : List String) : List (String × Json) → List (String × Json)
  | [] => []
  | (key, item) :: rest =>
    (key, if isSensitiveKey tables key then .str redacted else sanitizeInOrder tables order item) ::
      sanitizeItemsInOrder tables order rest

def sanitizeListInOrder (tables : CharTables) (order : List String) : List Json → List Json
  | [] => []
  | item :: rest => sanitizeInOrder tables order item :: sanitizeListInOrder tables order rest
end

theorem orderedSecrets_order (secrets : List String) : SecretOrder secrets (orderedSecrets secrets) := by
  constructor
  · intro secret
    simp [orderedSecrets, List.mem_insertionSort]
  · have total : Std.Total fun a b : String => b.length ≤ a.length := ⟨fun a b => Nat.le_total b.length a.length⟩
    have trans : IsTrans String fun a b => b.length ≤ a.length := ⟨fun _ _ _ ab bc => Nat.le_trans bc ab⟩
    exact List.pairwise_insertionSort _ _

mutual
/-- The order of the sorted list is one of them. -/
theorem sanitizePayload_eq_inOrder (secrets : List String) :
    (value : Json) → sanitizePayload tables secrets value = sanitizeInOrder tables (orderedSecrets secrets) value
  | .obj items => by rw [sanitizePayload, sanitizeInOrder, sanitizeItems_eq_inOrder secrets items]
  | .arr items => by rw [sanitizePayload, sanitizeInOrder, sanitizeList_eq_inOrder secrets items]
  | .str text => by rw [sanitizePayload, sanitizeInOrder, redactText, redactInOrder]
  | .null => by rw [sanitizePayload, sanitizeInOrder]
  | .bool _ => by rw [sanitizePayload, sanitizeInOrder]
  | .int _ => by rw [sanitizePayload, sanitizeInOrder]
  | .float _ => by rw [sanitizePayload, sanitizeInOrder]

theorem sanitizeItems_eq_inOrder (secrets : List String) : (items : List (String × Json)) →
    sanitizeItems tables secrets items = sanitizeItemsInOrder tables (orderedSecrets secrets) items
  | [] => rfl
  | (key, item) :: rest => by
    rw [sanitizeItems, sanitizeItemsInOrder, sanitizePayload_eq_inOrder secrets item, sanitizeItems_eq_inOrder secrets rest]

theorem sanitizeList_eq_inOrder (secrets : List String) : (items : List Json) →
    sanitizeList tables secrets items = sanitizeListInOrder tables (orderedSecrets secrets) items
  | [] => rfl
  | item :: rest => by
    rw [sanitizeList, sanitizeListInOrder, sanitizePayload_eq_inOrder secrets item, sanitizeList_eq_inOrder secrets rest]
end

/-! A second pass finds nothing to replace. -/

theorem replaceFrom_eq_self {old new text : List Char} (absent : ¬ old <:+: text) : replaceFrom old new 0 text = text := by
  induction text with
  | nil => rfl
  | cons c rest ih =>
    have front : ¬ old.isPrefixOf (c :: rest) = true := fun found => absent (List.isPrefixOf_iff_prefix.mp found).isInfix
    have later : ¬ old <:+: rest := fun found => absent (found.trans (List.suffix_cons c rest).isInfix)
    rw [replaceFrom, if_neg front, ih later]

theorem replaceText_eq_self {secret text : String} (absent : ¬ Occurs secret text) : replaceText text secret redacted = text := by
  rw [replaceText, replaceFrom_eq_self absent, String.ofList_toList]

theorem redactInOrder_eq_self {order : List String} {text : String} (absent : ∀ secret ∈ order, ¬ Occurs secret text) :
    redactInOrder order text = text := by
  induction order with
  | nil => rfl
  | cons secret rest ih =>
    have first : replaceText text secret redacted = text := replaceText_eq_self (absent secret List.mem_cons_self)
    have later := ih fun other member => absent other (List.mem_cons_of_mem secret member)
    rw [redactInOrder, List.foldl_cons, first]
    exact later

section SecondPass
variable {first second all some : List String}

theorem SecretOrder.subset (sub : some ⊆ all) (before : SecretOrder all first) (after : SecretOrder some second) :
    second ⊆ first := by
  intro secret member
  obtain ⟨among, nonempty⟩ := (after.1 secret).mp member
  exact (before.1 secret).mpr ⟨sub among, nonempty⟩

theorem redactInOrder_again (unlike : Unlike all redacted) (sub : some ⊆ all) (before : SecretOrder all first)
    (after : SecretOrder some second) (text : String) :
    redactInOrder second (redactInOrder first text) = redactInOrder first text := by
  apply redactInOrder_eq_self
  intro secret member
  have earlier : secret ∈ first := SecretOrder.subset sub before after member
  obtain ⟨among, nonempty⟩ := (before.1 secret).mp earlier
  exact not_occurs_foldl (unlike secret among) nonempty first text (.inl earlier)

mutual
/-- Sanitizing again with some of the same secrets changes nothing, whatever order
either pass takes secrets of equal length in. -/
theorem sanitizeInOrder_again (unlike : Unlike all redacted) (sub : some ⊆ all) (before : SecretOrder all first)
    (after : SecretOrder some second) : (value : Json) →
    sanitizeInOrder tables second (sanitizeInOrder tables first value) = sanitizeInOrder tables first value
  | .obj items => by simp only [sanitizeInOrder, sanitizeItemsInOrder_again unlike sub before after items]
  | .arr items => by simp only [sanitizeInOrder, sanitizeListInOrder_again unlike sub before after items]
  | .str text => by simp only [sanitizeInOrder, redactInOrder_again unlike sub before after text]
  | .null => by simp only [sanitizeInOrder]
  | .bool _ => by simp only [sanitizeInOrder]
  | .int _ => by simp only [sanitizeInOrder]
  | .float _ => by simp only [sanitizeInOrder]

theorem sanitizeItemsInOrder_again (unlike : Unlike all redacted) (sub : some ⊆ all) (before : SecretOrder all first)
    (after : SecretOrder some second) : (items : List (String × Json)) →
    sanitizeItemsInOrder tables second (sanitizeItemsInOrder tables first items) = sanitizeItemsInOrder tables first items
  | [] => rfl
  | (key, item) :: rest => by
    have later := sanitizeItemsInOrder_again unlike sub before after rest
    have inner := sanitizeInOrder_again unlike sub before after item
    cases hidden : isSensitiveKey tables key with
    | true => simp only [sanitizeItemsInOrder, hidden, if_true, later]
    | false => simp only [sanitizeItemsInOrder, hidden, Bool.false_eq_true, if_false, later, inner]

theorem sanitizeListInOrder_again (unlike : Unlike all redacted) (sub : some ⊆ all) (before : SecretOrder all first)
    (after : SecretOrder some second) : (items : List Json) →
    sanitizeListInOrder tables second (sanitizeListInOrder tables first items) = sanitizeListInOrder tables first items
  | [] => rfl
  | item :: rest => by
    simp only [sanitizeListInOrder, sanitizeListInOrder_again unlike sub before after rest,
      sanitizeInOrder_again unlike sub before after item]
end

end SecondPass

/-! Events: the recorder sanitizes first, with the secrets of a provider besides its own. -/

section Events
variable (order : List String → List String)

/-- `TraceRecorder.build_event`; `order` is how a set of secrets is sorted. -/
def recorderEvent (tables : CharTables) (secretValues extra : List String) (traceId : Uuid) (eventType : EventType)
    (payload : Json) (spanId parentSpanId : Option Uuid) (status : String) : TraceEvent where
  traceId := traceId
  spanId := spanId
  parentSpanId := parentSpanId
  eventType := eventType
  payload := sanitizeInOrder tables (order (secretValues ++ extra)) payload
  attributes := .obj []
  status := status

def Store.cleanEventInOrder (cfg : StoreSettings) (event : TraceEvent) : TraceEvent :=
  { event with
    payload := sanitizeInOrder cfg.tables (order cfg.secretValues) event.payload
    attributes := sanitizeInOrder cfg.tables (order cfg.secretValues) event.attributes }

/-- `append_event`, as a set of secrets may be sorted. -/
def Store.appendEventInOrder (cfg : StoreSettings) (event : TraceEvent) : Tx Unit := fun st =>
  let clean := Store.cleanEventInOrder order cfg event
  if Store.dumpableEvent clean then .ok ((), st.insertEvent clean) else .error .valueError

theorem Store.appendEvent_eq_inOrder (cfg : StoreSettings) (event : TraceEvent) :
    Store.appendEvent cfg event = Store.appendEventInOrder orderedSecrets cfg event := by
  have same : Store.cleanEvent cfg event = Store.cleanEventInOrder orderedSecrets cfg event := by
    simp only [Store.cleanEvent, Store.cleanEventInOrder, Store.sanitize, sanitizePayload_eq_inOrder]
  funext st
  rw [Store.appendEvent, Store.appendEventInOrder, same]

variable {order} {before after : List String → List String}

/-- The store's own pass leaves the event as the recorder built it. -/
theorem cleanEventInOrder_recorderEvent {cfg : StoreSettings} {secretValues extra : List String}
    (unlike : Unlike (secretValues ++ extra) redacted) (sub : cfg.secretValues ⊆ secretValues ++ extra)
    (first : ∀ secrets, SecretOrder secrets (before secrets)) (second : ∀ secrets, SecretOrder secrets (after secrets))
    (traceId : Uuid) (eventType : EventType) (payload : Json) (spanId parentSpanId : Option Uuid) (status : String) :
    Store.cleanEventInOrder after cfg
        (recorderEvent before cfg.tables secretValues extra traceId eventType payload spanId parentSpanId status) =
      recorderEvent before cfg.tables secretValues extra traceId eventType payload spanId parentSpanId status := by
  have again : sanitizeInOrder cfg.tables (after cfg.secretValues)
      (sanitizeInOrder cfg.tables (before (secretValues ++ extra)) payload) =
      sanitizeInOrder cfg.tables (before (secretValues ++ extra)) payload :=
    sanitizeInOrder_again unlike sub (first _) (second _) payload
  simp only [Store.cleanEventInOrder, recorderEvent, again, sanitizeInOrder, sanitizeItemsInOrder]

end Events

/-- Redacting a second time, with no secret that is new, changes no value; so the store
inserts the event that the recorder built. -/
theorem second_redaction_unchanged {all some : List String} (unlike : Unlike all redacted) (sub : some ⊆ all)
    {before after : List String → List String} (first : ∀ secrets, SecretOrder secrets (before secrets))
    (second : ∀ secrets, SecretOrder secrets (after secrets)) :
    (∀ (tables : CharTables) (value : Json),
        sanitizeInOrder tables (after some) (sanitizeInOrder tables (before all) value) =
          sanitizeInOrder tables (before all) value) ∧
      ∀ (cfg : StoreSettings) (secretValues extra : List String) (traceId : Uuid) (eventType : EventType) (payload : Json)
        (spanId parentSpanId : Option Uuid) (status : String) (st : Store),
        cfg.secretValues = some → secretValues ++ extra = all →
        let event := recorderEvent before cfg.tables secretValues extra traceId eventType payload spanId parentSpanId status
        Store.appendEventInOrder after cfg event st =
          if Store.dumpableEvent event then .ok ((), st.insertEvent event) else .error .valueError := by
  constructor
  · intro tables value
    exact sanitizeInOrder_again unlike sub (first all) (second some) value
  · intro cfg secretValues extra traceId eventType payload spanId parentSpanId status st stored combined event
    subst stored combined
    have same : Store.cleanEventInOrder after cfg event = event :=
      cleanEventInOrder_recorderEvent unlike sub first second traceId eventType payload spanId parentSpanId status
    rw [Store.appendEventInOrder, same]

theorem overlapping_unlike : Unlike ["sk-1", "sk-12", "x"] redacted := by
  have apart : (["sk-1", "sk-12", "x"].all fun secret => secret.toList.all fun c => !redacted.toList.contains c) = true := by
    decide
  intro secret member c inside
  have whole := List.all_eq_true.mp apart secret member
  simpa using List.all_eq_true.mp whole c inside

/-- Overlapping secrets of the recorder; the store knows the shortest. -/
theorem second_redaction_unchanged_overlapping :
    let tables : CharTables := ⟨fun c => [c], fun _ => false⟩
    sanitizeInOrder tables (orderedSecrets ["x"])
        (sanitizeInOrder tables (orderedSecrets ["sk-1", "sk-12", "x"]) (.arr [.str "sk-12sk-1x"])) =
      sanitizeInOrder tables (orderedSecrets ["sk-1", "sk-12", "x"]) (.arr [.str "sk-12sk-1x"]) :=
  (second_redaction_unchanged overlapping_unlike (by simp) orderedSecrets_order orderedSecrets_order).1 _ _

end ReliabilityLab
