import ReliabilityLab.Storage.TraceNumbers

namespace ReliabilityLab

variable {old new text word : List Char}

theorem infix_append_of_disjoint (disjoint : ∀ c ∈ word, c ∉ new) (nonempty : word ≠ [])
    (found : word <:+: new ++ text) : word <:+: text := by
  induction new with
  | nil => exact found
  | cons c rest ih =>
    have later : ∀ d ∈ word, d ∉ rest := fun d member among => disjoint d member (List.mem_cons_of_mem _ among)
    rcases List.infix_cons_iff.mp found with start | inside
    · cases word with
      | nil => exact absurd rfl nonempty
      | cons d tail =>
        have same : d = c := (List.cons_prefix_cons.mp start).1
        exact absurd (same ▸ List.mem_cons_self) (disjoint d List.mem_cons_self)
    · exact ih later inside

/-- What stands at the front of a replaced text and misses the replacement stood there before. -/
theorem prefix_of_prefix_replaceFrom (disjoint : ∀ c ∈ word, c ∉ new) (marked : new ≠ [])
    (found : word <+: replaceFrom old new 0 text) : word <+: text := by
  induction text generalizing word with
  | nil => exact found
  | cons c rest ih =>
    cases word with
    | nil => exact List.nil_prefix
    | cons d tail =>
      unfold replaceFrom at found
      split at found
      · cases new with
        | nil => exact absurd rfl marked
        | cons e more =>
          have same : d = e := (List.cons_prefix_cons.mp found).1
          exact absurd (same ▸ List.mem_cons_self) (disjoint d List.mem_cons_self)
      · obtain ⟨same, rest⟩ := List.cons_prefix_cons.mp found
        have further := ih (fun e member => disjoint e (List.mem_cons_of_mem _ member)) rest
        exact List.cons_prefix_cons.mpr ⟨same, further⟩

/-- A replacement creates no word that shares no character with it. -/
theorem infix_of_infix_replaceFrom (disjoint : ∀ c ∈ word, c ∉ new) (nonempty : word ≠ []) (marked : new ≠ [])
    (skip : Nat) (found : word <:+: replaceFrom old new skip text) : word <:+: text := by
  induction text generalizing skip with
  | nil => cases skip <;> exact found
  | cons c rest ih =>
    cases skip with
    | succ skip => exact (ih skip found).trans (List.suffix_cons c rest).isInfix
    | zero =>
      unfold replaceFrom at found
      split at found
      · have inside := infix_append_of_disjoint disjoint nonempty found
        exact (ih _ inside).trans (List.suffix_cons c rest).isInfix
      · rename_i other
        rcases List.infix_cons_iff.mp found with start | inside
        · have whole : word <+: replaceFrom old new 0 (c :: rest) := by rwa [replaceFrom, if_neg other]
          exact (prefix_of_prefix_replaceFrom disjoint marked whole).isInfix
        · exact (ih 0 inside).trans (List.suffix_cons c rest).isInfix

/-- A leftmost scan leaves no occurrence of the word it replaces. -/
theorem not_infix_replaceFrom (disjoint : ∀ c ∈ old, c ∉ new) (nonempty : old ≠ []) (marked : new ≠ []) (skip : Nat) :
    ¬ old <:+: replaceFrom old new skip text := by
  intro found
  induction text generalizing skip with
  | nil =>
    have empty : old = [] := by
      cases skip <;> exact List.eq_nil_of_infix_nil found
    exact nonempty empty
  | cons c rest ih =>
    cases skip with
    | succ skip => exact ih skip found
    | zero =>
      unfold replaceFrom at found
      split at found
      · exact ih _ (infix_append_of_disjoint disjoint nonempty found)
      · rename_i other
        rcases List.infix_cons_iff.mp found with start | inside
        · have whole : old <+: replaceFrom old new 0 (c :: rest) := by rwa [replaceFrom, if_neg other]
          have front := prefix_of_prefix_replaceFrom disjoint marked whole
          exact other (List.isPrefixOf_iff_prefix.mpr front)
        · exact ih 0 inside

/-- The secret is a substring of the text. -/
def Occurs (secret text : String) : Prop := secret.toList <:+: text.toList

instance (secret text : String) : Decidable (Occurs secret text) :=
  inferInstanceAs (Decidable (secret.toList <:+: text.toList))

/-- The text shows a configured secret; an empty one is never configured. -/
def Reveals (secrets : List String) (text : String) : Prop :=
  ∃ secret ∈ secrets, secret ≠ "" ∧ Occurs secret text

/-- No secret shares a character with the marker. -/
def Unlike (secrets : List String) (marker : String) : Prop :=
  ∀ secret ∈ secrets, ∀ c ∈ secret.toList, c ∉ marker.toList

variable {secrets : List String} {tables : CharTables}

theorem toList_ne_nil {text : String} (nonempty : text ≠ "") : text.toList ≠ [] :=
  fun empty => nonempty (String.toList_eq_nil_iff.mp empty)

theorem occurs_replaceText {secret other text : String} (disjoint : ∀ c ∈ secret.toList, c ∉ redacted.toList)
    (nonempty : secret ≠ "") (found : Occurs secret (replaceText text other redacted)) : Occurs secret text := by
  unfold Occurs replaceText at found
  rw [String.toList_ofList] at found
  exact infix_of_infix_replaceFrom disjoint (toList_ne_nil nonempty) (by decide) 0 found

theorem not_occurs_replaceText {secret text : String} (disjoint : ∀ c ∈ secret.toList, c ∉ redacted.toList)
    (nonempty : secret ≠ "") : ¬ Occurs secret (replaceText text secret redacted) := by
  unfold Occurs replaceText
  rw [String.toList_ofList]
  exact not_infix_replaceFrom disjoint (toList_ne_nil nonempty) (by decide) 0

/-- Later replacements bring no earlier secret back. -/
theorem not_occurs_foldl {secret : String} (disjoint : ∀ c ∈ secret.toList, c ∉ redacted.toList)
    (nonempty : secret ≠ "") (order : List String) (text : String)
    (known : secret ∈ order ∨ ¬ Occurs secret text) :
    ¬ Occurs secret (order.foldl (fun clean other => replaceText clean other redacted) text) := by
  induction order generalizing text with
  | nil =>
    rcases known with member | absent
    · exact absurd member List.not_mem_nil
    · exact absent
  | cons other rest ih =>
    apply ih
    by_cases same : secret = other
    · subst same
      exact .inr (not_occurs_replaceText disjoint nonempty)
    · rcases known with member | absent
      · exact .inl ((List.mem_cons.mp member).resolve_left same)
      · exact .inr fun found => absent (occurs_replaceText disjoint nonempty found)

theorem not_reveals_redactText (unlike : Unlike secrets redacted) (text : String) :
    ¬ Reveals secrets (redactText secrets text) := by
  rintro ⟨secret, member, nonempty, found⟩
  have ordered : secret ∈ orderedSecrets secrets := by
    simp [orderedSecrets, List.mem_insertionSort, member, nonempty]
  exact not_occurs_foldl (unlike secret member) nonempty _ text (.inl ordered) found

theorem not_reveals_redacted (unlike : Unlike secrets redacted) : ¬ Reveals secrets redacted := by
  rintro ⟨secret, member, nonempty, found⟩
  obtain ⟨c, first⟩ := List.exists_mem_of_ne_nil _ (toList_ne_nil nonempty)
  exact unlike secret member c first (found.subset first)

/-- A value at any depth of a JSON value. -/
inductive Json.Within (part : Json) : Json → Prop
  | self : Within part part
  | item {value : Json} {key : String} {items : Dict} :
      (key, value) ∈ items → Within part value → Within part (.obj items)
  | element {value : Json} {items : List Json} : value ∈ items → Within part value → Within part (.arr items)

/-- A value at any depth that is under no sensitive key. -/
inductive Json.Shown (tables : CharTables) (part : Json) : Json → Prop
  | self : Shown tables part part
  | item {value : Json} {key : String} {items : Dict} :
      (key, value) ∈ items → isSensitiveKey tables key = false → Shown tables part value →
        Shown tables part (.obj items)
  | element {value : Json} {items : List Json} :
      value ∈ items → Shown tables part value → Shown tables part (.arr items)

/-- No string leaf and no key shows a secret, and a sensitive key holds the marker only. -/
structure Concealed (tables : CharTables) (secrets : List String) (value : Json) : Prop where
  leaves : ∀ text, Json.Within (.str text) value → ¬ Reveals secrets text
  keys : ∀ items key item, Json.Within (.obj items) value → (key, item) ∈ items → ¬ Reveals secrets key
  sensitive : ∀ items key item, Json.Within (.obj items) value → (key, item) ∈ items →
    isSensitiveKey tables key = true → item = .str redacted

/-- No key that the sanitizer reaches shows a secret. -/
def KeysClear (tables : CharTables) (secrets : List String) (value : Json) : Prop :=
  ∀ items key item, Json.Shown tables (.obj items) value → (key, item) ∈ items → ¬ Reveals secrets key

/-- What `_sanitize` writes under a key. -/
def sanitizedItem (tables : CharTables) (secrets : List String) (item : String × Json) : Json :=
  if isSensitiveKey tables item.1 then .str redacted else sanitizePayload tables secrets item.2

theorem sanitizeItems_eq_map (items : Dict) :
    sanitizeItems tables secrets items = items.map fun item => (item.1, sanitizedItem tables secrets item) := by
  induction items with
  | nil => rfl
  | cons item rest ih =>
    obtain ⟨key, value⟩ := item
    rw [sanitizeItems, ih, List.map_cons, sanitizedItem]

theorem sanitizeList_eq_map (items : List Json) :
    sanitizeList tables secrets items = items.map (sanitizePayload tables secrets) := by
  induction items with
  | nil => rfl
  | cons item rest ih => rw [sanitizeList, ih, List.map_cons]

theorem sanitizePayload_eq_obj {value : Json} {items : Dict}
    (same : sanitizePayload tables secrets value = .obj items) :
    ∃ given, value = .obj given ∧ items = given.map fun item => (item.1, sanitizedItem tables secrets item) := by
  cases value <;> simp only [sanitizePayload, reduceCtorEq, Json.obj.injEq] at same
  exact ⟨_, rfl, by rw [← same, sanitizeItems_eq_map]⟩

theorem sanitizePayload_eq_arr {value : Json} {items : List Json}
    (same : sanitizePayload tables secrets value = .arr items) :
    ∃ given, value = .arr given ∧ items = given.map (sanitizePayload tables secrets) := by
  cases value <;> simp only [sanitizePayload, reduceCtorEq, Json.arr.injEq] at same
  exact ⟨_, rfl, by rw [← same, sanitizeList_eq_map]⟩

theorem sanitizePayload_eq_str {value : Json} {text : String}
    (same : sanitizePayload tables secrets value = .str text) : ∃ given, text = redactText secrets given := by
  cases value <;> simp only [sanitizePayload, reduceCtorEq, Json.str.injEq] at same
  exact ⟨_, same.symm⟩

/-- Redaction renders nothing unprintable. -/
theorem sanitizePayload_printable (tables : CharTables) (secrets : List String) {value : Json}
    (clean : value.printable = true) : (sanitizePayload tables secrets value).printable = true := by
  -- by the size of the value: the items of a list or of an object are smaller
  induction size : sizeOf value using Nat.strong_induction_on generalizing value with
  | _ size ih =>
    subst size
    cases value with
    | null | bool | int | float => simpa only [sanitizePayload] using clean
    | str text => simp only [sanitizePayload, Json.printable]
    | arr items =>
      rw [Json.printable, Json.printableList_iff] at clean
      rw [sanitizePayload, sanitizeList_eq_map, Json.printable, Json.printableList_iff]
      intro item member
      obtain ⟨given, among, rfl⟩ := List.mem_map.mp member
      have smaller := List.sizeOf_lt_of_mem among
      exact ih _ (by simp only [Json.arr.sizeOf_spec]; omega) (clean given among) rfl
    | obj items =>
      rw [Json.printable, Json.printableItems_iff] at clean
      rw [sanitizePayload, sanitizeItems_eq_map, Json.printable, Json.printableItems_iff]
      intro item member
      obtain ⟨⟨key, given⟩, among, rfl⟩ := List.mem_map.mp member
      have smaller := List.sizeOf_lt_of_mem among
      simp only [sanitizedItem]
      split
      · rfl
      · exact ih _ (by simp only [Json.obj.sizeOf_spec]; simp at smaller; omega) (clean _ among) rfl

theorem Json.Within.of_str {part : Json} {text : String} (within : Json.Within part (.str text)) :
    part = .str text := by
  cases within
  rfl

/-- Everything in a sanitized value is a marker or the sanitized form of something shown. -/
theorem shown_of_within {part result : Json} (within : Json.Within part result) :
    ∀ value, result = sanitizePayload tables secrets value → part = .str redacted ∨
      ∃ given, Json.Shown tables given value ∧ part = sanitizePayload tables secrets given := by
  induction within with
  | self => exact fun value same => .inr ⟨value, .self, same⟩
  | @item inner key items member inside ih =>
    intro value same
    obtain ⟨given, rfl, rfl⟩ := sanitizePayload_eq_obj same.symm
    obtain ⟨⟨name, item⟩, among, pair⟩ := List.mem_map.mp member
    obtain ⟨rfl, rfl⟩ := Prod.mk.inj pair
    cases hidden : isSensitiveKey tables name with
    | true =>
      have marker : sanitizedItem tables secrets (name, item) = .str redacted := if_pos hidden
      rw [marker] at inside
      exact .inl inside.of_str
    | false =>
      have cleaned : sanitizedItem tables secrets (name, item) = sanitizePayload tables secrets item :=
        if_neg (Bool.eq_false_iff.mp hidden)
      exact (ih item cleaned).imp_right fun ⟨origin, shown, same⟩ => ⟨origin, .item among hidden shown, same⟩
  | element member inside ih =>
    intro value same
    obtain ⟨given, rfl, rfl⟩ := sanitizePayload_eq_arr same.symm
    obtain ⟨item, among, rfl⟩ := List.mem_map.mp member
    exact (ih item rfl).imp_right fun ⟨origin, shown, same⟩ => ⟨origin, .element among shown, same⟩

theorem Json.Shown.within {given value : Json} (shown : Json.Shown tables given value) :
    Json.Within (sanitizePayload tables secrets given) (sanitizePayload tables secrets value) := by
  induction shown with
  | self => exact .self
  | @item inner key items member plain inside ih =>
    rw [sanitizePayload, sanitizeItems_eq_map]
    have cleaned : sanitizedItem tables secrets (key, inner) = sanitizePayload tables secrets inner :=
      if_neg (Bool.eq_false_iff.mp plain)
    have stored := List.mem_map_of_mem (f := fun item => (item.1, sanitizedItem tables secrets item)) member
    rw [cleaned] at stored
    exact .item stored ih
  | element member inside ih =>
    rw [sanitizePayload, sanitizeList_eq_map]
    exact .element (List.mem_map_of_mem member) ih

/-- The sanitizer reaches every leaf and every sensitive key, and no key's own text. -/
theorem concealed_sanitizePayload (unlike : Unlike secrets redacted) (value : Json) :
    Concealed tables secrets (sanitizePayload tables secrets value) ↔ KeysClear tables secrets value := by
  constructor
  · intro concealed items key item shown member
    have within : (sanitizePayload tables secrets (.obj items)).Within (sanitizePayload tables secrets value) := shown.within
    rw [sanitizePayload, sanitizeItems_eq_map] at within
    exact concealed.keys _ key _ within (List.mem_map_of_mem member)
  · intro clear
    refine ⟨fun text within => ?_, fun items key item within member => ?_, fun items key item within member hidden => ?_⟩
    · rcases shown_of_within within value rfl with marker | ⟨given, -, same⟩
      · obtain rfl := Json.str.inj marker
        exact not_reveals_redacted unlike
      · obtain ⟨origin, rfl⟩ := sanitizePayload_eq_str same.symm
        exact not_reveals_redactText unlike origin
    · rcases shown_of_within within value rfl with marker | ⟨given, shown, same⟩
      · cases marker
      · obtain ⟨origin, rfl, rfl⟩ := sanitizePayload_eq_obj same.symm
        obtain ⟨⟨name, inner⟩, among, pair⟩ := List.mem_map.mp member
        obtain ⟨rfl, -⟩ := Prod.mk.inj pair
        exact clear origin name inner shown among
    · rcases shown_of_within within value rfl with marker | ⟨given, -, same⟩
      · cases marker
      · obtain ⟨origin, rfl, rfl⟩ := sanitizePayload_eq_obj same.symm
        obtain ⟨⟨name, inner⟩, -, pair⟩ := List.mem_map.mp member
        obtain ⟨rfl, rfl⟩ := Prod.mk.inj pair
        exact if_pos hidden

/-- The payload and the attributes that are stored for an event. -/
structure EventRow.Concealed (cfg : StoreSettings) (row : EventRow) : Prop where
  payload : ReliabilityLab.Concealed cfg.tables cfg.secretValues row.payload
  attributes : ReliabilityLab.Concealed cfg.tables cfg.secretValues row.attributes

structure TraceEvent.KeysClear (cfg : StoreSettings) (event : TraceEvent) : Prop where
  payload : ReliabilityLab.KeysClear cfg.tables cfg.secretValues event.payload
  attributes : ReliabilityLab.KeysClear cfg.tables cfg.secretValues event.attributes

/-- One writer committed, and these are the rows it stored for its events, in order. -/
inductive EventsStored (cfg : StoreSettings) (st : Store) : List TraceEvent → List EventRow → Prop
  | append {event after rows} : Settles (Store.appendEvent cfg event) st (.ok ()) after →
      after.events = st.events ++ rows → EventsStored cfg st [event] rows
  | save {now run events owner version saved after rows} :
      Settles (Store.saveRunOwnedWithEvents cfg now run events owner version) st (.ok saved) after →
        after.events = st.events ++ rows → EventsStored cfg st events rows

theorem insertEvents_rows (events : List TraceEvent) (st : Store) :
    ∃ rows, (st.insertEvents events).events = st.events ++ rows ∧
      List.Forall₂ (fun event row => row.payload = event.payload ∧ row.attributes = event.attributes) events rows := by
  induction events generalizing st with
  | nil => exact ⟨[], by simp [Store.insertEvents], .nil⟩
  | cons event rest ih =>
    have first : ∃ row, (st.insertEvent event).events = st.events ++ [row] ∧ row.payload = event.payload ∧
        row.attributes = event.attributes := ⟨_, rfl, rfl, rfl⟩
    obtain ⟨row, added, payload, attributes⟩ := first
    obtain ⟨rows, stored, related⟩ := ih (st.insertEvent event)
    refine ⟨row :: rows, ?_, .cons ⟨payload, attributes⟩ related⟩
    have whole : st.insertEvents (event :: rest) = (st.insertEvent event).insertEvents rest := rfl
    rw [whole, stored, added, List.append_assoc]
    rfl

variable {cfg : StoreSettings} {st : Store} {events : List TraceEvent} {rows : List EventRow}

/-- Both writers store the sanitized events. -/
theorem EventsStored.sanitized (stored : EventsStored cfg st events rows) :
    List.Forall₂ (fun event row => row.payload = Store.sanitize cfg event.payload ∧
      row.attributes = Store.sanitize cfg event.attributes) events rows := by
  have inserted : ∀ {base after : Store} {events : List TraceEvent} {rows : List EventRow},
      base.events = st.events → after = base.insertEvents (events.map (Store.cleanEvent cfg)) →
      after.events = st.events ++ rows →
      List.Forall₂ (fun event row => row.payload = Store.sanitize cfg event.payload ∧
        row.attributes = Store.sanitize cfg event.attributes) events rows := by
    intro base after events rows before same added
    obtain ⟨given, result, related⟩ := insertEvents_rows (events.map (Store.cleanEvent cfg)) base
    have whole : st.events ++ rows = st.events ++ given := by rw [← added, same, result, before]
    rw [List.append_cancel_left whole]
    exact List.forall₂_map_left_iff.mp related
  cases stored with
  | append settled added => exact inserted rfl (Store.appendEvent_ok settled.ok) added
  | save settled added =>
    obtain ⟨updated, result, same⟩ := Store.saveRunOwnedWithEvents_ok settled.ok
    obtain ⟨_, _, -, -, -, -, -, -, rfl⟩ := Store.updateOwned_ok result
    have kept : ∀ id row, (st.setRun id row).events = st.events := fun _ _ => rfl
    exact inserted (kept _ _) same added

/-- A stored event shows no secret exactly when none is in a key of the event
that the sanitizer reaches. -/
theorem stored_events_concealed (unlike : Unlike cfg.secretValues redacted) (stored : EventsStored cfg st events rows) :
    List.Forall₂ (fun event row => row.Concealed cfg ↔ event.KeysClear cfg) events rows := by
  refine stored.sanitized.imp fun event row same => ?_
  have payload : ReliabilityLab.Concealed cfg.tables cfg.secretValues row.payload ↔
      ReliabilityLab.KeysClear cfg.tables cfg.secretValues event.payload := by
    rw [same.1]
    exact concealed_sanitizePayload unlike event.payload
  have attributes : ReliabilityLab.Concealed cfg.tables cfg.secretValues row.attributes ↔
      ReliabilityLab.KeysClear cfg.tables cfg.secretValues event.attributes := by
    rw [same.2]
    exact concealed_sanitizePayload unlike event.attributes
  constructor
  · intro concealed
    exact ⟨payload.mp concealed.payload, attributes.mp concealed.attributes⟩
  · intro clear
    exact ⟨payload.mpr clear.payload, attributes.mpr clear.attributes⟩

def secretSettings : StoreSettings := { plainSettings with secretValues := ["hunter2"] }

/-- The secret as the name of a field. -/
def namedEvent : TraceEvent := { plainEvent 1 with payload := .obj [("hunter2", .null)] }

/-- The secret in the middle of a value. -/
def quotedEvent : TraceEvent := { plainEvent 1 with payload := .obj [("note", .str "is hunter2.")] }

theorem secretSettings_unlike : Unlike secretSettings.secretValues redacted := by
  have apart : ("hunter2".toList.all fun c => !redacted.toList.contains c) = true := by decide
  intro secret member c inside
  rw [List.mem_singleton.mp member] at inside
  simpa using List.all_eq_true.mp apart c inside

theorem appended (event : TraceEvent) (dumpable : Store.dumpableEvent (Store.cleanEvent secretSettings event) = true) :
    ∃ row, EventsStored secretSettings Store.empty [event] [row] ∧
      row.payload = Store.sanitize secretSettings event.payload := by
  have done : Store.appendEvent secretSettings event Store.empty =
      .ok ((), Store.empty.insertEvent (Store.cleanEvent secretSettings event)) := if_pos dumpable
  exact ⟨_, .append (.committed done) rfl, rfl⟩

/-- The sanitizer cleans the values of a quoted secret. -/
theorem stored_events_concealed_value : ∃ row, EventsStored secretSettings Store.empty [quotedEvent] [row] ∧
    row.payload = .obj [("note", .str "is [REDACTED].")] ∧ (row.Concealed secretSettings ↔ quotedEvent.KeysClear secretSettings) := by
  obtain ⟨row, stored, payload⟩ := appended quotedEvent (by decide)
  have related := stored_events_concealed secretSettings_unlike stored
  exact ⟨row, stored, payload.trans rfl, (List.forall₂_cons.mp related).1⟩

/-- The name of a field is stored as it is. -/
theorem field_name_revealed : ∃ row, EventsStored secretSettings Store.empty [namedEvent] [row] ∧
    ¬ row.Concealed secretSettings := by
  obtain ⟨row, stored, payload⟩ := appended namedEvent (by decide)
  refine ⟨row, stored, fun concealed => ?_⟩
  have kept : row.payload = .obj [("hunter2", .null)] := payload
  have within : Json.Within (.obj [("hunter2", .null)]) row.payload := kept ▸ .self
  have shown : Reveals secretSettings.secretValues "hunter2" :=
    ⟨"hunter2", List.mem_cons_self, by decide, List.infix_refl _⟩
  exact concealed.payload.keys _ _ _ within List.mem_cons_self shown

end ReliabilityLab
