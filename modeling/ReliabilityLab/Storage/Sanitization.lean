import ReliabilityLab.Foundation.Json
import Mathlib.Data.List.Sort

namespace ReliabilityLab

/-- The interpreter's Unicode tables beyond ASCII, for `str.lower` and `str.isalnum`. -/
structure CharTables where
  lower : Char → List Char
  isAlnum : Char → Bool

def redacted : String := "[REDACTED]"

def CharTables.lowerChar (tables : CharTables) (c : Char) : List Char :=
  if c.val < 128 then [c.toLower] else tables.lower c

def CharTables.alnumChar (tables : CharTables) (c : Char) : Bool :=
  if c.val < 128 then c.isAlphanum else tables.isAlnum c

def normalizeKey (tables : CharTables) (key : String) : List Char :=
  (key.toList.flatMap tables.lowerChar).filter tables.alnumChar

def sensitiveKeys : List String :=
  ["authorization", "apikey", "password", "secret", "token", "xapikey"]

def sensitiveKeySuffixes : List String :=
  ["authorization", "apikey", "credential", "credentials", "password", "privatekey", "secret", "token"]

def isSensitiveKey (tables : CharTables) (key : String) : Bool :=
  let normalized := normalizeKey tables key
  sensitiveKeys.any (·.toList = normalized) || sensitiveKeySuffixes.any (·.toList.isSuffixOf normalized)

/-- `text.replace(old, new)`, leftmost and without overlaps; the counter skips
the rest of an occurrence that was just replaced. -/
def replaceFrom (old new : List Char) : Nat → List Char → List Char
  | _, [] => []
  | skip + 1, _ :: rest => replaceFrom old new skip rest
  | 0, c :: rest =>
    if old.isPrefixOf (c :: rest) then new ++ replaceFrom old new (old.length - 1) rest
    else c :: replaceFrom old new 0 rest

def replaceText (text old new : String) : String :=
  String.ofList (replaceFrom old.toList new.toList 0 text.toList)

/-- The nonempty secrets, longest first. -/
def orderedSecrets (secrets : List String) : List String :=
  (secrets.filter (· ≠ "")).insertionSort fun a b => b.length ≤ a.length

def redactText (secrets : List String) (text : String) : String :=
  (orderedSecrets secrets).foldl (fun clean secret => replaceText clean secret redacted) text

mutual
def sanitizePayload (tables : CharTables) (secrets : List String) : Json → Json
  | .obj items => .obj (sanitizeItems tables secrets items)
  | .arr items => .arr (sanitizeList tables secrets items)
  | .str text => .str (redactText secrets text)
  | .null => .null
  | .bool value => .bool value
  | .int value => .int value
  | .float value => .float value

def sanitizeItems (tables : CharTables) (secrets : List String) : List (String × Json) → List (String × Json)
  | [] => []
  | (key, item) :: rest =>
    (key, if isSensitiveKey tables key then .str redacted else sanitizePayload tables secrets item) ::
      sanitizeItems tables secrets rest

def sanitizeList (tables : CharTables) (secrets : List String) : List Json → List Json
  | [] => []
  | item :: rest => sanitizePayload tables secrets item :: sanitizeList tables secrets rest
end

theorem lookup_sanitizeItems (tables : CharTables) (secrets : List String) (items : Dict) (key : String) :
    (sanitizeItems tables secrets items).lookup key =
      (items.lookup key).map fun item =>
        if isSensitiveKey tables key then .str redacted else sanitizePayload tables secrets item := by
  induction items with
  | nil => rfl
  | cons item rest ih =>
    obtain ⟨name, value⟩ := item
    by_cases same : key = name
    · subst same; simp [sanitizeItems]
    · simp only [sanitizeItems, List.lookup_cons, beq_false_of_ne same, ih]

end ReliabilityLab
