import Mathlib.Data.Rat.Defs
import ReliabilityLab.Domain
import ReliabilityLab.Foundation.Checker
import ReliabilityLab.Foundation.Transducer

namespace ReliabilityLab

/-- What the server says of a request; names and values of headers are decoded. -/
structure Scope where
  type : String
  method : String
  path : String
  headers : List (String × String)

/-- The answers; texts of the page, its style and its script are left out. -/
inductive DesktopReply where
  | json (detail : String) (status : Nat)
  | plain (status : Nat)
  | redirect (location : String) (setCookie : String)
  | page (name : String)
  | style
  | script
  | stopped
  | application
  | raised (error : Exn)
  deriving DecidableEq

def DesktopReply.redirects : DesktopReply → Bool
  | .redirect _ _ => true
  | _ => false

/-- The answer as others can tell it: the cookie itself is not shown to them. -/
def DesktopReply.public : DesktopReply → DesktopReply
  | .redirect location _ => .redirect location ""
  | reply => reply

/-- What changes: whether the link was used, the requests that the application got, and those that stopped the server. -/
structure DesktopState where
  launched : Bool
  forwarded : List Scope
  stoppers : List Scope

def isAsciiText (text : String) : Bool := text.toList.all fun c => c.toNat < 128

/-- `hmac.compare_digest` of two texts. -/
def compareDigest (a b : String) : Except Exn Bool :=
  if isAsciiText a && isAsciiText b then .ok (a = b) else .error (.other "TypeError")

def removePrefix (text start : String) : String :=
  if start.toList.isPrefixOf text.toList then String.ofList (text.toList.drop start.length) else text

/-- The constants of `DesktopSession`. `cookieValue` is `SimpleCookie`: the value of a name in a header, nothing where it
is missing or the header is refused, or the exception that escapes. -/
structure DesktopSession where
  origin : String
  name : String
  nonce : String
  deadline : ℚ
  token : String
  cookieValue : String → String → Except Exn (Option String)
  nonce_ascii : isAsciiText nonce = true
  token_ascii : isAsciiText token = true

namespace DesktopSession

/-- Names in lower case; the last value of a name counts, and four of them may occur only once. -/
def collectHeaders (headers : List (String × String)) : List (String × String) → Option (List (String × String))
  | [] => some headers
  | (key, value) :: rest =>
    let key := String.ofList (key.toList.map Char.toLower)
    if (headers.lookup key).isSome && key ∈ ["host", "origin", "cookie", "content-length"] then none
    else collectHeaders ((key, value) :: headers) rest

variable (session : DesktopSession)

def launchPath : String := "/__launch/" ++ session.nonce

/-- The name ends with the port, the text after the last colon of the origin. -/
def cookieName : String :=
  "desktop_session_" ++ String.ofList (session.origin.toList.reverse.takeWhile (· ≠ ':')).reverse

def cookie : String := session.cookieName ++ "=" ++ session.token ++ "; Path=/; HttpOnly; SameSite=Strict"

/-- Only this local application: the host is ours, and no other site sent the request. -/
def local? (headers : List (String × String)) : Bool :=
  headers.lookup "host" = some (removePrefix session.origin "http://") &&
    (headers.lookup "origin").all (· = session.origin) &&
    !((headers.lookup "sec-fetch-site").any (· ∈ ["cross-site", "same-site"]))

def authorized (headers : List (String × String)) : Except Exn Bool := do
  match ← session.cookieValue session.cookieName ((headers.lookup "cookie").getD "") with
  | some value => compareDigest value session.token
  | none => pure false

/-- The launch link, for the first who follows it in time. -/
def launch (now : ℚ) (scope : Scope) (st : DesktopState) : DesktopState × DesktopReply :=
  if scope.method ≠ "GET" ∨ st.launched = true ∨ session.deadline < now then (st, .plain 404)
  else match compareDigest scope.path session.launchPath with
    | .error error => (st, .raised error)
    | .ok false => (st, .plain 404)
    | .ok true => ({ st with launched := true }, .redirect "/__desktop" session.cookie)

def forward (scope : Scope) (st : DesktopState) : DesktopState × DesktopReply :=
  ({ st with forwarded := st.forwarded ++ [scope] }, .application)

def stop (headers : List (String × String)) (scope : Scope) (st : DesktopState) : DesktopState × DesktopReply :=
  if scope.method = "POST" ∧ headers.lookup "x-desktop-request" = some "1" ∧
      headers.lookup "content-type" = some "application/json" then ({ st with stoppers := st.stoppers ++ [scope] }, .stopped)
  else (st, .plain 403)

/-- What a request with the cookie gets. -/
def serve (headers : List (String × String)) (scope : Scope) (st : DesktopState) : DesktopState × DesktopReply :=
  if scope.path = "/__desktop" then (st, .page session.name)
  else if scope.path = "/__desktop.css" then (st, .style)
  else if scope.path = "/__desktop.js" then (st, .script)
  else if scope.path = "/__stop" then stop headers scope st
  else forward scope st

def isLaunch (path : String) : Bool := "/__launch/".toList.isPrefixOf path.toList

/-- `__call__`, up to its first `await`. -/
def call (now : ℚ) (scope : Scope) (st : DesktopState) : DesktopState × DesktopReply :=
  if scope.type ≠ "http" then forward scope st
  else match collectHeaders [] scope.headers with
    | none => (st, .json "Duplicate header" 400)
    | some headers =>
      if session.local? headers then
        if isLaunch scope.path then session.launch now scope st
        else match session.authorized headers with
          | .error error => (st, .raised error)
          | .ok false => (st, .json "Please launch the downloaded application again" 401)
          | .ok true => session.serve headers scope st
      else (st, .json "Only this local application may access the service" 403)

/-- The session, asked at different times. -/
def transducer : Transducer DesktopState (ℚ × Scope) DesktopReply where
  step st request := session.call request.1 request.2 st

def fresh : DesktopState := ⟨false, [], []⟩

/-- A request from this application with the cookie of the session. -/
def entitled (scope : Scope) : Bool :=
  match collectHeaders [] scope.headers with
  | some headers =>
    session.local? headers && !isLaunch scope.path &&
      match session.authorized headers with
      | .ok verdict => verdict
      | .error _ => false
  | none => false

/-- The requests that get through to the application. -/
def passes (scope : Scope) : Bool :=
  scope.type ≠ "http" ||
    session.entitled scope && !(scope.path ∈ ["/__desktop", "/__desktop.css", "/__desktop.js", "/__stop"])

/-- The requests that stop the server. -/
def stopping (scope : Scope) : Bool :=
  scope.type = "http" && session.entitled scope && scope.path = "/__stop" && scope.method = "POST" &&
    match collectHeaders [] scope.headers with
    | some headers => headers.lookup "x-desktop-request" = some "1" && headers.lookup "content-type" = some "application/json"
    | none => false

variable {session} {now : ℚ} {scope : Scope} {st : DesktopState} {headers : List (String × String)}

/-- All that a request can do. -/
inductive Effect (session : DesktopSession) (now : ℚ) (scope : Scope) (st : DesktopState) : DesktopState × DesktopReply → Prop
  | kept (reply : DesktopReply) : session.passes scope = false → session.stopping scope = false →
      (∀ location setCookie, reply ≠ .redirect location setCookie) → Effect session now scope st (st, reply)
  | launched (headers : List (String × String)) : session.passes scope = false → session.stopping scope = false →
      collectHeaders [] scope.headers = some headers → session.local? headers = true → scope.method = "GET" →
      scope.path = session.launchPath → st.launched = false → now ≤ session.deadline →
      Effect session now scope st ({ st with launched := true }, .redirect "/__desktop" session.cookie)
  | forwarded : session.passes scope = true → session.stopping scope = false →
      Effect session now scope st ({ st with forwarded := st.forwarded ++ [scope] }, .application)
  | stopped : session.passes scope = false → session.stopping scope = true →
      Effect session now scope st ({ st with stoppers := st.stoppers ++ [scope] }, .stopped)

theorem outside (session : DesktopSession) (http : scope.type = "http") (stranger : session.entitled scope = false) :
    session.passes scope = false ∧ session.stopping scope = false := by
  simp [passes, stopping, http, stranger]

theorem launch_effect (http : scope.type = "http") (stranger : session.entitled scope = false)
    (found : collectHeaders [] scope.headers = some headers) (own : session.local? headers = true) :
    Effect session now scope st (session.launch now scope st) := by
  obtain ⟨kept, quiet⟩ := outside session http stranger
  unfold launch
  split
  · exact .kept _ kept quiet fun _ _ same => by cases same
  · rename_i open_
    simp only [not_or, not_not, Bool.not_eq_true] at open_
    obtain ⟨method, unused, early⟩ := open_
    split
    · exact .kept _ kept quiet fun _ _ same => by cases same
    · exact .kept _ kept quiet fun _ _ same => by cases same
    · rename_i same
      have path : scope.path = session.launchPath := by
        unfold compareDigest at same
        split at same
        · simpa using same
        · cases same
      exact .launched headers kept quiet found own method path unused (Rat.not_lt.mp early)

theorem stop_effect (http : scope.type = "http") (known : session.entitled scope = true) (path : scope.path = "/__stop")
    (found : collectHeaders [] scope.headers = some headers) : Effect session now scope st (stop headers scope st) := by
  have kept : session.passes scope = false := by simp [passes, http, path]
  unfold stop
  split
  · rename_i asks
    exact .stopped kept (by simp [stopping, http, known, path, found, asks])
  · rename_i refuses
    have quiet : session.stopping scope = false := by
      simp only [stopping, found, http, known, path, Bool.and_eq_false_iff]
      simp only [not_and] at refuses
      by_cases method : scope.method = "POST"
      · have other := refuses method
        simp only [method, decide_true, decide_eq_false_iff_not]
        by_cases asked : headers.lookup "x-desktop-request" = some "1"
        · exact .inr (.inr (other asked))
        · exact .inr (.inl asked)
      · simp [method]
    exact .kept _ kept quiet fun _ _ same => by cases same

theorem serve_effect (http : scope.type = "http") (known : session.entitled scope = true)
    (found : collectHeaders [] scope.headers = some headers) :
    Effect session now scope st (session.serve headers scope st) := by
  have page : ∀ reply : DesktopReply, scope.path ∈ ["/__desktop", "/__desktop.css", "/__desktop.js"] →
      (∀ location setCookie, reply ≠ .redirect location setCookie) → Effect session now scope st (st, reply) := by
    intro reply own plain
    refine .kept reply ?_ ?_ plain
    · simp only [List.mem_cons, List.not_mem_nil, or_false] at own
      rcases own with own | own | own <;> simp [passes, http, own]
    · simp only [List.mem_cons, List.not_mem_nil, or_false] at own
      rcases own with own | own | own <;> simp [stopping, own]
  unfold serve
  split
  · rename_i own
    exact page _ (by simp [own]) fun _ _ same => by cases same
  · split
    · rename_i own
      exact page _ (by simp [own]) fun _ _ same => by cases same
    · split
      · rename_i own
        exact page _ (by simp [own]) fun _ _ same => by cases same
      · split
        · rename_i path
          exact stop_effect http known path found
        · rename_i desktop css js stop
          exact .forwarded (by simp [passes, known, desktop, css, js, stop]) (by simp [stopping, stop])

theorem call_effect (session : DesktopSession) (now : ℚ) (scope : Scope) (st : DesktopState) :
    Effect session now scope st (session.call now scope st) := by
  unfold call
  split
  · rename_i other
    exact .forwarded (by simp [passes, other]) (by simp [stopping, other])
  · rename_i http
    have http := not_not.mp http
    split
    · rename_i repeated
      obtain ⟨kept, quiet⟩ := outside session http (by simp [entitled, repeated])
      exact .kept _ kept quiet fun _ _ same => by cases same
    · rename_i headers found
      split
      · rename_i own
        split
        · rename_i link
          exact launch_effect http (by simp [entitled, found, link]) found own
        · rename_i plain
          split
          · rename_i error raised
            obtain ⟨kept, quiet⟩ := outside session http (by simp [entitled, found, raised])
            exact .kept _ kept quiet fun _ _ same => by cases same
          · rename_i stranger
            obtain ⟨kept, quiet⟩ := outside session http (by simp [entitled, found, stranger])
            exact .kept _ kept quiet fun _ _ same => by cases same
          · rename_i known
            exact serve_effect http (by simp [entitled, found, own, plain, known]) found
      · rename_i foreign
        obtain ⟨kept, quiet⟩ := outside session http (by simp [entitled, found, foreign])
        exact .kept _ kept quiet fun _ _ same => by cases same

/-! Runs: requests one after another, each at its time. -/

/-- Why a request may be answered with the cookie. -/
def Follows (session : DesktopSession) (request : ℚ × Scope) (reply : DesktopReply) : Prop :=
  reply.redirects = true → request.2.method = "GET" ∧ request.2.path = session.launchPath ∧ request.1 ≤ session.deadline ∧
    ∃ headers, collectHeaders [] request.2.headers = some headers ∧ session.local? headers = true

/-- The cookie is handed out at most once, in time, to a local request that follows the launch link. -/
theorem cookie_disclosed_once (session : DesktopSession) (requests : List (ℚ × Scope)) :
    ((session.transducer.answers fresh requests).filter DesktopReply.redirects).length ≤ 1 ∧
      List.Forall₂ session.Follows requests (session.transducer.answers fresh requests) := by
  have plain : ∀ {reply : DesktopReply}, (∀ location setCookie, reply ≠ .redirect location setCookie) →
      ¬ reply.redirects = true := by
    intro reply other redirects
    cases reply <;> cases redirects
    exact other _ _ rfl
  constructor
  · refine Transducer.answered_once (fun st => st.launched = false) ?_ ?_ requests
    · intro st request grants
      have effect := call_effect session request.1 request.2 st
      show st.launched = false ∧ ¬ (session.call request.1 request.2 st).1.launched = false
      have grants : (session.call request.1 request.2 st).2.redirects = true := grants
      generalize session.call request.1 request.2 st = after at *
      cases effect with
      | kept reply _ _ other => exact absurd grants (plain other)
      | launched headers _ _ _ _ _ _ unused => exact ⟨unused, by simp⟩
      | forwarded | stopped => cases grants
    · intro st request used
      have effect := call_effect session request.1 request.2 st
      show ¬ (session.call request.1 request.2 st).1.launched = false
      generalize session.call request.1 request.2 st = after at *
      cases effect with
      | launched headers _ _ _ _ _ _ unused => exact absurd unused used
      | kept | forwarded | stopped => exact used
  · refine (Transducer.answers_related (fun _ => True) ?_ trivial requests).2
    intro st request _
    refine ⟨trivial, fun grants => ?_⟩
    have effect := call_effect session request.1 request.2 st
    have grants : (session.call request.1 request.2 st).2.redirects = true := grants
    generalize session.call request.1 request.2 st = after at *
    cases effect with
    | kept reply _ _ other => exact absurd grants (plain other)
    | launched headers _ _ found own method path _ early => exact ⟨method, path, early, headers, found, own⟩
    | forwarded | stopped => cases grants

/-- A request that shows the cookie of the session to its own origin. -/
def Bears (session : DesktopSession) (scope : Scope) : Prop :=
  ∃ headers, collectHeaders [] scope.headers = some headers ∧ session.local? headers = true ∧
    session.cookieValue session.cookieName ((headers.lookup "cookie").getD "") = .ok (some session.token)

theorem entitled_bears (known : session.entitled scope = true) : session.Bears scope := by
  unfold entitled at known
  split at known
  · rename_i headers found
    simp only [Bool.and_eq_true] at known
    obtain ⟨⟨own, -⟩, verdict⟩ := known
    refine ⟨headers, found, own, ?_⟩
    split at verdict
    · rename_i value accepted
      subst verdict
      unfold authorized at accepted
      obtain ⟨found, read, compared⟩ := Check.bind_ok.mp accepted
      cases found with
      | none => cases compared
      | some value =>
        simp only [compareDigest] at compared
        split at compared
        · rw [read, of_decide_eq_true (Except.ok.inj compared)]
        · cases compared
    · cases verdict
  · cases known

/-- The application gets exactly the requests that pass, in their order, and the server is stopped by exactly those that
ask for it; over HTTP all of them bear the cookie. -/
theorem application_guarded (session : DesktopSession) (requests : List (ℚ × Scope)) :
    (session.transducer.after fresh requests).forwarded = (requests.map Prod.snd).filter session.passes ∧
      (session.transducer.after fresh requests).stoppers = (requests.map Prod.snd).filter session.stopping ∧
      ∀ scope, scope.type = "http" → session.passes scope = true ∨ session.stopping scope = true → session.Bears scope := by
  have logs : ∀ (st : DesktopState) (request : ℚ × Scope),
      (session.transducer.step st request).1.forwarded =
          st.forwarded ++ (if session.passes request.2 then [request.2] else []) ∧
        (session.transducer.step st request).1.stoppers =
          st.stoppers ++ (if session.stopping request.2 then [request.2] else []) := by
    intro st request
    have effect := call_effect session request.1 request.2 st
    show (session.call request.1 request.2 st).1.forwarded = _ ∧ (session.call request.1 request.2 st).1.stoppers = _
    generalize session.call request.1 request.2 st = after at *
    cases effect with
    | kept _ stays quiet | launched _ stays quiet | forwarded stays quiet | stopped stays quiet => simp [stays, quiet]
  refine ⟨?_, ?_, ?_⟩
  · exact Transducer.log_after session.passes Prod.snd (fun st request => (logs st request).1) requests
  · exact Transducer.log_after session.stopping Prod.snd (fun st request => (logs st request).2) requests
  · intro scope http through
    refine entitled_bears ?_
    rcases through with passes | stops
    · simp only [DesktopSession.passes, http, ne_eq, not_true, decide_false, Bool.false_or, Bool.and_eq_true] at passes
      exact passes.1
    · simp only [DesktopSession.stopping, Bool.and_eq_true] at stops
      exact stops.1.1.1.2

/-! Two sessions that differ in their secrets only. -/

/-- The request neither follows the launch link nor shows the cookie. -/
def Stranger (session : DesktopSession) (scope : Scope) : Prop :=
  scope.path ≠ session.launchPath ∧ ∀ headers, collectHeaders [] scope.headers = some headers →
    session.cookieValue session.cookieName ((headers.lookup "cookie").getD "") ≠ .ok (some session.token)

structure Alike (session other : DesktopSession) : Prop where
  origin : session.origin = other.origin
  name : session.name = other.name
  deadline : session.deadline = other.deadline
  cookieValue : session.cookieValue = other.cookieValue

/-- The same request of somebody else, or the same request of the user, who has the link and the cookie of the session. -/
inductive Twins (session other : DesktopSession) : ℚ × Scope → ℚ × Scope → Prop
  | stranger (now : ℚ) (scope : Scope) : session.Stranger scope → other.Stranger scope →
      Twins session other (now, scope) (now, scope)
  | link (now : ℚ) (scope : Scope) :
      Twins session other (now, { scope with path := session.launchPath }) (now, { scope with path := other.launchPath })
  | bearer (now : ℚ) (scope : Scope) (headers others own theirs : List (String × String)) :
      isLaunch scope.path = false → collectHeaders [] headers = some own → collectHeaders [] others = some theirs →
      (∀ key ≠ "cookie", own.lookup key = theirs.lookup key) →
      session.cookieValue session.cookieName ((own.lookup "cookie").getD "") = .ok (some session.token) →
      other.cookieValue other.cookieName ((theirs.lookup "cookie").getD "") = .ok (some other.token) →
      Twins session other (now, { scope with headers := headers }) (now, { scope with headers := others })

section Secrets
variable {other : DesktopSession} {st' : DesktopState}

theorem isAsciiText_append {a b : String} (first : isAsciiText a = true) (second : isAsciiText b = true) :
    isAsciiText (a ++ b) = true := by
  simp only [isAsciiText, String.toList_append, List.all_append, Bool.and_eq_true]
  exact ⟨first, second⟩

theorem launchPath_ascii (session : DesktopSession) : isAsciiText session.launchPath = true :=
  isAsciiText_append (by decide) session.nonce_ascii

/-- Comparison with a secret tells nothing to those who do not have it. -/
theorem compareDigest_other {text secret : String} (ascii : isAsciiText secret = true) (different : text ≠ secret) :
    compareDigest text secret = if isAsciiText text then .ok false else .error (.other "TypeError") := by
  simp only [compareDigest, ascii, Bool.and_true, different, decide_false]

theorem compareDigest_self {secret : String} (ascii : isAsciiText secret = true) : compareDigest secret secret = .ok true := by
  simp [compareDigest, ascii]

theorem Alike.cookieName (alike : session.Alike other) : session.cookieName = other.cookieName := by
  rw [DesktopSession.cookieName, DesktopSession.cookieName, alike.origin]

theorem local_same (alike : session.Alike other) {own theirs : List (String × String)}
    (same : ∀ key ≠ "cookie", own.lookup key = theirs.lookup key) : session.local? own = other.local? theirs := by
  rw [local?, local?, alike.origin, same "host" (by decide), same "origin" (by decide), same "sec-fetch-site" (by decide)]

theorem authorized_stranger (alike : session.Alike other) (blind : session.Stranger scope) (blind' : other.Stranger scope)
    (found : collectHeaders [] scope.headers = some headers) : session.authorized headers = other.authorized headers := by
  have unknown := blind.2 headers found
  have unknown' := blind'.2 headers found
  rw [authorized, authorized, alike.cookieName, alike.cookieValue]
  rw [alike.cookieName, alike.cookieValue] at unknown
  cases read : other.cookieValue other.cookieName ((headers.lookup "cookie").getD "") with
  | error error => rfl
  | ok shown =>
    cases shown with
    | none => rfl
    | some value =>
      rw [read] at unknown unknown'
      show compareDigest value session.token = compareDigest value other.token
      rw [compareDigest_other session.token_ascii fun same => unknown (by rw [same]),
        compareDigest_other other.token_ascii fun same => unknown' (by rw [same])]

/-- The launch link as a stranger sees it. -/
theorem launch_stranger (now : ℚ) (alike : session.Alike other) (blind : session.Stranger scope) (blind' : other.Stranger scope)
    (same : st.launched = st'.launched) : ∃ reply, session.launch now scope st = (st, reply) ∧
      other.launch now scope st' = (st', reply) := by
  rw [launch, launch, alike.deadline, same, compareDigest_other session.launchPath_ascii blind.1,
    compareDigest_other other.launchPath_ascii blind'.1]
  split
  · exact ⟨_, rfl, rfl⟩
  · split
    · exact ⟨_, rfl, rfl⟩
    · exact ⟨_, rfl, rfl⟩
    · rename_i verdict
      split at verdict <;> cases verdict

theorem stranger_refused (blind : session.Stranger scope) (found : collectHeaders [] scope.headers = some headers) :
    session.authorized headers ≠ .ok true := by
  intro accepted
  obtain ⟨shown, read, compared⟩ := Check.bind_ok.mp accepted
  cases shown with
  | none => cases compared
  | some value =>
    have different : value ≠ session.token := fun same => blind.2 headers found (by rw [read, same])
    simp only [compareDigest_other session.token_ascii different] at compared
    split at compared <;> cases compared

theorem authorized_bearer (read : session.cookieValue session.cookieName ((headers.lookup "cookie").getD "") =
    .ok (some session.token)) : session.authorized headers = .ok true :=
  Check.bind_ok.mpr ⟨_, read, compareDigest_self session.token_ascii⟩

theorem isLaunch_launchPath (session : DesktopSession) : isLaunch session.launchPath = true := by
  rw [isLaunch, launchPath, String.toList_append, List.isPrefixOf_iff_prefix]
  exact List.prefix_append _ _

theorem call_stranger (now : ℚ) (alike : session.Alike other) (blind : session.Stranger scope) (blind' : other.Stranger scope)
    (same : st.launched = st'.launched) : (session.call now scope st).1.launched = (other.call now scope st').1.launched ∧
      (session.call now scope st).2 = (other.call now scope st').2 := by
  unfold call
  split
  · exact ⟨same, rfl⟩
  · split
    · exact ⟨same, rfl⟩
    · rename_i headers found
      rw [local_same alike fun key _ => rfl, authorized_stranger alike blind blind' found]
      split
      · split
        · obtain ⟨reply, left, right⟩ := launch_stranger now alike blind blind' same
          rw [left, right]
          exact ⟨same, rfl⟩
        · split
          · exact ⟨same, rfl⟩
          · exact ⟨same, rfl⟩
          · rename_i accepted
            exact absurd accepted (stranger_refused blind' found)
      · exact ⟨same, rfl⟩

theorem call_link (alike : session.Alike other) (same : st.launched = st'.launched) :
    (session.call now { scope with path := session.launchPath } st).1.launched =
        (other.call now { scope with path := other.launchPath } st').1.launched ∧
      (session.call now { scope with path := session.launchPath } st).2.public =
        (other.call now { scope with path := other.launchPath } st').2.public := by
  cases found : collectHeaders [] scope.headers with
  | none =>
    simp only [call, found]
    split
    · exact ⟨same, rfl⟩
    · exact ⟨same, rfl⟩
  | some headers =>
    have own : session.local? headers = other.local? headers := local_same alike fun key _ => rfl
    simp only [call, found, own, isLaunch_launchPath, if_true]
    split
    · exact ⟨same, rfl⟩
    · split
      · simp only [launch, alike.deadline, same, compareDigest_self, launchPath_ascii]
        split
        · exact ⟨same, rfl⟩
        · exact ⟨rfl, rfl⟩
      · exact ⟨same, rfl⟩

theorem serve_bearer (alike : session.Alike other) (same : st.launched = st'.launched)
    {left right : Scope} {own theirs : List (String × String)} (path : left.path = right.path) (method : left.method = right.method)
    (equal : ∀ key ≠ "cookie", own.lookup key = theirs.lookup key) :
    (session.serve own left st).1.launched = (other.serve theirs right st').1.launched ∧
      (session.serve own left st).2.public = (other.serve theirs right st').2.public := by
  simp only [serve, stop, path, method, alike.name, equal "x-desktop-request" (by decide), equal "content-type" (by decide)]
  split
  · exact ⟨same, rfl⟩
  · split
    · exact ⟨same, rfl⟩
    · split
      · exact ⟨same, rfl⟩
      · split
        · split
          · exact ⟨same, rfl⟩
          · exact ⟨same, rfl⟩
        · exact ⟨same, rfl⟩

theorem call_twins (alike : session.Alike other) {request request' : ℚ × Scope} (twins : session.Twins other request request')
    (same : st.launched = st'.launched) :
    (session.call request.1 request.2 st).1.launched = (other.call request'.1 request'.2 st').1.launched ∧
      (session.call request.1 request.2 st).2.public = (other.call request'.1 request'.2 st').2.public := by
  cases twins with
  | stranger now scope blind blind' =>
    obtain ⟨launched, reply⟩ := call_stranger now alike blind blind' same
    exact ⟨launched, congrArg DesktopReply.public reply⟩
  | link now scope => exact call_link alike same
  | bearer now scope headers others own theirs plain found found' equal read read' =>
    simp only [call, found, found', local_same alike equal, plain, authorized_bearer read, authorized_bearer read']
    split
    · exact ⟨same, rfl⟩
    · split
      · exact serve_bearer alike same rfl rfl equal
      · exact ⟨same, rfl⟩

/-- Whatever the two secrets are: users with their own link and cookie, and strangers in between, get the same answers. -/
theorem outsiders_learn_nothing (session other : DesktopSession) (alike : session.Alike other)
    (requests requests' : List (ℚ × Scope)) (twins : List.Forall₂ (session.Twins other) requests requests') :
    (session.transducer.answers fresh requests).map DesktopReply.public =
      (other.transducer.answers fresh requests').map DesktopReply.public := by
  have keeps : ∀ (st st' : DesktopState) (request request' : ℚ × Scope), st.launched = st'.launched →
      session.Twins other request request' →
      (session.transducer.step st request).1.launched = (other.transducer.step st' request').1.launched ∧
        (session.transducer.step st request).2.public = (other.transducer.step st' request').2.public :=
    fun st st' request request' same twin => call_twins alike twin same
  have pairs := (Transducer.in_step (fun st st' : DesktopState => st.launched = st'.launched)
    (fun reply reply' : DesktopReply => reply.public = reply'.public) keeps (rfl : fresh.launched = fresh.launched) twins).2
  rw [← List.forall₂_eq_eq_eq, List.forall₂_map_left_iff, List.forall₂_map_right_iff]
  exact pairs

/-! A stranger, the user who follows the link, and the user in the application. -/

def demoSession (nonce token : String) (nonce_ascii : isAsciiText nonce = true) (token_ascii : isAsciiText token = true) :
    DesktopSession where
  origin := "http://127.0.0.1:8123"
  name := "Lab"
  nonce := nonce
  deadline := 120
  token := token
  cookieValue name header := .ok (if (name ++ "=").toList.isPrefixOf header.toList then
    some (removePrefix header (name ++ "=")) else none)
  nonce_ascii := nonce_ascii
  token_ascii := token_ascii

def firstSession : DesktopSession := demoSession "aZ3" "t1" (by decide) (by decide)

def secondSession : DesktopSession := demoSession "k9_" "u-7" (by decide) (by decide)

def demoRequest (path : String) (more : List (String × String)) : Scope :=
  ⟨"http", "GET", path, ("Host", "127.0.0.1:8123") :: more⟩

def demoRequests (session : DesktopSession) : List (ℚ × Scope) :=
  [(1, demoRequest "/v1/runs" []), (2, demoRequest session.launchPath []),
    (3, demoRequest "/v1/runs" [("Cookie", session.cookieName ++ "=" ++ session.token)]), (4, demoRequest "/v1/runs" [])]

example : (firstSession.transducer.answers fresh (demoRequests firstSession)).map DesktopReply.public =
    [.json "Please launch the downloaded application again" 401, .redirect "/__desktop" "", .application,
      .json "Please launch the downloaded application again" 401] := by
  decide +kernel

theorem demo_twins : List.Forall₂ (firstSession.Twins secondSession) (demoRequests firstSession) (demoRequests secondSession) := by
  have headers : collectHeaders [] (demoRequest "/v1/runs" []).headers = some [("host", "127.0.0.1:8123")] := by
    decide +kernel
  have stranger : ∀ session : DesktopSession, session = firstSession ∨ session = secondSession →
      session.Stranger (demoRequest "/v1/runs" []) := by
    rintro session (rfl | rfl) <;> refine ⟨by decide, fun known found => ?_⟩
    all_goals
      rw [headers] at found
      cases found
      simp [firstSession, secondSession, demoSession]
  have bearer : firstSession.Twins secondSession
      (3, demoRequest "/v1/runs" [("Cookie", firstSession.cookieName ++ "=" ++ firstSession.token)])
      (3, demoRequest "/v1/runs" [("Cookie", secondSession.cookieName ++ "=" ++ secondSession.token)]) :=
    .bearer 3 (demoRequest "/v1/runs" []) _ _ [("cookie", "desktop_session_8123=t1"), ("host", "127.0.0.1:8123")]
      [("cookie", "desktop_session_8123=u-7"), ("host", "127.0.0.1:8123")] (by decide) (by decide +kernel) (by decide +kernel)
      (fun key other => by simp only [List.lookup_cons, beq_false_of_ne other]) (by decide +kernel) (by decide +kernel)
  have first := stranger firstSession (.inl rfl)
  have second := stranger secondSession (.inr rfl)
  exact .cons (.stranger 1 _ first second) (.cons (.link 2 (demoRequest "" []))
    (.cons bearer (.cons (.stranger 4 _ first second) .nil)))

theorem outsiders_learn_nothing_demo :
    (firstSession.transducer.answers fresh (demoRequests firstSession)).map DesktopReply.public =
      (secondSession.transducer.answers fresh (demoRequests secondSession)).map DesktopReply.public :=
  outsiders_learn_nothing firstSession secondSession ⟨rfl, rfl, rfl, rfl⟩ _ _ demo_twins

end Secrets

end DesktopSession

end ReliabilityLab
