import ShellHub.Identities

/-!
# Forged identity headers

The identity of a caller travels to the handlers in request headers, and a client may send the same
headers. The authenticator resolves the credential, removes every identity header and stamps the
identity it resolved. This module compares two requests that differ only in the identity headers
which their clients sent.

What a handler reads of its caller is determined by the stamped identity alone, and the identity by
the two headers of credentials, which no forged line changes.
-/

namespace ShellHub.ForgedHeaders

open RequestBinding Identities Roles
open LetterCase (ignores_case)

/-! ## Routes -/

/-- The matched route of a request. -/
structure Route where
  method : String
  path : String

/-- The path starts with a prefix. -/
def Route.Under (route : Route) (start : String) : Prop := start.toList <+: route.path.toList

instance (route : Route) (start : String) : Decidable (route.Under start) :=
  inferInstanceAs (Decidable (_ <+: _))

/-- `isExempt`. -/
def isExempt (route : Route) : Bool := route.path = "/metrics" || route.Under "/metrics/"

/-- The authenticator: the routes that may be reached without a credential. -/
structure Authenticator where
  anonymous : List String

namespace Authenticator

/-- `isAnonymous`, for the method of the route or for any method. -/
def isAnonymous (authenticator : Authenticator) (route : Route) : Bool :=
  route.method ++ " " ++ route.path ∈ authenticator.anonymous ||
    "* " ++ route.path ∈ authenticator.anonymous

/-- `Authenticator.Middleware` on a route: the request that the handler is given, or a refusal. -/
def middleware (authenticator : Authenticator) (service : Answers) (route : Route)
    (request : Request) : Option Request :=
  if isExempt route then some request
  else service.middleware (authenticator.isAnonymous route) (route.Under "/admin/api") request

end Authenticator

/-! ## What a handler reads -/

/-- A value that is missing when it is empty. -/
def optional (text : String) : Option String := if text = "" then none else some text

/-- A value with a mark that tells whether there is one. -/
def marked (text : String) : String × Bool := (text, text != "")

/-- The caller as the accessors of the gateway context give it: `ID`, `Tenant`, `Username`, `GetID`,
`GetTennat`, `GetUsername`, `DeviceUID`, `Role` and `IsAdmin`. -/
structure Caller where
  id : Option String
  tenant : Option String
  username : Option String
  getID : String × Bool
  getTennat : String × Bool
  getUsername : String × Bool
  deviceUID : String
  role : Role
  isAdmin : Bool
  deriving DecidableEq, Repr

/-- The caller that a handler reads from the values of headers. -/
def callerOf (get : String → String) : Caller where
  id := optional (get "X-ID")
  tenant := optional (get "X-Tenant-ID")
  username := optional (get "X-Username")
  getID := marked (get "X-ID")
  getTennat := marked (get "X-Tenant-ID")
  getUsername := marked (get "X-Username")
  deviceUID := get "X-Device-UID"
  role := Role.ofString (get "X-Role")
  isAdmin := get "X-Admin" == "true"

/-- The caller that a handler reads from the request it is given. -/
def caller (request : Request) : Caller := callerOf request.headers.get

/-- Nobody. -/
def nobody : Caller :=
  ⟨none, none, none, ("", false), ("", false), ("", false), "", .invalid, false⟩

/-- The identity headers that carry no credential. -/
def forgeable : List String :=
  ["X-ID", "X-Username", "X-Tenant-ID", "X-Device-UID", "X-Role", "X-Admin"]

/-- The name of a line is that of a forgeable header, in any letter case. -/
def Forged (line : String × String) : Prop :=
  ∃ name ∈ forgeable, line.1.toList.map Char.toLower = name.toList.map Char.toLower

instance (line : String × String) : Decidable (Forged line) :=
  List.decidableBEx _ forgeable

/-- Two requests have the same header lines in the same order, up to the forged ones. -/
def DifferInForged (first second : Request) : Prop :=
  first.headers.filter (fun line => ¬ Forged line) =
    second.headers.filter fun line => ¬ Forged line

instance (first second : Request) : Decidable (DifferInForged first second) :=
  inferInstanceAs (Decidable (_ = _))

/-! ## Names up to the case of their letters -/

theorem canonicalLetters_toLower (upper : Bool) (letters : List Char) :
    canonicalLetters upper (letters.map Char.toLower) = canonicalLetters upper letters := by
  have traits (letter : Char) :
      (letter.toLower.toUpper, letter.toLower.toLower, letter.toLower == '-') =
        (letter.toUpper, letter.toLower, letter == '-') :=
    ignores_case (fun letter => (letter.toUpper, letter.toLower, letter == '-'))
      (by decide +kernel) letter
  induction letters generalizing upper with
  | nil => rfl
  | cons letter rest ih =>
    obtain ⟨upperCase, lowerCase, hyphen⟩ : _ ∧ _ ∧ _ := by
      simpa only [Prod.mk.injEq] using traits letter
    rw [List.map_cons, canonicalLetters, canonicalLetters, upperCase, lowerCase, hyphen, ih]

/-- A name that is a header name up to case has its canonical name. -/
theorem canonicalHeaderKey_congr {name other : String}
    (same : name.toList.map Char.toLower = other.toList.map Char.toLower)
    (valid : other.toList.all isTokenChar = true) :
    canonicalHeaderKey name = canonicalHeaderKey other := by
  have tokens (text : String) :
      (text.toList.map Char.toLower).all isTokenChar = text.toList.all isTokenChar := by
    rw [List.all_map]
    congr 1
    exact funext (ignores_case isTokenChar (by decide +kernel))
  have letters : canonicalLetters true name.toList = canonicalLetters true other.toList := by
    rw [← canonicalLetters_toLower, same, canonicalLetters_toLower]
  have also : name.toList.all isTokenChar = true := by
    rw [← tokens, same, tokens]
    exact valid
  rw [canonicalHeaderKey, canonicalHeaderKey, if_pos also, if_pos valid, letters]

theorem Forged.sameName {line : String × String} (forged : Forged line) :
    ∃ name ∈ forgeable, sameName name line.1 := by
  obtain ⟨name, member, same⟩ := forged
  have valid : ∀ name ∈ forgeable, name.toList.all isTokenChar = true := by decide +kernel
  exact ⟨name, member, sameName_iff.mpr (canonicalHeaderKey_congr same (valid name member)).symm⟩

/-! ## Two requests -/

/-- Forged lines are seen under forgeable names only: a search for another name passes them by. -/
theorem get_congr {first second : Request} (differ : DifferInForged first second) {name : String}
    (other : ∀ forged ∈ forgeable, sameName forged name = false) :
    first.headers.get name = second.headers.get name := by
  have honest (headers : Headers) :
      (headers.filter fun line => ¬ Forged line).find? (fun line => sameName name line.1) =
        headers.find? fun line => sameName name line.1 := by
    rw [List.find?_filter]
    refine congrArg (List.find? · headers) (funext fun line => ?_)
    cases same : sameName name line.1 with
    | false => simp
    | true =>
      have plain : ¬ Forged line := by
        intro forged
        obtain ⟨forged, member, named⟩ := forged.sameName
        rw [sameName_iff] at same named
        have equal := sameName_iff.mpr (named.trans same.symm)
        rw [other forged member] at equal
        cases equal
      simp [plain]
  rw [Headers.get, Headers.get, lookupHeader, lookupHeader, ← honest first.headers, differ,
    honest second.headers]

/-- The credentials are in headers that are not forgeable. -/
theorem resolve_congr (service : Answers) {first second : Request}
    (differ : DifferInForged first second) :
    service.resolve first.headers = service.resolve second.headers := by
  rw [Answers.resolve, Answers.resolve, get_congr differ (by decide +kernel),
    get_congr differ (by decide +kernel)]

/-- What a handler reads is what the authenticator stamped, whatever the client sent. Without an
identity the headers are cleared. -/
theorem caller_writeTo (identity : Option Identity) (request : Request) :
    caller { request with headers := writeTo identity request.headers } =
      match identity with
      | none => nobody
      | some identity => callerOf identity.attribute := by
  cases identity with
  | none =>
    have absent : ∀ name ∈ identityHeaders, (writeTo none request.headers).get name = "" := by
      intro name member
      have cleared : identityHeaders.any (sameName · name) = true :=
        List.any_eq_true.mpr ⟨name, member, sameName_iff.mpr rfl⟩
      rw [Headers.get, writeTo, lookupHeader_clear, if_pos cleared]
      rfl
    simp only [caller, callerOf, absent "X-ID" (by decide), absent "X-Tenant-ID" (by decide),
      absent "X-Username" (by decide), absent "X-Device-UID" (by decide),
      absent "X-Role" (by decide), absent "X-Admin" (by decide)]
    rfl
  | some identity =>
    have read := get_writeTo identity request.headers
    simp only [caller, callerOf, read "X-ID" (by decide), read "X-Tenant-ID" (by decide),
      read "X-Username" (by decide), read "X-Device-UID" (by decide), read "X-Role" (by decide),
      read "X-Admin" (by decide)]

/-- Forged identity headers have no effect: two requests that differ only in them are both refused
or reach the handler with the same caller. The caller is nobody without a usable credential, and
neither a user nor a tenant is read on the admin surface. The identity is read from the credential
alone, and stamping it overwrites or removes every identity header. -/
theorem forged_headers_ignored (service : Answers) (authenticator : Authenticator) (route : Route)
    (guarded : isExempt route = false) (first second : Request)
    (differ : DifferInForged first second) :
    let answer := authenticator.middleware service route
    (answer first).map caller = (answer second).map caller ∧
    (∀ request, answer first = some request → service.resolve first.headers = none →
      caller request = nobody) ∧
    ∀ request, answer first = some request → route.Under "/admin/api" →
      (caller request).id = none ∧ (caller request).tenant = none ∧
        (caller request).getID = ("", false) ∧ (caller request).getTennat = ("", false) := by
  intro answer
  have stamped (request : Request) : answer request =
      service.middleware (authenticator.isAnonymous route) (route.Under "/admin/api") request := by
    simp only [answer, Authenticator.middleware, guarded, Bool.false_eq_true, if_false]
  refine ⟨?_, fun request reached unusable => ?_, fun request reached surface => ?_⟩
  · simp only [stamped, Answers.middleware, resolve_congr service differ, apply_ite (Option.map caller),
      Option.map_none, Option.map_some, caller_writeTo]
  · simp only [stamped, Answers.middleware, unusable, Option.map_none, ite_self] at reached
    split at reached
    · cases reached
    · cases reached
      exact caller_writeTo none first
  · simp only [stamped, Answers.middleware, surface, decide_true, if_true] at reached
    split at reached
    · cases reached
    · cases reached
      rw [caller_writeTo]
      cases service.resolve first.headers with
      | none => exact ⟨rfl, rfl, rfl, rfl⟩
      | some identity => exact ⟨rfl, rfl, rfl, rfl⟩

/-- Services that know no API key, and one user's token. -/
def tokenOfAda : Answers where
  authAPIKey _ := none
  claims bearer := if bearer = "Bearer ada" then some (.user "ada" "Ada" "acme") else none
  resolveNamespaceRole _ _ := some .owner
  getUserAdmin _ := some true

/-- A user's token comes with a forged user and admin flag, in odd letter case. The handler
reads the user of the token. -/
theorem forged_headers_ignored_for_token :
    let honest : Request := ⟨.GET, [], [], [("Authorization", "Bearer ada")], none⟩
    let forged := { honest with headers := [("x-iD", "eve"), ("Authorization", "Bearer ada"),
      ("X-ADMIN", "true"), ("X-Id", "mallory")] }
    let answer := Authenticator.middleware ⟨[]⟩ tokenOfAda ⟨"GET", "/api/devices"⟩
    (answer forged).map (fun request => (caller request).id) = some (some "ada") ∧
      (answer honest).map caller = (answer forged).map caller :=
  ⟨by decide +kernel, (forged_headers_ignored tokenOfAda ⟨[]⟩ ⟨"GET", "/api/devices"⟩
    (by decide +kernel) _ _ (by decide +kernel)).1⟩

end ShellHub.ForgedHeaders
