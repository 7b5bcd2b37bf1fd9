import StreamBox.Web.Routes

/-!
# The authentication middleware

`authMiddleware` decides on the raw path string by prefix and suffix tests; the
router decides by its table. The two are compared over every path: the suffix
tests of `isPublicEndpoint` (`.js`, `.css`, `.ico`, `.png`, `.svg`) also accept
paths that a parameter or wildcard route of the API matches, and these are the
only protected routes reached without a session.
-/

namespace StreamBox.Auth

open StreamBox.Lib StreamBox.Web

abbrev Str := List Char

/-- Session cookie name. -/
def SESSION_COOKIE : Str := "one_kvm_session".toList

structure Session where
  id : Str
  userId : Str
  createdAt : Nat
  expiresAt : Nat
  deriving DecidableEq, Repr

def Session.isExpired (now : Nat) (s : Session) : Bool := decide (now > s.expiresAt)

/-- The session table; `reachable` is false when the database answers with an
error. -/
structure SessionStore where
  rows : List Session
  reachable : Bool

/-- Get a session by ID; an expired row is deleted and not returned. -/
def SessionStore.get (store : SessionStore) (now : Nat) (sessionId : Str) :
    Except Unit (Option Session × SessionStore) :=
  if store.reachable then
    match store.rows.find? (fun s => s.id == sessionId) with
    | some s =>
        if s.isExpired now then
          .ok (none, { store with rows := store.rows.filter (fun r => r.id != s.id) })
        else .ok (some s, store)
    | none => .ok (none, store)
  else .error ()

/-- The part of the application state the middleware reads. -/
structure AppState where
  initialized : Bool
  sessions : SessionStore
  revokedSessions : List Str

def AppState.isSessionRevoked (st : AppState) (sessionId : Str) : Bool :=
  st.revokedSessions.any (· == sessionId)

/-- The part of a request the middleware reads; `authorization` is the header's
value when it is readable text. -/
structure Request where
  path : Str
  cookies : List (Str × Str)
  authorization : Option Str

/-- `str::strip_prefix`. -/
def stripPrefix (pre s : Str) : Option Str :=
  if pre.isPrefixOf s then some (s.drop pre.length) else none

/-- Extract session ID from request. -/
def extractSessionId (req : Request) : Option Str :=
  match req.cookies.find? (fun c => c.1 == SESSION_COOKIE) with
  | some cookie => some cookie.2
  | none => req.authorization.bind (stripPrefix "Bearer ".toList)

/-- The file extensions of the suffix test. -/
def assetSuffixes : List Str :=
  [".js".toList, ".css".toList, ".ico".toList, ".png".toList, ".svg".toList]

/-- Check if endpoint is public (no auth required). -/
def isPublicEndpoint (path : Str) : Bool :=
  ["/".toList, "/auth/login".toList, "/health".toList, "/setup".toList,
      "/setup/init".toList].contains path
    || "/assets/".toList.isPrefixOf path
    || "/static/".toList.isPrefixOf path
    || assetSuffixes.any (fun suf => suf.isSuffixOf path)

/-- Setup-only endpoints allowed before initialization. -/
def isSetupPublicEndpoint (path : Str) : Bool :=
  ["/setup".toList, "/setup/init".toList, "/devices".toList,
      "/stream/codecs".toList].contains path

/-- What the middleware does with a request: run the inner handler, with the
session it inserted if any, or answer 401. -/
inductive Outcome
  | next (session : Option Session)
  | unauthorized (message : String)
  deriving DecidableEq, Repr

def Outcome.forwards : Outcome → Bool
  | .next _ => true
  | .unauthorized _ => false

/-- Authentication middleware. -/
def authMiddleware (st : AppState) (now : Nat) (req : Request) : Outcome :=
  let path := (stripPrefix "/api".toList req.path).getD req.path
  if !st.initialized && isSetupPublicEndpoint path then .next none
  else if isPublicEndpoint path then .next none
  else
    match extractSessionId req with
    | some sessionId =>
        match st.sessions.get now sessionId with
        | .ok (some session, _) => .next (some session)
        | _ =>
            if st.isSessionRevoked sessionId then .unauthorized "Logged in elsewhere"
            else .unauthorized "Session expired"
    | none => .unauthorized "Not authenticated"

/-- The request as the nested router hands it to the middleware: the `/api`
prefix is stripped from the path. -/
def Request.nested (req : Request) : Request :=
  { req with path := (stripPrefix "/api".toList req.path).getD req.path }

/-- The request carries a valid session (cookie or bearer token). -/
def hasValidSession (st : AppState) (now : Nat) (req : Request) : Bool :=
  match extractSessionId req with
  | some sessionId =>
      match st.sessions.get now sessionId with
      | .ok (some _, _) => true
      | _ => false
  | none => false

/-- Without a valid session, an initialized system forwards exactly the public
endpoints. -/
theorem authMiddleware_forwards_iff {st : AppState} {now : Nat} {req : Request}
    (hinit : st.initialized = true) (hno : hasValidSession st now req = false) :
    (authMiddleware st now req).forwards =
      isPublicEndpoint ((stripPrefix "/api".toList req.path).getD req.path) := by
  unfold authMiddleware
  simp only [hinit, Bool.not_true, Bool.false_and, Bool.false_eq_true, ite_false]
  split
  · rename_i hpub
    rw [hpub]; rfl
  · rename_i hpub
    rw [Bool.not_eq_true] at hpub
    rw [hpub]
    unfold hasValidSession at hno
    cases hid : extractSessionId req with
    | none => simp [Outcome.forwards]
    | some sessionId =>
      simp only [hid] at hno
      cases hget : st.sessions.get now sessionId with
      | error e =>
        simp only [hget]
        split <;> rfl
      | ok r =>
        obtain ⟨_ | session, store⟩ := r
        · simp only [hget]
          split <;> rfl
        · simp [hget] at hno

/-! ## The paths of routed requests -/

/-- Every API pattern starts with a literal that does not begin with `api`,
`assets` or `static`. -/
theorem head_lit_of_mem {r : Route} (hr : r ∈ apiRoutes) :
    ∃ s ps, r.pattern = .lit s :: ps ∧
      ∀ w ∈ ["api", "assets", "static"], ¬ w.toList <+: s.toList := by
  have hdec : ∀ r ∈ apiRoutes, r.pattern.litPrefix.head?.any (fun s =>
      ["api", "assets", "static"].all (fun w => !w.toList.isPrefixOf s.toList)) = true := by
    decide +kernel
  have h := hdec r hr
  match hp : r.pattern with
  | [] => simp [hp, Pattern.litPrefix] at h
  | .param n :: ps => simp [hp, Pattern.litPrefix] at h
  | .wild n :: ps => simp [hp, Pattern.litPrefix] at h
  | .lit s :: ps =>
    refine ⟨s, ps, rfl, fun w hw hpre => ?_⟩
    simp only [hp, Pattern.litPrefix, List.head?_cons, Option.any_some, List.all_eq_true] at h
    have := h w hw
    rw [List.isPrefixOf_iff_prefix.mpr hpre] at this
    cases this

/-- No API pattern ends in a literal with an exempt suffix. -/
theorem last_lit_of_mem {r : Route} (hr : r ∈ apiRoutes) {s : String}
    (hs : r.pattern.lastLit? = some s) {suf : Str} (hsuf : suf ∈ assetSuffixes) :
    ¬ suf <:+ s.toList := by
  have hdec : ∀ r ∈ apiRoutes, r.pattern.lastLit?.all
      (fun s => assetSuffixes.all (fun suf => !suf.isSuffixOf s.toList)) = true := by
    decide +kernel
  intro h
  have hall := hdec r hr
  simp only [hs, Option.all_some, List.all_eq_true] at hall
  have := hall suf hsuf
  rw [List.isSuffixOf_iff_suffix.mpr h] at this
  cases this

theorem assetSuffixes_slash : ∀ suf ∈ assetSuffixes, '/' ∉ suf := by
  decide

theorem stripPrefix_of_prefix {pre s t : Str} (h : s = pre ++ t) :
    stripPrefix pre s = some t := by
  subst h
  simp [stripPrefix, List.isPrefixOf_iff_prefix]

theorem stripPrefix_of_not_prefix {pre s : Str} (h : ¬ pre <+: s) :
    stripPrefix pre s = none := by
  simp only [stripPrefix, List.isPrefixOf_iff_prefix, h, ite_false]

/-- What a path says that the nested pattern of an API route matches: it is
`/api` followed by a path that starts with a literal of the table. -/
structure NestedPath (r : Route) (path inner : Str) : Prop where
  path_eq : path = "/api".toList ++ inner
  matched : ∃ segs, pathSegs inner = some segs ∧ r.pattern.matches segs = true
  head : ∀ w ∈ ["api", "assets", "static"], ¬ ('/' :: w.toList) <+: inner
  slash : '/' ∈ inner

theorem nested_of_matches {r : Route} (hr : r ∈ apiRoutes) {path : Str}
    {segs : List Str} (hsegs : pathSegs path = some segs)
    (hm : (nest r.pattern).matches segs = true) : ∃ inner, NestedPath r path inner := by
  obtain ⟨s, ps, hp, hw⟩ := head_lit_of_mem hr
  have hpre := Pattern.litPrefix_of_matches hm
  obtain ⟨rest, hrest⟩ : ∃ rest, segs = "api".toList :: s.toList :: rest := by
    rw [nest, hp] at hpre
    obtain ⟨tail, htail⟩ := hpre
    exact ⟨_, by rw [← htail]; rfl⟩
  subst hrest
  obtain ⟨t, hpath, ht⟩ := pathSegs_cons_cons hsegs
  refine ⟨'/' :: t, by simp [hpath], ⟨_, ht, ?_⟩, ?_, List.mem_cons_self⟩
  · rw [hp] at hm ⊢
    simpa [nest, Pattern.matches] using hm
  · intro w hmem hpre'
    have hslash : ∀ w ∈ ["api", "assets", "static"], '/' ∉ w.toList := by decide
    exact hw w hmem (prefix_first_seg ht (by simpa using hpre') (hslash w hmem))

/-- The middleware decides on the nested path. -/
theorem NestedPath.decided {r : Route} {req : Request} {inner : Str}
    (h : NestedPath r req.path inner) :
    (stripPrefix "/api".toList req.nested.path).getD req.nested.path = inner := by
  have hin : req.nested.path = inner := by
    show (stripPrefix "/api".toList req.path).getD req.path = inner
    rw [ stripPrefix_of_prefix h.path_eq]
    rfl
  have hnot : ¬ "/api".toList <+: inner := h.head "api" (by decide)
  rw [hin, stripPrefix_of_not_prefix hnot]
  rfl

/-- A suffix without a slash is a suffix of the path exactly when it is one of
the nested path. -/
theorem NestedPath.suffix_iff {r : Route} {path inner suf : Str}
    (h : NestedPath r path inner) (hslash : '/' ∉ suf) : suf <:+ path ↔ suf <:+ inner := by
  have hinner : inner <:+ path := ⟨_, h.path_eq.symm⟩
  constructor
  · intro hs
    rcases List.suffix_or_suffix_of_suffix hs hinner with h' | h'
    · exact h'
    · exact absurd (h'.subset h.slash) hslash
  · exact fun hs => hs.trans hinner

/-! ## Which routes are reached without a session -/

/-- The request asks for a parameter or wildcard route by a path that ends in
an exempt suffix. -/
def Exposed (m : Method) (path : Str) : Prop :=
  (∃ suf ∈ assetSuffixes, suf <:+ path) ∧
    ∃ r ∈ dynamicRoutes, r.filter.accepts m = true ∧
      ∃ segs, pathSegs path = some segs ∧ (nest r.pattern).matches segs = true

/-- A route matched by a path with an exempt suffix is a dynamic one. -/
theorem dynamic_of_suffix {r : Route} (hr : r ∈ apiRoutes) {path suf : Str} {segs : List Str}
    (hsegs : pathSegs path = some segs) (hm : (nest r.pattern).matches segs = true)
    (hmem : suf ∈ assetSuffixes) (hsuf : suf <:+ path) : r ∈ dynamicRoutes := by
  rw [mem_dynamicRoutes_iff r hr]
  cases hl : r.pattern.lastLit? with
  | none => rfl
  | some s =>
    have hl' : (nest r.pattern).lastLit? = some s := by
      cases hp : r.pattern with
      | nil => simp [hp, Pattern.lastLit?] at hl
      | cons a ps => rw [hp] at hl; simpa [nest, Pattern.lastLit?] using hl
    obtain ⟨last, hlast, hsl⟩ := suffix_last_seg hsegs hsuf (assetSuffixes_slash suf hmem)
    rw [Pattern.last_lit_of_matches hm hl', Option.some.injEq] at hlast
    exact absurd (hlast ▸ hsl) (last_lit_of_mem hr hl hmem)

/-- An exposed request is routed to a dynamic route. -/
theorem createRouter_of_exposed {m : Method} {path : Str} (h : Exposed m path) :
    ∃ r ∈ dynamicRoutes, createRouter m path = some r := by
  obtain ⟨⟨suf, hmem, hsuf⟩, r, hr, hacc, segs, hsegs, hm⟩ := h
  have htab : (nest r.pattern, r.pattern) ∈
      apiRoutes.map fun r => (nest r.pattern, r.pattern) :=
    List.mem_map.mpr ⟨r, dynamicRoutes_sub r hr, rfl⟩
  obtain ⟨p, hp⟩ := lookup_complete htab hm
  -- whatever pattern the search prefers is dynamic too, hence the same pattern
  have hpr : p = r.pattern := by
    obtain ⟨p', hmem', hm'⟩ := lookup_sound hp
    obtain ⟨q, hq, hq'⟩ := List.mem_map.mp hmem'
    simp only [Prod.mk.injEq] at hq'
    rw [← hq'.1] at hm'
    rw [← hq'.2]
    exact dynamicRoutes_pattern_unique (dynamic_of_suffix hq hsegs hm' hmem hsuf) hr hm' hm
  subst hpr
  obtain ⟨r', hr'⟩ : ∃ r', apiRoutes.find?
      (fun q => q.pattern == r.pattern && q.filter.accepts m) = some r' := by
    rw [← Option.isSome_iff_exists, List.find?_isSome]
    exact ⟨r, dynamicRoutes_sub r hr, by simp [hacc]⟩
  have hroute : createRouter m path = some r' := by
    simp [createRouter, hsegs, hp, hr']
  obtain ⟨hmem', -, segs', hsegs', hm'⟩ := createRouter_sound hroute
  exact ⟨r', dynamic_of_suffix hmem' hsegs' hm' hmem hsuf, hroute⟩

/-- The exact paths of `isPublicEndpoint` are routed to public routes only. -/
theorem public_of_exact {r : Route} (hr : r ∈ apiRoutes) {inner : Str} {segs : List Str}
    (hmem : inner ∈ ["/".toList, "/auth/login".toList, "/health".toList, "/setup".toList,
      "/setup/init".toList])
    (hsegs : pathSegs inner = some segs) (hm : r.pattern.matches segs = true) :
    r ∈ publicRoutes := by
  have hdec : ∀ inner ∈ ["/".toList, "/auth/login".toList, "/health".toList,
      "/setup".toList, "/setup/init".toList], ∀ r ∈ apiRoutes,
      (pathSegs inner).any (fun segs => r.pattern.matches segs) = true → r ∈ publicRoutes := by
    decide +kernel
  exact hdec inner hmem r hr (by simp [hsegs, hm])

/-- On an initialized system and without a valid session, a forwarded request
is routed to a public route exactly when it is not exposed. -/
theorem auth_exempts_public_iff (st : AppState) (now : Nat) (m : Method) (req : Request)
    (hinit : st.initialized = true) (hno : hasValidSession st now req = false) :
    (∀ r, createRouter m req.path = some r →
      (authMiddleware st now req.nested).forwards = true → r ∈ publicRoutes) ↔
    ¬ Exposed m req.path := by
  have hno' : hasValidSession st now req.nested = false := hno
  constructor
  · intro hall hexp
    obtain ⟨r, hr, hroute⟩ := createRouter_of_exposed hexp
    obtain ⟨hmem, -, segs, hsegs, hm⟩ := createRouter_sound hroute
    obtain ⟨inner, hin⟩ := nested_of_matches hmem hsegs hm
    obtain ⟨suf, hsmem, hsuf⟩ := hexp.1
    refine dynamicRoutes_not_public r hr (hall r hroute ?_)
    rw [authMiddleware_forwards_iff hinit hno', hin.decided]
    have hs := (hin.suffix_iff (assetSuffixes_slash suf hsmem)).mp hsuf
    simp only [isPublicEndpoint, Bool.or_eq_true, List.any_eq_true]
    exact .inr ⟨suf, hsmem, List.isSuffixOf_iff_suffix.mpr hs⟩
  · intro hexp r hroute hfwd
    obtain ⟨hmem, hacc, segs, hsegs, hm⟩ := createRouter_sound hroute
    obtain ⟨inner, hin⟩ := nested_of_matches hmem hsegs hm
    rw [authMiddleware_forwards_iff hinit hno', hin.decided] at hfwd
    simp only [isPublicEndpoint, Bool.or_eq_true, List.any_eq_true,
      List.isPrefixOf_iff_prefix, List.contains_iff_mem] at hfwd
    rcases hfwd with ((hexact | hassets) | hstatic) | ⟨suf, hsmem, hsuf⟩
    · obtain ⟨segs', hsegs', hm'⟩ := hin.matched
      exact public_of_exact hmem hexact hsegs' hm'
    · exact absurd (List.IsPrefix.trans ⟨['/'], rfl⟩ hassets) (hin.head "assets" (by decide))
    · exact absurd (List.IsPrefix.trans ⟨['/'], rfl⟩ hstatic) (hin.head "static" (by decide))
    · have hs := (hin.suffix_iff (assetSuffixes_slash suf hsmem)).mpr
        (List.isSuffixOf_iff_suffix.mp hsuf)
      exact absurd ⟨⟨suf, hsmem, hs⟩, r, dynamic_of_suffix hmem hsegs hm hsmem hs, hacc,
        segs, hsegs, hm⟩ hexp

/-- An initialized system with no sessions. -/
def emptyState : AppState := ⟨true, ⟨[], true⟩, []⟩

/-- An anonymous download of a drive file whose name ends in `.png`. -/
def anonymousDownload : Request :=
  ⟨"/api/msd/drive/files/secret.png".toList, [], none⟩

/-- The anonymous download reaches the protected handler. -/
theorem anonymousDownload_forwarded :
    ¬ (∀ (st : AppState) (now : Nat) (m : Method) (req : Request), st.initialized = true →
      hasValidSession st now req = false → ∀ r, createRouter m req.path = some r →
        (authMiddleware st now req.nested).forwards = true → r ∈ publicRoutes) := by
  intro hall
  have hroute : createRouter .get anonymousDownload.path = some
      ⟨[.lit "msd", .lit "drive", .lit "files", .wild "path"], .get, .msdDriveDownload⟩ := by
    decide +kernel
  have := hall emptyState 0 .get anonymousDownload rfl (by decide) _ hroute (by decide)
  revert this
  decide

theorem auth_exempts_public_health :
    createRouter .get "/api/health".toList ≠ none ∧
    ∀ r, createRouter .get "/api/health".toList = some r →
      (authMiddleware emptyState 0
        (Request.nested ⟨"/api/health".toList, [], none⟩)).forwards = true →
      r ∈ publicRoutes :=
  ⟨by decide, (auth_exempts_public_iff emptyState 0 .get ⟨"/api/health".toList, [], none⟩ rfl
    (by decide)).mpr (by
      rintro ⟨⟨suf, hmem, hsuf⟩, -⟩
      revert suf
      decide)⟩

end StreamBox.Auth
