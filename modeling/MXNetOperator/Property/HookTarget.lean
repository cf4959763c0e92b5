import MXNetOperator.Property.ClientCache

/-!
Contract: where a webhook configured by URL is called.

Of the configured URL only host and decoded path reach the `rest.Config`.  The
scheme is made up again from the TLS settings, which is the CA bundle here; the
host is parsed a second time; and a slash that was escaped in the path is a
separator afterwards.  So the URL is honoured exactly if it asks for `https` as
there is a CA bundle, its host holds no percent sign, and its path has the same
segments decoded as a whole.
-/

namespace MXNetOperator.Property

open MXNetOperator.Api MXNetOperator.Cache MXNetOperator.Url MXNetOperator.Mx

section Address

variable {host apiPath : Bytes} {defaultTLS : Bool} {surroundings : Surroundings} {url : URL}

/-- The resolver adds no CA file for the host. -/
def Anonymous (surroundings : Surroundings) (host : Bytes) : Prop :=
  (resolveClientConfig surroundings.inCluster host).tls.caFile = ""

instance Anonymous.decidable : Decidable (Anonymous surroundings host) :=
  inferInstanceAs (Decidable (_ = _))

/-- The scheme `client-go` gives to a host without one. -/
def completedScheme (defaultTLS : Bool) : Bytes :=
  if defaultTLS then bytes "https" else bytes "http"

/-- A host without delimiters is completed by a scheme and parsed. -/
theorem completeHost_bare (bare : BareHost host) :
    completeHost host defaultTLS =
      match parseHost host with
      | .error error => .error (.parse error)
      | .ok found => .ok ⟨completedScheme defaultTLS, [], found, [], []⟩ := by
  have named : completedScheme defaultTLS = bytes "http" ∨
      completedScheme defaultTLS = bytes "https" := by
    cases defaultTLS
    · exact Or.inl rfl
    · exact Or.inr rfl
  have parsed := parse_scheme_host named bare
  unfold completeHost
  rw [← completedScheme, parsed]
  cases parseHost host with
  | error error => rfl
  | ok found => exact if_neg (by simp)

theorem defaultServerURL_bare (filled : host ≠ []) (bare : BareHost host) :
    defaultServerURL host apiPath defaultTLS =
      match parseHost host with
      | .error error => .error (.parse error)
      | .ok found => .ok (⟨completedScheme defaultTLS, [], found, [], []⟩,
          defaultVersionedAPIPath apiPath) := by
  have completed := @completeHost_bare host defaultTLS bare
  unfold defaultServerURL
  rw [if_neg filled]
  cases direct : Url.parse host with
  | error error =>
      simp only [completed]
      cases parseHost host <;> rfl
  | ok found =>
      simp only [parse_host_alone bare direct, or_true, if_true, completed]
      cases parseHost host <;> rfl

theorem defaultVersionedAPIPath_eq : defaultVersionedAPIPath apiPath = clean (slash :: apiPath) := by
  rw [defaultVersionedAPIPath, join_root, join_clean_nil]

/-- Anonymous configurations use TLS exactly with a CA bundle. -/
theorem Anonymous.defaultTLS_eq (anonymous : Anonymous surroundings url.host) {caBundle : Bytes} :
    ({ (urlConfig surroundings.inCluster url).tls with caData := caBundle } :
        TLSClientConfig).defaultTLS = !caBundle.isEmpty := by
  have blank : ((resolveClientConfig surroundings.inCluster url.host).tls.certFile = "" ∧
      (resolveClientConfig surroundings.inCluster url.host).tls.certData = []) ∧
      (resolveClientConfig surroundings.inCluster url.host).tls.insecure = false := by
    unfold resolveClientConfig
    split
    · cases surroundings.inCluster <;> exact ⟨⟨rfl, rfl⟩, rfl⟩
    · exact ⟨⟨rfl, rfl⟩, rfl⟩
  have noFile : (resolveClientConfig surroundings.inCluster url.host).tls.caFile = "" := anonymous
  have empty : "".isEmpty = true := rfl
  simp [TLSClientConfig.defaultTLS, urlConfig, noFile, blank, empty]

/-- A request goes to the base URL and the cleaned path. -/
theorem requestURL_newRESTClient {scheme : Bytes} {config : RestConfig} :
    (newRESTClient ⟨scheme, [], host, [], []⟩ (defaultVersionedAPIPath apiPath) config).requestURL =
      ⟨scheme, [], host, clean (slash :: apiPath), []⟩ := by
  have root : join [[slash], [slash]] = [slash] := by decide
  show (⟨scheme, [], host, join [join [[slash], [slash]], defaultVersionedAPIPath apiPath], []⟩ :
    URL) = _
  rw [root, defaultVersionedAPIPath_eq, join_root_clean]

/-- The client built for a URL: its host is what the second parsing finds. -/
theorem buildClient_url {webhook : Webhook} {raw : String}
    (noService : webhook.clientConfig.service = none)
    (configured : webhook.clientConfig.url = some raw)
    (parsed : Url.parse (bytes raw) = .ok url) (filled : url.host ≠ []) (bare : BareHost url.host)
    (anonymous : Anonymous surroundings url.host) :
    (∀ client, buildClient surroundings webhook = .ok client →
        ∃ found, parseHost url.host = .ok found ∧
          client.requestURL = ⟨completedScheme (!(webhook.clientConfig.caBundle.getD []).isEmpty), [],
            found, clean (slash :: url.path), []⟩) ∧
      (surroundings.transportError = none → ∀ found, parseHost url.host = .ok found →
        ∃ client, buildClient surroundings webhook = .ok client) := by
  have address : defaultServerUrlFor
      { urlConfig surroundings.inCluster url with
        userAgent := controllerName,
        tls := { (urlConfig surroundings.inCluster url).tls with
          caData := webhook.clientConfig.caBundle.getD [] } } =
      match parseHost url.host with
      | .error error => .error (.parse error)
      | .ok found =>
          .ok (⟨completedScheme (!(webhook.clientConfig.caBundle.getD []).isEmpty), [], found, [], []⟩,
            defaultVersionedAPIPath url.path) := by
    show defaultServerURL (if url.host = [] then bytes "localhost" else url.host) url.path _ = _
    rw [if_neg filled, anonymous.defaultTLS_eq, defaultServerURL_bare filled bare]
  have built : buildClient surroundings webhook =
      completeClient surroundings (webhook.clientConfig.caBundle.getD [])
        (urlConfig surroundings.inCluster url) := by
    simp only [buildClient, noService, configured, parsed]
  rw [built, completeClient, unversionedRESTClientFor, address]
  cases again : parseHost url.host with
  | error error =>
      refine ⟨fun client impossible => ?_, fun _ found impossible => ?_⟩
      · cases impossible
      · cases impossible
  | ok found =>
      cases failure : surroundings.transportError with
      | some text =>
          refine ⟨fun client impossible => ?_, fun none => absurd none (by simp)⟩
          cases impossible
      | none =>
          refine ⟨fun client same => ⟨found, rfl, ?_⟩, fun _ _ _ => ⟨_, rfl⟩⟩
          rw [← Except.ok.inj same]
          exact requestURL_newRESTClient

end Address

/-! ### Paths -/

section Paths

variable {url : URL} {segments : List Bytes}

/-- Decoded as a whole, the path of the URL has the segments it was written
with, up to cleaning. -/
def KeepsSegments (url : URL) : Prop :=
  ∃ segments, HasSegments url.pathText segments ∧
    resolve segments = resolve (url.path.splitOn slash)

/-- The request carries the cleaned path in the default encoding. -/
theorem hasSegments_request {scheme host path : Bytes} :
    HasSegments (⟨scheme, [], host, clean (slash :: path), []⟩ : URL).escapedPath
      ((clean (slash :: path)).splitOn slash) := by
  have rooted : clean (slash :: path) ≠ bytes "*" := by
    rw [clean_rooted]
    exact fun same => absurd (List.cons.inj same).1 (by decide)
  unfold URL.escapedPath
  rw [if_neg (by simp), if_neg rooted]
  exact hasSegments_escapePath

theorem resolve_splitOn_clean (path : Bytes) :
    resolve ((clean (slash :: path)).splitOn slash) = resolve (path.splitOn slash) := by
  have cut : ∀ rest : Bytes, (slash :: rest).splitOn slash = [] :: rest.splitOn slash := by
    intro rest
    simp [List.splitOn_cons_eq_if_modifyHead]
  rw [clean_rooted, cut, resolve_nil_cons, resolve_splitOn_resolve]

/-- Without an escaped slash the segments are kept. -/
theorem keepsSegments_of_free (located : Located url) (written : HasSegments url.pathText segments)
    (free : ∀ segment ∈ segments, slash ∉ segment) : KeepsSegments url := by
  obtain ⟨found, again, whole⟩ := exists_hasSegments located.path
  obtain rfl := written.unique again
  have filled : segments ≠ [] := by
    rintro rfl
    exact List.splitOn_ne_nil slash url.pathText (List.forall₂_nil_right_iff.mp written)
  exact ⟨segments, written, by rw [← whole, List.splitOn_intercalate slash free filled]⟩

/-- Without dot segments nothing but empty segments goes. -/
theorem mem_foldl_pushSegment {out : List Bytes} {kept : Bytes}
    (noDots : ∀ segment ∈ segments, segment ≠ dot ∧ segment ≠ dotDot) (filled : kept ≠ [])
    (member : kept ∈ segments ∨ kept ∈ out) : kept ∈ segments.foldl (pushSegment true) out := by
  induction segments generalizing out with
  | nil => exact member.resolve_left List.not_mem_nil
  | cons segment rest inductionHypothesis =>
      obtain ⟨noDot, noDotDot⟩ := noDots segment List.mem_cons_self
      refine inductionHypothesis (fun later inRest => noDots later (List.mem_cons_of_mem _ inRest)) ?_
      unfold pushSegment
      rcases member with found | before
      · rcases List.mem_cons.mp found with rfl | later
        · refine Or.inr ?_
          rw [if_neg (by simp [filled, noDot]), if_neg noDotDot]
          exact List.mem_cons_self
        · exact Or.inl later
      · refine Or.inr ?_
        rw [if_neg noDotDot]
        split
        · exact before
        · exact List.mem_cons_of_mem _ before

/-- An escaped slash changes a path without dot segments. -/
theorem free_of_keepsSegments (written : HasSegments url.pathText segments)
    (noDots : ∀ segment ∈ segments, segment ≠ dot ∧ segment ≠ dotDot) (keeps : KeepsSegments url) :
    ∀ segment ∈ segments, slash ∉ segment := by
  obtain ⟨found, again, same⟩ := keeps
  obtain rfl := written.unique again
  intro segment member escaped
  have filled : segment ≠ [] := by
    rintro rfl
    cases escaped
  have kept : segment ∈ resolve segments :=
    List.mem_reverse.mpr (mem_foldl_pushSegment noDots filled (Or.inl member))
  rw [same] at kept
  exact slash_not_mem_splitOn (mem_resolve kept).2 escaped

end Paths

/-! ### The address of a call -/

/-- The client sends its requests to the scheme, the host and, up to lexical
cleaning, the path of the URL. -/
structure CallsAt (client : RESTClient) (url : URL) : Prop where
  scheme : client.requestURL.scheme = url.scheme
  host : client.requestURL.host = url.host
  path : ∃ sent written, HasSegments client.requestURL.escapedPath sent ∧
    HasSegments url.pathText written ∧ resolve sent = resolve written

/-- The URLs a client can be built for that calls them. -/
structure Honourable (url : URL) (caBundle : Bytes) : Prop where
  scheme : url.scheme = bytes "https" ↔ caBundle ≠ []
  host : percent ∉ url.host
  path : KeepsSegments url

section Honoured

variable {url : URL} {client : RESTClient} {caBundle found : Bytes}

theorem completedScheme_eq_iff (web : url.scheme = bytes "http" ∨ url.scheme = bytes "https") :
    completedScheme (!caBundle.isEmpty) = url.scheme ↔
      (url.scheme = bytes "https" ↔ caBundle ≠ []) := by
  have differ : bytes "http" ≠ bytes "https" := by decide
  unfold completedScheme
  rcases web with same | same <;> rw [same] <;> cases caBundle <;> simp [differ, differ.symm]

theorem parseHost_eq_iff (located : Located url) (parsed : parseHost url.host = .ok found) :
    found = url.host ↔ percent ∉ url.host := by
  constructor
  · rintro rfl marked
    exact absurd (parseHost_shorter parsed marked) (Nat.lt_irrefl _)
  · intro free
    obtain ⟨raw, read⟩ := located.host
    exact Except.ok.inj (parsed.symm.trans (parseHost_self (parseHost_plain read free)))

/-- Where a client calls whose requests go to the host of the second parsing. -/
theorem callsAt_iff (located : Located url)
    (web : url.scheme = bytes "http" ∨ url.scheme = bytes "https")
    (again : parseHost url.host = .ok found)
    (request : client.requestURL =
      ⟨completedScheme (!caBundle.isEmpty), [], found, clean (slash :: url.path), []⟩) :
    CallsAt client url ↔ Honourable url caBundle := by
  have sentAt : HasSegments client.requestURL.escapedPath ((clean (slash :: url.path)).splitOn slash) :=
    request ▸ hasSegments_request
  constructor
  · rintro ⟨scheme, host, sent, written, isSent, isWritten, same⟩
    rw [request] at scheme host
    refine ⟨(completedScheme_eq_iff web).mp scheme, (parseHost_eq_iff located again).mp host,
      written, isWritten, ?_⟩
    rw [← same, isSent.unique sentAt, resolve_splitOn_clean]
  · rintro ⟨scheme, host, written, isWritten, same⟩
    refine ⟨?_, ?_, _, written, sentAt, isWritten, ?_⟩
    · rw [request]
      exact (completedScheme_eq_iff web).mpr scheme
    · rw [request]
      exact (parseHost_eq_iff located again).mpr host
    · rw [resolve_splitOn_clean, same]

end Honoured

/-- A webhook configured by URL is called at the URL if and only if the URL asks
for `https` exactly when there is a CA bundle, its host holds no percent sign and
its path keeps its segments, whatever calls came before; if the transport can be
set up such a client is there.  A path keeps its segments if no slash in it is
escaped, and without dot segments only then. -/
theorem url_honoured (past : List HookCall) (surroundings : Surroundings) (webhook : Webhook)
    (raw : String) (url : URL) (noService : webhook.clientConfig.service = none)
    (configured : webhook.clientConfig.url = some raw)
    (parsed : Url.parse (bytes raw) = .ok url)
    (web : url.scheme = bytes "http" ∨ url.scheme = bytes "https") (hosted : url.host ≠ [])
    (anonymous : ∀ call ∈ past ++ [(surroundings, webhook)], Anonymous call.1 url.host) :
    (∀ client, (hookClient surroundings webhook (cacheAfter past)).1 = .ok client →
        (CallsAt client url ↔ Honourable url (webhook.clientConfig.caBundle.getD []))) ∧
      (surroundings.transportError = none →
        ((∃ client, (hookClient surroundings webhook (cacheAfter past)).1 = .ok client ∧
            CallsAt client url) ↔ Honourable url (webhook.clientConfig.caBundle.getD []))) ∧
      ∃ segments, HasSegments url.pathText segments ∧
        ((∀ segment ∈ segments, slash ∉ segment) → KeepsSegments url) ∧
        ((∀ segment ∈ segments, segment ≠ dot ∧ segment ≠ dotDot) → KeepsSegments url →
          ∀ segment ∈ segments, slash ∉ segment) := by
  have located := parse_located parsed hosted
  have bare : BareHost url.host := by
    obtain ⟨_, read⟩ := located.host
    exact parseHost_bare read
  have target : ∀ client, (hookClient surroundings webhook (cacheAfter past)).1 = .ok client →
      (CallsAt client url ↔ Honourable url (webhook.clientConfig.caBundle.getD [])) := by
    intro client returned
    obtain ⟨call, called, _, built⟩ := (cacheAfter_sound past).returned returned
    obtain ⟨found, again, request⟩ := (buildClient_url noService configured parsed hosted bare
      (anonymous call called)).1 client built
    exact callsAt_iff located web again request
  refine ⟨target, fun sound => ⟨?_, fun honourable => ?_⟩, ?_⟩
  · rintro ⟨client, returned, calls⟩
    exact (target client returned).mp calls
  · obtain ⟨_, read⟩ := located.host
    obtain ⟨client, built⟩ := (buildClient_url noService configured parsed hosted bare
      (anonymous (surroundings, webhook) (by simp))).2 sound _
      (parseHost_self (parseHost_plain read honourable.host))
    cases result : (hookClient surroundings webhook (cacheAfter past)).1 with
    | ok stored => exact ⟨stored, rfl, (target stored result).mpr honourable⟩
    | error error =>
        have build := (hookClient_failed result).1
        rw [built] at build
        cases build
  · obtain ⟨segments, written, _⟩ := exists_hasSegments located.path
    exact ⟨segments, written, keepsSegments_of_free located written, free_of_keepsSegments written⟩

/-- A webhook at an `https` URL with the given CA bundle. -/
def notifyHook (caBundle : Option Bytes) : Webhook :=
  ⟨"notify", ⟨some "https://example.com/notify", none, caBundle⟩⟩

def quietSurroundings : Surroundings := ⟨none, none⟩

def notifyURL : URL := ⟨bytes "https", [], bytes "example.com", bytes "/notify", []⟩

theorem url_honoured_notifyHook :
    Url.parse (bytes "https://example.com/notify") = .ok notifyURL ∧
      ∃ client, (hookClient quietSurroundings (notifyHook (some [1])) (cacheAfter [])).1 =
          .ok client ∧ CallsAt client notifyURL := by
  have parsed : Url.parse (bytes "https://example.com/notify") = .ok notifyURL := by
    decide +kernel
  obtain ⟨_, reached, segments, written, keeps, _⟩ := url_honoured [] quietSurroundings
    (notifyHook (some [1])) "https://example.com/notify" notifyURL rfl rfl parsed (Or.inr rfl)
    (by decide +kernel)
    (by
      intro call called
      rw [List.nil_append, List.mem_singleton] at called
      subst called
      decide +kernel)
  have cut : HasSegments notifyURL.pathText [[], bytes "notify"] := by
    have parts : notifyURL.pathText.splitOn slash = [[], bytes "notify"] := by decide +kernel
    rw [HasSegments, parts]
    exact .cons rfl (.cons (by decide +kernel) .nil)
  obtain rfl := cut.unique written
  have honourable : Honourable notifyURL [1] :=
    ⟨by decide +kernel, by decide +kernel, keeps (by decide +kernel)⟩
  exact ⟨parsed, (reached rfl).mpr honourable⟩

/-- Without a CA bundle the same URL is contacted over plain `http`. -/
theorem https_called_over_http :
    Url.parse (bytes "https://example.com/notify") = .ok notifyURL ∧
      ∃ client, (hookClient quietSurroundings (notifyHook none) (cacheAfter [])).1 = .ok client ∧
        client.requestURL = ⟨bytes "http", [], bytes "example.com", bytes "/notify", []⟩ := by
  have built : ((hookClient quietSurroundings (notifyHook none) (cacheAfter [])).1).toOption.map
      RESTClient.requestURL = some ⟨bytes "http", [], bytes "example.com", bytes "/notify", []⟩ := by
    decide +kernel
  refine ⟨by decide +kernel, ?_⟩
  cases result : (hookClient quietSurroundings (notifyHook none) (cacheAfter [])).1 with
  | error error =>
      rw [result] at built
      cases built
  | ok client =>
      rw [result] at built
      exact ⟨client, rfl, Option.some.inj built⟩

end MXNetOperator.Property
