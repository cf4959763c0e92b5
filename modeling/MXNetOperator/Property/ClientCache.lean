import MXNetOperator.Mx.HookClient

/-!
Contract: the cache of webhook clients is transparent.

The key of a client is the JSON text of its configuration, and that text
determines the configuration.  So whatever calls came before, and whatever they
evicted, a call gets a client that was built from a configuration equal to its
own.
-/

namespace MXNetOperator.Property

open MXNetOperator.Api MXNetOperator.Cache MXNetOperator.Codec MXNetOperator.Url MXNetOperator.Mx

/-! ### The key -/

theorem marshalService_delimited : SelfDelimiting marshalService := by
  have path := ((quoted_delimited.framed ",\"path\":".toList).closed "\x7d".toList).option
    "\x7d".toList fun path =>
      ((Clash.of_incomparable (by decide +kernel) (by decide +kernel)).append_right _).append_right _
  have names := ((quoted_delimited.framed "\x7b\"namespace\":".toList).closed
    ",\"name\":".toList).append quoted_delimited
  refine (names.append path).comap
    (fun service : ServiceReference => ((service.ns, service.name), service.path)) ?_
  rintro ⟨_, _, _⟩ ⟨_, _, _⟩ same
  simp only [Prod.mk.injEq] at same
  obtain ⟨⟨rfl, rfl⟩, rfl⟩ := same
  rfl

theorem marshalClientConfig_delimited : SelfDelimiting marshalClientConfig := by
  have url := ((quoted_delimited.framed "\"url\":".toList).closed ",\"service\":".toList).option
    "\"service\":".toList fun url =>
      ((Clash.of_incomparable (by decide +kernel) (by decide +kernel)).append_right _).append_right _
  have service := marshalService_delimited.option "null".toList fun service =>
    ((((Clash.of_incomparable (by decide +kernel) (by decide +kernel)).append_right _).append_right
      _).append_right _).append_right _
  have quote : Clash "null".toList ['"'] := .of_incomparable (by decide +kernel) (by decide +kernel)
  have caBundle := quotedBytes_delimited.option "null".toList fun bundle => quote.append_right _
  refine (((((url.framed "\x7b".toList).append service).closed ",\"caBundle\":".toList).append
    caBundle).closed "\x7d".toList).comap
    (fun config : WebhookClientConfig => ((config.url, config.service), config.caBundle)) ?_
  rintro ⟨_, _, _⟩ ⟨_, _, _⟩ same
  simp only [Prod.mk.injEq] at same
  obtain ⟨⟨rfl, rfl⟩, rfl⟩ := same
  rfl

/-- Configurations with one key are one configuration. -/
theorem cacheKey_injective : Function.Injective cacheKey := by
  intro left right same
  exact marshalClientConfig_delimited.injective (String.ofList_injective same)

/-! ### What a client was built for -/

section Built

variable {config : WebhookClientConfig} {surroundings : Surroundings} {webhook other : Webhook}
  {client : RESTClient}

/-- The host and the path a configuration names. -/
def targetOf (config : WebhookClientConfig) : Option (Bytes × Bytes) :=
  match config.service with
  | some service =>
      some (bytes ("https://" ++ (service.name ++ "." ++ service.ns ++ ".svc" ++ ":443")),
        service.path.elim [] bytes)
  | none =>
      config.url.bind fun raw =>
        match Url.parse (bytes raw) with
        | .ok url => some (if url.host = [] then bytes "localhost" else url.host, url.path)
        | .error _ => none

/-- The name the server certificate has to carry, empty for the host's own. -/
def serverNameOf (config : WebhookClientConfig) : String :=
  config.service.elim "" fun service => service.name ++ "." ++ service.ns ++ ".svc"

/-- The client goes where the configuration points and trusts what it trusts. -/
structure ServesConfig (config : WebhookClientConfig) (client : RESTClient) : Prop where
  address : ∃ target defaultTLS url, targetOf config = some target ∧
    defaultServerURL target.1 target.2 defaultTLS = .ok (url, client.versionedAPIPath) ∧
    client.base.scheme = url.scheme ∧ client.base.host = url.host
  caData : client.tls.caData = config.caBundle.getD []
  serverName : client.tls.serverName = serverNameOf config
  dial : client.dial = config.service.map fun service => (service.ns, service.name)

/-- The host and the path of a `rest.Config`. -/
def restTarget (config : RestConfig) : Bytes × Bytes :=
  (if config.host = [] then bytes "localhost" else config.host, config.apiPath)

theorem completeClient_ok {caBundle : Bytes} {restConfig : RestConfig}
    (built : completeClient surroundings caBundle restConfig = .ok client) :
    (∃ defaultTLS url, defaultServerURL (restTarget restConfig).1 (restTarget restConfig).2
        defaultTLS = .ok (url, client.versionedAPIPath) ∧
        client.base.scheme = url.scheme ∧ client.base.host = url.host) ∧
      client.tls.caData = caBundle ∧ client.tls.serverName = restConfig.tls.serverName ∧
      client.dial = restConfig.dial := by
  unfold completeClient unversionedRESTClientFor at built
  cases found : defaultServerUrlFor
    { restConfig with
      userAgent := controllerName, tls := { restConfig.tls with caData := caBundle } } with
  | error error =>
      rw [found] at built
      cases built
  | ok address =>
      rw [found] at built
      cases transport : surroundings.transportError with
      | some text =>
          rw [transport] at built
          cases built
      | none =>
          rw [transport] at built
          cases built
          exact ⟨⟨_, _, found, rfl, rfl⟩, rfl, rfl, rfl⟩

/-- What the resolver leaves to `HookClient`. -/
theorem resolveClientConfig_blank (inCluster : Option InClusterConfig) (target : Bytes) :
    (resolveClientConfig inCluster target).apiPath = [] ∧
      (resolveClientConfig inCluster target).tls.serverName = "" ∧
      (resolveClientConfig inCluster target).dial = none := by
  unfold resolveClientConfig
  split
  · cases inCluster <;> exact ⟨rfl, rfl, rfl⟩
  · exact ⟨rfl, rfl, rfl⟩

theorem restTarget_serviceConfig {inCluster : Option InClusterConfig} {service : ServiceReference}
    (named : config.service = some service) :
    targetOf config = some (restTarget (serviceConfig inCluster service)) := by
  have filled : (serviceConfig inCluster service).host ≠ [] := by
    simp [serviceConfig, bytes]
  have blank := (resolveClientConfig_blank inCluster
    (bytes (service.name ++ "." ++ service.ns ++ ".svc"))).1
  have path : (serviceConfig inCluster service).apiPath = service.path.elim [] bytes := by
    rw [← blank]
    rfl
  rw [targetOf, named, restTarget, if_neg filled, path]
  rfl

/-- A client serves the configuration it was built from. -/
theorem servesConfig_of_buildClient (built : buildClient surroundings webhook = .ok client) :
    ServesConfig webhook.clientConfig client := by
  unfold buildClient at built
  split at built
  · rename_i service named
    obtain ⟨⟨defaultTLS, url, address, scheme, host⟩, caData, serverName, dial⟩ :=
      completeClient_ok built
    refine ⟨⟨_, defaultTLS, url, restTarget_serviceConfig named, address, scheme, host⟩,
      caData, ?_, ?_⟩
    · rw [serverName, serverNameOf, named]
      rfl
    · rw [dial, named]
      rfl
  · rename_i named
    split at built
    · cases built
    · rename_i raw configured
      split at built
      · cases built
      · rename_i found parsed
        obtain ⟨⟨defaultTLS, url, address, scheme, host⟩, caData, serverName, dial⟩ :=
          completeClient_ok built
        have blank := resolveClientConfig_blank surroundings.inCluster found.host
        have target : targetOf webhook.clientConfig =
            some (restTarget (urlConfig surroundings.inCluster found)) := by
          rw [targetOf, named, configured]
          show (match Url.parse (bytes raw) with
            | .ok url => some (if url.host = [] then bytes "localhost" else url.host, url.path)
            | .error _ => none) = _
          rw [parsed]
          rfl
        refine ⟨⟨_, defaultTLS, url, target, address, scheme, host⟩, caData, ?_, ?_⟩
        · rw [serverName, serverNameOf, named]
          exact blank.2.1
        · rw [dial, named]
          exact blank.2.2

/-- The name of a webhook shows in errors only. -/
theorem buildClient_of_sameConfig (built : buildClient surroundings other = .ok client)
    (same : other.clientConfig = webhook.clientConfig) :
    buildClient surroundings webhook = .ok client := by
  unfold buildClient at built ⊢
  rw [← same]
  split at built
  · exact built
  · split at built
    · cases built
    · split at built
      · cases built
      · exact built

end Built

/-! ### Calls in sequence -/

/-- One call of `HookClient` and what it finds around it. -/
abbrev HookCall := Surroundings × Webhook

/-- The cache after a sequence of calls. -/
def cacheAfter (calls : List HookCall) : ClientCache :=
  calls.foldl (fun cache call => (hookClient call.1 call.2 cache).2) Lru.empty

section Calls

variable {past calls : List HookCall} {surroundings : Surroundings} {webhook : Webhook}
  {cache : ClientCache} {client : RESTClient} {error : HookError}

/-- Every entry holds what one of the calls built, under the key of its
configuration. -/
def SoundCache (past : List HookCall) (cache : ClientCache) : Prop :=
  ∀ entry ∈ cache.entries, ∃ call ∈ past, entry.1 = cacheKey call.2.clientConfig ∧
    buildClient call.1 call.2 = .ok entry.2

theorem SoundCache.mono (sound : SoundCache past cache) (more : List HookCall) :
    SoundCache (past ++ more) cache := by
  intro entry member
  obtain ⟨call, called, keyed, built⟩ := sound entry member
  exact ⟨call, List.mem_append_left more called, keyed, built⟩

/-- What one call does: it finds a client, builds and stores one, or fails and
leaves the cache alone. -/
inductive Served (surroundings : Surroundings) (webhook : Webhook) (cache : ClientCache) :
    Except HookError RESTClient × ClientCache → Prop where
  | hit {client : RESTClient} {next : ClientCache}
      (stored : (cacheKey webhook.clientConfig, client) ∈ cache.entries)
      (kept : ∀ entry ∈ next.entries, entry ∈ cache.entries) :
      Served surroundings webhook cache (.ok client, next)
  | built {client : RESTClient} {next : ClientCache}
      (build : buildClient surroundings webhook = .ok client)
      (kept : ∀ entry ∈ next.entries,
        entry = (cacheKey webhook.clientConfig, client) ∨ entry ∈ cache.entries) :
      Served surroundings webhook cache (.ok client, next)
  | failed {error : HookError} (build : buildClient surroundings webhook = .error error) :
      Served surroundings webhook cache (.error error, cache)

theorem hookClient_served (surroundings : Surroundings) (webhook : Webhook) (cache : ClientCache) :
    Served surroundings webhook cache (hookClient surroundings webhook cache) := by
  cases found : cache.find? (cacheKey webhook.clientConfig) with
  | some client =>
      have value := Lru.get_value.trans found
      have kept : ∀ entry ∈ (cache.get (cacheKey webhook.clientConfig)).2.entries,
          entry ∈ cache.entries := fun entry => Lru.mem_get
      cases got : cache.get (cacheKey webhook.clientConfig) with
      | mk stored next =>
          rw [got] at value kept
          cases value
          have result : hookClient surroundings webhook cache = (.ok client, next) := by
            simp [hookClient, got]
          rw [result]
          exact .hit (Lru.mem_of_find? found) kept
  | none =>
      have missed := Lru.get_of_missing found
      cases build : buildClient surroundings webhook with
      | error error =>
          have result : hookClient surroundings webhook cache = (.error error, cache) := by
            simp [hookClient, missed, build]
          rw [result]
          exact .failed build
      | ok client =>
          have result : hookClient surroundings webhook cache =
              (.ok client, cache.add (cacheKey webhook.clientConfig) client) := by
            simp [hookClient, missed, build]
          rw [result]
          exact .built build fun entry member => (Lru.mem_add member).imp_right And.left

/-- An error is the one of building the client, and leaves the cache alone. -/
theorem hookClient_failed {surroundings : Surroundings} {webhook : Webhook} {cache : ClientCache}
    {error : HookError} (failed : (hookClient surroundings webhook cache).1 = .error error) :
    buildClient surroundings webhook = .error error ∧
      (hookClient surroundings webhook cache).2 = cache := by
  generalize result : hookClient surroundings webhook cache = served at failed
  have cases := hookClient_served surroundings webhook cache
  rw [result] at cases
  cases cases with
  | hit stored kept => cases failed
  | built build kept => cases failed
  | failed build =>
      cases failed
      exact ⟨build, rfl⟩

theorem SoundCache.hookClient (sound : SoundCache past cache) :
    SoundCache (past ++ [(surroundings, webhook)]) (hookClient surroundings webhook cache).2 := by
  have grown := sound.mono [(surroundings, webhook)]
  generalize result : Mx.hookClient surroundings webhook cache = served
  have cases := hookClient_served surroundings webhook cache
  rw [result] at cases
  cases cases with
  | hit stored kept => exact fun entry member => grown entry (kept entry member)
  | built build kept =>
      intro entry member
      rcases kept entry member with rfl | old
      · exact ⟨(surroundings, webhook), by simp, rfl, build⟩
      · exact grown entry old
  | failed build => exact grown

theorem SoundCache.foldl (sound : SoundCache past cache) :
    SoundCache (past ++ calls)
      (calls.foldl (fun cache call => (Mx.hookClient call.1 call.2 cache).2) cache) := by
  induction calls generalizing past cache with
  | nil => exact sound.mono []
  | cons call rest inductionHypothesis =>
      rw [List.foldl_cons, ← List.singleton_append, ← List.append_assoc]
      exact inductionHypothesis sound.hookClient

theorem cacheAfter_sound (past : List HookCall) : SoundCache past (cacheAfter past) := by
  have start : SoundCache [] Lru.empty := fun _ member => absurd member List.not_mem_nil
  exact start.foldl

/-- A returned client was built by this call or by an earlier one for an equal
configuration. -/
theorem SoundCache.returned (sound : SoundCache past cache)
    (returned : (Mx.hookClient surroundings webhook cache).1 = .ok client) :
    ∃ call ∈ past ++ [(surroundings, webhook)], call.2.clientConfig = webhook.clientConfig ∧
      buildClient call.1 webhook = .ok client := by
  generalize result : Mx.hookClient surroundings webhook cache = served at returned
  have cases := hookClient_served surroundings webhook cache
  rw [result] at cases
  cases cases with
  | hit stored kept =>
      cases returned
      obtain ⟨call, called, keyed, built⟩ := sound _ stored
      have same := cacheKey_injective keyed
      exact ⟨call, List.mem_append_left _ called, same.symm,
        buildClient_of_sameConfig built same.symm⟩
  | built build kept =>
      cases returned
      exact ⟨(surroundings, webhook), by simp, rfl, build⟩
  | failed build => cases returned

/-- Whatever calls came before, a client that `HookClient` returns was built, by
this call or an earlier one, from a configuration equal to the one asked for,
and goes to its host and path with its CA data and server name.  A call that
fails leaves the cache as it was, and no two configurations share a key. -/
theorem cache_transparent (past : List HookCall) (surroundings : Surroundings)
    (webhook : Webhook) :
    (∀ client, (hookClient surroundings webhook (cacheAfter past)).1 = .ok client →
        ServesConfig webhook.clientConfig client ∧
          ∃ call ∈ past ++ [(surroundings, webhook)],
            call.2.clientConfig = webhook.clientConfig ∧ buildClient call.1 webhook = .ok client) ∧
      (∀ error, (hookClient surroundings webhook (cacheAfter past)).1 = .error error →
        (hookClient surroundings webhook (cacheAfter past)).2 = cacheAfter past) ∧
      Function.Injective cacheKey := by
  refine ⟨?_, ?_, cacheKey_injective⟩
  · intro client returned
    obtain ⟨call, called, same, built⟩ := (cacheAfter_sound past).returned returned
    exact ⟨servesConfig_of_buildClient built, call, called, same, built⟩
  · intro error failed
    exact (hookClient_failed failed).2

end Calls

end MXNetOperator.Property
