import MXNetOperator.Api.MXJob
import MXNetOperator.Cache.Lru
import MXNetOperator.Codec.Json
import MXNetOperator.Url.Parse

/-!
Contract: the clients that talk to webhooks.

Owns the embedding of `ClientManager.HookClient` with its cache key and its two
ways to fill a `rest.Config`, of the default authentication resolver for an
empty kubeconfig, and of what `client-go` makes of the config: the base URL,
the client and the URL of its requests.

What a call finds around it is in `Surroundings`: the in-cluster configuration
and whether the transport can be set up.  Credentials and limits that decide
neither the address nor the trust of a connection are left out.
-/

namespace MXNetOperator.Mx

open MXNetOperator.Api MXNetOperator.Cache MXNetOperator.Codec MXNetOperator.Url

/-! ### The cache key -/

/-- The JSON object of a service reference. -/
def marshalService (service : ServiceReference) : List Char :=
  "\x7b\"namespace\":".toList ++ quoted service.ns ++ ",\"name\":".toList ++
    quoted service.name ++
    service.path.elim "\x7d".toList fun path => ",\"path\":".toList ++ quoted path ++ "\x7d".toList

/-- `json.Marshal` of a client configuration. -/
def marshalClientConfig (config : WebhookClientConfig) : List Char :=
  "\x7b".toList ++
    (config.url.elim "\"service\":".toList fun url =>
      "\"url\":".toList ++ quoted url ++ ",\"service\":".toList) ++
    config.service.elim "null".toList marshalService ++ ",\"caBundle\":".toList ++
    config.caBundle.elim "null".toList quotedBytes ++ "\x7d".toList

def cacheKey (config : WebhookClientConfig) : String :=
  String.ofList (marshalClientConfig config)

example : cacheKey ⟨some "https://a/<b>", none, some [1, 2]⟩ =
    "\x7b\"url\":\"https://a/\\u003cb\\u003e\",\"service\":null,\"caBundle\":\"AQI=\"\x7d" := by
  decide +kernel

/-! ### Client configurations -/

structure TLSClientConfig where
  insecure : Bool
  serverName : String
  certFile : String
  caFile : String
  certData : Bytes
  caData : Bytes
deriving DecidableEq

/-- `rest.Config`.  `dial` names the service whose endpoint is resolved when
its own address is dialled. -/
structure RestConfig where
  host : Bytes
  apiPath : Bytes
  userAgent : String
  bearerToken : String
  timeout : Nat
  tls : TLSClientConfig
  dial : Option (String × String)
deriving DecidableEq

/-- `rest.Config` with every field at its zero value. -/
def RestConfig.zero : RestConfig :=
  ⟨[], [], "", "", 0, ⟨false, "", "", "", [], []⟩, none⟩

/-- What `rest.InClusterConfig` sets. -/
structure InClusterConfig where
  host : Bytes
  bearerToken : String
  caFile : String

def InClusterConfig.toRestConfig (config : InClusterConfig) : RestConfig :=
  { RestConfig.zero with
    host := config.host
    bearerToken := config.bearerToken
    tls := { RestConfig.zero.tls with caFile := config.caFile } }

structure Surroundings where
  inCluster : Option InClusterConfig
  transportError : Option String

/-- The errors on the way to a webhook.  `calling` is `ErrCallingWebhook` and
`status` is `StatusError`; errors that quote their argument keep it. -/
inductive HookError where
  | calling (webhookName : String) (reason : HookError)
  | plain (text : String)
  | parse (error : ParseError)
  | unparsableURL (error : ParseError)
  | badHost (host : Bytes)
  | status (result : Status)
  | waitTimeout
deriving DecidableEq

/-! ### Source functions -/

def setGlobalDefaults (config : RestConfig) : RestConfig :=
  { config with userAgent := "kube-apiserver-admission", timeout := 30 }

/-- `clientConfig` of the default resolver: without a kubeconfig every target
is anonymous, apart from the API server itself. -/
def resolveClientConfig (inCluster : Option InClusterConfig) (target : Bytes) : RestConfig :=
  if target = bytes "kubernetes.default.svc" then
    setGlobalDefaults (inCluster.elim RestConfig.zero InClusterConfig.toRestConfig)
  else setGlobalDefaults RestConfig.zero

/-- `DefaultVersionedAPIPath` for the empty group version. -/
def defaultVersionedAPIPath (apiPath : Bytes) : Bytes :=
  join [join [[slash], apiPath], []]

/-- The host completed by a scheme, in `DefaultServerURL`. -/
def completeHost (host : Bytes) (defaultTLS : Bool) : Except HookError URL :=
  match Url.parse ((if defaultTLS then bytes "https" else bytes "http") ++ bytes "://" ++ host) with
  | .error error => .error (.parse error)
  | .ok url => if url.path ≠ [] ∧ url.path ≠ [slash] then .error (.badHost host) else .ok url

def defaultServerURL (host apiPath : Bytes) (defaultTLS : Bool) : Except HookError (URL × Bytes) :=
  if host = [] then .error (.plain "host must be a URL or a host:port pair")
  else do
    let hostURL ←
      match Url.parse host with
      | .ok url =>
          if url.scheme = [] ∨ url.host = [] then completeHost host defaultTLS else .ok url
      | .error _ => completeHost host defaultTLS
    .ok (hostURL, defaultVersionedAPIPath apiPath)

/-- Whether `defaultServerUrlFor` completes a host with `https`. -/
def TLSClientConfig.defaultTLS (tls : TLSClientConfig) : Bool :=
  (!tls.caFile.isEmpty || !tls.caData.isEmpty) || (!tls.certFile.isEmpty || !tls.certData.isEmpty) ||
    tls.insecure

def defaultServerUrlFor (config : RestConfig) : Except HookError (URL × Bytes) :=
  defaultServerURL (if config.host = [] then bytes "localhost" else config.host) config.apiPath
    config.tls.defaultTLS

/-- What a `RESTClient` was set up with. -/
structure RESTClient where
  base : URL
  versionedAPIPath : Bytes
  userAgent : String
  bearerToken : String
  timeout : Nat
  tls : TLSClientConfig
  dial : Option (String × String)
deriving DecidableEq

/-- `NewRESTClient`: the base path ends in a slash. -/
def newRESTClient (baseURL : URL) (versionedAPIPath : Bytes) (config : RestConfig) : RESTClient :=
  ⟨{ baseURL with
      path := if baseURL.path.getLast? = some slash then baseURL.path else baseURL.path ++ [slash] },
    versionedAPIPath, config.userAgent, config.bearerToken, config.timeout, config.tls,
    config.dial⟩

def unversionedRESTClientFor (surroundings : Surroundings) (config : RestConfig) :
    Except HookError RESTClient := do
  let (baseURL, versionedAPIPath) ← defaultServerUrlFor config
  match surroundings.transportError with
  | some text => .error (.plain text)
  | none => .ok (newRESTClient baseURL versionedAPIPath config)

/-- `NewRequest` and `URL` for a request without resource: where a `Post` goes. -/
def RESTClient.requestURL (client : RESTClient) : URL :=
  { client.base with path := join [join [[slash], client.base.path], client.versionedAPIPath] }

def controllerName : String := "mxnet-operator"

/-- The closure `complete` of `HookClient`, before it stores the client. -/
def completeClient (surroundings : Surroundings) (caBundle : Bytes) (config : RestConfig) :
    Except HookError RESTClient :=
  unversionedRESTClientFor surroundings
    { config with userAgent := controllerName, tls := { config.tls with caData := caBundle } }

/-- The service branch of `HookClient`. -/
def serviceConfig (inCluster : Option InClusterConfig) (service : ServiceReference) : RestConfig :=
  let serverName := service.name ++ "." ++ service.ns ++ ".svc"
  let config := resolveClientConfig inCluster (bytes serverName)
  { config with
    host := bytes ("https://" ++ (serverName ++ ":443"))
    apiPath := service.path.elim config.apiPath bytes
    tls := { config.tls with serverName := serverName }
    dial := some (service.ns, service.name) }

/-- The URL branch of `HookClient`. -/
def urlConfig (inCluster : Option InClusterConfig) (url : URL) : RestConfig :=
  { resolveClientConfig inCluster url.host with host := url.host, apiPath := url.path }

/-- `HookClient` on a miss. -/
def buildClient (surroundings : Surroundings) (webhook : Webhook) : Except HookError RESTClient :=
  let caBundle := webhook.clientConfig.caBundle.getD []
  match webhook.clientConfig.service with
  | some service =>
      completeClient surroundings caBundle (serviceConfig surroundings.inCluster service)
  | none =>
      match webhook.clientConfig.url with
      | none =>
          .error (.calling webhook.name
            (.plain "webhook configuration must have either service or URL"))
      | some raw =>
          match Url.parse (bytes raw) with
          | .error error => .error (.calling webhook.name (.unparsableURL error))
          | .ok url => completeClient surroundings caBundle (urlConfig surroundings.inCluster url)

def defaultCacheSize : Nat := 200

abbrev ClientCache := Lru String RESTClient defaultCacheSize

def hookClient (surroundings : Surroundings) (webhook : Webhook) (cache : ClientCache) :
    Except HookError RESTClient × ClientCache :=
  let key := cacheKey webhook.clientConfig
  match cache.get key with
  | (some client, cache) => (.ok client, cache)
  | (none, cache) =>
      match buildClient surroundings webhook with
      | .ok client => (.ok client, cache.add key client)
      | .error error => (.error error, cache)

end MXNetOperator.Mx
