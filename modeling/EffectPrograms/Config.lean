import EffectPrograms.Duration
import EffectPrograms.Failure.Kind
import EffectPrograms.Toml.Parser

set_option autoImplicit false

namespace EffectPrograms

structure RetryOverrides where
  always : List ErrorKind
  never : List ErrorKind
deriving DecidableEq

structure Config where
  maxPayloadBytes : Nat
  defaultTtlSecs : Option Nat
  cacheNamespace : Option String
  retry : RetryOverrides
deriving DecidableEq

inductive ConfigFault where
  | zeroPayload
  | zeroTtl
  | longTtl (secs : Nat)
  | emptyNamespace
  | contradiction (kind : ErrorKind)
deriving DecidableEq

inductive ConfigError where
  | unreadable (path reason : String)
  | malformed
  | invalid (fault : ConfigFault)
deriving DecidableEq

namespace RetryOverrides

def none : RetryOverrides := ⟨[], []⟩

def toJson (retry : RetryOverrides) : Json :=
  .object [("always", .array (retry.always.map ErrorKind.toJson)),
    ("never", .array (retry.never.map ErrorKind.toJson))]

def kinds? : Option Json.Part → Option (List ErrorKind)
  | .none => some []
  | .some part => part.list? ErrorKind.read?

def read? (part : Json.Part) : Option RetryOverrides := do
  let [always, never] ← part.someFields? ["always", "never"] | failure
  some ⟨← kinds? always, ← kinds? never⟩

-- A name, or a table that gives it an empty table.
def tomlKind? : Toml.Value → Option ErrorKind
  | .string name => ErrorKind.ofName? name
  | .table [(name, .table [])] => ErrorKind.ofName? name
  | _ => failure

def tomlKinds? : Toml.Value → Option (List ErrorKind)
  | .array items => Json.readAll? tomlKind? items
  | _ => failure

-- A table, or an array of the two lists; a date holds neither of them.
def ofToml? : Toml.Value → Option RetryOverrides
  | .table members => do
      let list (name : String) : Option (List ErrorKind) :=
        match members.lookup name with
        | .none => some []
        | .some value => tomlKinds? value
      some ⟨← list "always", ← list "never"⟩
  | .array [] | .datetime => some none
  | .array [always] => do some ⟨← tomlKinds? always, []⟩
  | .array (always :: never :: _) => do some ⟨← tomlKinds? always, ← tomlKinds? never⟩
  | _ => failure

end RetryOverrides

def maxCacheTtl : Duration := .ofSecs (365 * 24 * 60 * 60)

def ConfigFault.message : ConfigFault → String
  | zeroPayload => "max_payload_bytes must be positive"
  | zeroTtl => "default_cache_ttl_secs must be positive"
  | longTtl secs =>
      "default_cache_ttl_secs is " ++ toString secs ++ ", limit is " ++ toString maxCacheTtl.secs
  | emptyNamespace => "cache_namespace must not be empty"
  | contradiction kind => kind.name ++ " is listed as both always and never retryable"

def ConfigError.message : ConfigError → String
  | unreadable path reason => "failed to read config file " ++ path ++ ": " ++ reason
  | malformed => "failed to parse config"
  | invalid fault => "invalid config: " ++ fault.message

namespace Config

def defaultMaxPayload : Nat := 1024 * 1024

def default : Config := ⟨defaultMaxPayload, none, none, .none⟩

instance : Inhabited Config := ⟨default⟩

def withMaxPayloadBytes (config : Config) (limit : Nat) : Config :=
  { config with maxPayloadBytes := limit }

-- The default expiry is kept in whole seconds, rounded up.
def withDefaultCacheTtl (config : Config) (ttl : Duration) : Config :=
  { config with defaultTtlSecs := some ttl.ceiling }

def withCacheNamespace (config : Config) (name : String) : Config :=
  { config with cacheNamespace := some name }

def withRetry (config : Config) (retry : RetryOverrides) : Config := { config with retry }

def ttlFault? : Option Nat → Option ConfigFault
  | none => none
  | some secs =>
      if secs = 0 then some .zeroTtl
      else if maxCacheTtl.secs < secs then some (.longTtl secs)
      else none

-- The first contradiction, in the order in which the settings are checked.
def fault? (config : Config) : Option ConfigFault :=
  if config.maxPayloadBytes = 0 then some .zeroPayload
  else
    match ttlFault? config.defaultTtlSecs with
    | some fault => some fault
    | none =>
        if config.cacheNamespace = some "" then some .emptyNamespace
        else
          (config.retry.always.find? fun kind => config.retry.never.contains kind).map
            .contradiction

def validate (config : Config) : Except ConfigError Unit :=
  match config.fault? with
  | some fault => .error (.invalid fault)
  | none => .ok ()

def isRetryable (config : Config) (kind : ErrorKind) : Bool :=
  if config.retry.always.contains kind then true
  else if config.retry.never.contains kind then false
  else kind.isRetryable

def defaultCacheTtl (config : Config) : Option Duration := config.defaultTtlSecs.map .ofSecs

def cacheKey (config : Config) (key : String) : String :=
  match config.cacheNamespace with
  | some name => name ++ ":" ++ key
  | none => key

theorem cacheKey_injective {config : Config} {key other : String}
    (same : config.cacheKey key = config.cacheKey other) : key = other := by
  rw [cacheKey, cacheKey] at same
  split at same
  · exact (String.append_right_inj _).mp same
  · exact same

def toJson (config : Config) : Json :=
  .object [("max_payload_bytes", .nat config.maxPayloadBytes),
    ("default_cache_ttl_secs", Json.optional .nat config.defaultTtlSecs),
    ("cache_namespace", Json.optional .string config.cacheNamespace),
    ("retry", config.retry.toJson)]

def settingNames : List String :=
  ["max_payload_bytes", "default_cache_ttl_secs", "cache_namespace", "retry"]

def read? (part : Json.Part) : Option Config := do
  let [limit, ttl, name, retry] ← part.someFields? settingNames | none
  let limit ←
    match limit with
    | none => some default.maxPayloadBytes
    | some limit => limit.bits? 64
  let retry ←
    match retry with
    | none => some RetryOverrides.none
    | some retry => RetryOverrides.read? retry
  some ⟨limit, ← Json.optionalField? (Json.Part.bits? 64) ttl,
    ← Json.optionalField? Json.Part.text? name, retry⟩

def tomlNat? : Toml.Value → Option Nat
  | .integer (.ofNat n) => some n
  | _ => none

def tomlText? : Toml.Value → Option String
  | .string text => some text
  | _ => none

def setting? {α : Type} (members : List (String × Toml.Value)) (name : String)
    (read : Toml.Value → Option α) (missing : α) : Option α :=
  match members.lookup name with
  | none => some missing
  | some value => read value

def ofMembers? (members : List (String × Toml.Value)) : Option Config := do
  let limit ← setting? members "max_payload_bytes" tomlNat? default.maxPayloadBytes
  let ttl ← setting? members "default_cache_ttl_secs" (fun value => (tomlNat? value).map some) none
  let name ← setting? members "cache_namespace" (fun value => (tomlText? value).map some) none
  let retry ← setting? members "retry" RetryOverrides.ofToml? .none
  some ⟨limit, ttl, name, retry⟩

def ofToml (source : String) : Except ConfigError Config :=
  match (Toml.parse? source).bind ofMembers? with
  | none => .error .malformed
  | some config =>
      match config.validate with
      | .ok _ => .ok config
      | .error error => .error error

def ofFile (path : String) : Except String Bytes → Except ConfigError Config
  | .error reason => .error (.unreadable path reason)
  | .ok bytes =>
      match bytes.text? with
      | none => .error (.unreadable path "stream did not contain valid UTF-8")
      | some source => ofToml source

end Config
end EffectPrograms
