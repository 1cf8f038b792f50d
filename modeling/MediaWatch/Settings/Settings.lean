import MediaWatch.Schema.Record
import MediaWatch.Settings.Assignments

/-!
# Settings

The settings of the program with their defaults (`Settings.default`). `Settings.read` takes them from values given
directly, from the environment and from an assignment file, in this order of precedence; `Settings.override` puts
values in place as they are.
-/

namespace MediaWatch

open Schema Schema.Fields Json

structure Settings where
  baseUrl : Text
  apiKey : Text
  eventsMode : Text
  pollInterval : Number
  pollPageSize : Int
  detectRemovedSeries : Bool
  receiveTimeout : Number
  listenerTimeout : Option Number
  reconnectInitial : Number
  reconnectMaximum : Number
  reconnectFactor : Number
  reconnectJitter : Number
  reconnectAttempts : Option Int
  circuitThreshold : Int
  circuitCooldown : Number
  updateEvents : Number
  updateInterval : Number
  logLevel : Text
  serverEnabled : Bool
  serverPort : Int
  serverToken : Option Text
  requestTimeout : Number

namespace Settings

def default : Settings where
  baseUrl := "http://localhost:10801"
  apiKey := ""
  eventsMode := "auto"
  pollInterval := .int 300
  pollPageSize := 500
  detectRemovedSeries := true
  receiveTimeout := .float 5.0
  listenerTimeout := none
  reconnectInitial := .float 5.0
  reconnectMaximum := .float 300.0
  reconnectFactor := .float 2.0
  reconnectJitter := .float 0.1
  reconnectAttempts := none
  circuitThreshold := 5
  circuitCooldown := .int 300
  updateEvents := .int 120
  updateInterval := .float 60.0
  logLevel := "INFO"
  serverEnabled := false
  serverPort := 8080
  serverToken := none
  requestTimeout := .int 30

/-- A whole number. -/
def whole : Codec Number where
  read conversions v := (Codec.int.read conversions v).map .int
  write _ n := .num n

/-- A number as it is. -/
def number : Codec Number where
  read conversions
    | .num n => .ok n
    | v => Codec.real.read conversions v
  write _ n := .num n

/-- The fields of settings with the given codecs for whole and floating numbers; what is missing is as in `base`. -/
def fields (whole real : Codec Number) (base : Settings) : Fields Settings Settings :=
  Settings.mk
    <$> given "STUMP_BASE_URL" .text base.baseUrl (·.baseUrl)
    <*> given "STUMP_API_KEY" .text base.apiKey (·.apiKey)
    <*> given "EVENTS_MODE" .text base.eventsMode (·.eventsMode)
    <*> given "POLL_INTERVAL_SECONDS" whole base.pollInterval (·.pollInterval)
    <*> given "POLL_PAGE_SIZE" .int base.pollPageSize (·.pollPageSize)
    <*> given "POLL_DETECT_REMOVED_SERIES" .bool base.detectRemovedSeries (·.detectRemovedSeries)
    <*> given "SUBSCRIPTION_RECEIVE_TIMEOUT_SECONDS" real base.receiveTimeout (·.receiveTimeout)
    <*> given "LISTENER_TIMEOUT_SECONDS" real.optional base.listenerTimeout (·.listenerTimeout)
    <*> given "RECONNECT_INITIAL_DELAY_SECONDS" real base.reconnectInitial (·.reconnectInitial)
    <*> given "RECONNECT_MAX_DELAY_SECONDS" real base.reconnectMaximum (·.reconnectMaximum)
    <*> given "RECONNECT_BACKOFF_FACTOR" real base.reconnectFactor (·.reconnectFactor)
    <*> given "RECONNECT_JITTER" real base.reconnectJitter (·.reconnectJitter)
    <*> given "RECONNECT_MAX_ATTEMPTS" Codec.int.optional base.reconnectAttempts (·.reconnectAttempts)
    <*> given "CIRCUIT_FAILURE_THRESHOLD" .int base.circuitThreshold (·.circuitThreshold)
    <*> given "CIRCUIT_COOLDOWN_SECONDS" whole base.circuitCooldown (·.circuitCooldown)
    <*> given "UPDATE_RATE_LIMIT_EVENTS" whole base.updateEvents (·.updateEvents)
    <*> given "UPDATE_RATE_LIMIT_INTERVAL_SECONDS" real base.updateInterval (·.updateInterval)
    <*> given "LOG_LEVEL" .text base.logLevel (·.logLevel)
    <*> given "HTTP_SERVER_ENABLED" .bool base.serverEnabled (·.serverEnabled)
    <*> given "HTTP_SERVER_PORT" .int base.serverPort (·.serverPort)
    <*> given "HTTP_SERVER_TOKEN" Codec.text.optional base.serverToken (·.serverToken)
    <*> given "REQUEST_TIMEOUT_SECONDS" whole base.requestTimeout (·.requestTimeout)

def codec : Codec Settings := .plain (fields whole Codec.real .default)

/-- Puts values in place of settings. -/
def override (conversions : Conversions) (values : Members) (base : Settings) : Checked Settings :=
  (Codec.plain (fields number number base)).read conversions (.obj values)

/-- The values of assignments, the latest of each name. -/
def assigned (bindings : Assignments.Bindings) : Members :=
  Members.ofList (bindings.reverse.filterMap fun (name, _) =>
    (Assignments.lookup name bindings).map fun v => (.plain name, .str v))

/-- Reads the settings from values given directly, the environment and an assignment file. -/
def read (conversions : Conversions) (direct : Members) (environment : List (String × String))
    (file : Option String) : Checked Settings :=
  let fromFile := match file with
    | some text => assigned (Assignments.read environment text)
    | none => []
  let fromEnvironment : Members := environment.map fun (k, v) => (k, .str v)
  codec.read conversions (.obj (Members.ofList (fromFile ++ fromEnvironment ++ direct)))

end Settings

end MediaWatch
