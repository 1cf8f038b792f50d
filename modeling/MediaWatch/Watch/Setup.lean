import MediaWatch.Settings.Settings
import MediaWatch.Text.Lower
import MediaWatch.Text.Quoted
import MediaWatch.Url.Socket
import MediaWatch.Watch.Watcher

/-!
# Setting up a watcher

`Watcher.ofSettings` chooses the strategy of a watcher once and for all by the name of a mode. A duration or a page size
that is not given, or is zero where zero makes no sense, is taken from the settings.
-/

namespace MediaWatch

/-- Why no watcher can be set up. -/
inductive SetupFault where
  | unknownMode (mode : Text)
  /-- The base URL has a bad host. -/
  | badHost
  deriving Repr, DecidableEq

/-- The names of the modes. -/
def modes : List String := ["auto", "subscription", "polling"]

/-- The fault's text; a bad host has none of its own. -/
def SetupFault.message : SetupFault → Option String
  | unknownMode mode =>
    some ("Unknown EVENTS_MODE " ++ Text.quoted mode ++ ", expected one of " ++ ", ".intercalate modes)
  | badHost => none

namespace Settings

/-- The delays before reconnecting, with the random numbers to draw from. -/
def backoff (s : Settings) (draws : List Number) : Backoff Number :=
  .fresh s.reconnectInitial s.reconnectMaximum s.reconnectFactor s.reconnectJitter s.reconnectAttempts draws

def breaker (s : Settings) (name : String) : Breaker Number := .fresh name s.circuitThreshold s.circuitCooldown

/-- The size of a page, unless one is given. -/
def pageSizeOr (s : Settings) : Option Int → Int
  | none | some 0 => s.pollPageSize
  | some n => n

/-- How libraries are read. -/
def detector (s : Settings) (pageSize : Option Int) (reportRemoved : Option Bool) : Detector :=
  ⟨s.pageSizeOr pageSize, reportRemoved.getD s.detectRemovedSeries⟩

/-- The time to wait for a frame, unless one is given. -/
def receiveTimeoutOr (s : Settings) : Option Number → Number
  | none => s.receiveTimeout
  | some t => if t.isZero then s.receiveTimeout else t

/-- The strategy of sweeps alone. -/
def polling (s : Settings) (interval : Option Number) : Strategy Number := .polling (interval.getD s.pollInterval)

/-- The strategy of a subscription to the server at a base URL, unless its host is bad. -/
def push (s : Settings) (base : String) (fallback : Bool) (pollInterval receiveTimeout : Option Number) :
    Option (Strategy Number) :=
  (Url.socket base).map fun url =>
    .push url fallback (pollInterval.getD s.pollInterval) (s.receiveTimeoutOr receiveTimeout)

/-- The name of the subscription's breaker. -/
def breakerName : String := "stump-subscription"

/-- The mode that is asked for, or else that of the settings. -/
def modeOr (s : Settings) (mode : Option Text) : Text :=
  Text.lower (match mode with
    | none => s.eventsMode
    | some m => if m.isEmpty then s.eventsMode else m)

/-- The strategy that a mode stands for. -/
def strategy (s : Settings) (base : String) (mode : Option Text) : Except SetupFault (Strategy Number) :=
  let mode := s.modeOr mode
  if mode = "polling" then .ok (s.polling none)
  else if mode = "auto" ∨ mode = "subscription" then
    match s.push base (mode = "auto") none none with
    | some strategy => .ok strategy
    | none => .error .badHost
  else .error (.unknownMode mode)

end Settings

/-- The watcher of a server in a given mode. -/
def Watcher.ofSettings (s : Settings) (base : String) (mode : Option Text) (listeners : List String)
    (draws : List Number) : Except SetupFault (Watcher Number) :=
  (s.strategy base mode).map fun strategy =>
    .fresh strategy (s.detector none none) listeners s.listenerTimeout (s.backoff draws)
      (s.breaker Settings.breakerName)

/-- Whether the watcher reads libraries itself, now or as a fallback. -/
def Watcher.sweeps {τ : Type} (w : Watcher τ) : Bool :=
  match w.strategy with
  | .polling _ => true
  | .push _ fallback _ _ => fallback

/-! ## Reports -/

open Json

/-- A number that may be missing. -/
def numberOrNull : Option Number → Value
  | none => .null
  | some n => .num n

/-- The report of a breaker as just read. -/
def Breaker.report (b : Breaker Number) : Value :=
  .obj [("name", .str b.name), ("state", .str b.phase.word), ("failure_count", .int b.failures),
    ("failure_threshold", .int b.threshold), ("cooldown_seconds", .num b.cooldown)]

/-- The report of a watcher. -/
def Watcher.Health.report (h : Watcher.Health Number) : Value :=
  let common : Members := [("mode", .str h.mode), ("active", .bool h.active), ("status", .str h.status.word),
    ("last_event_at", numberOrNull h.lastEventAt)]
  let push : Members := match h.push with
    | none => []
    | some (breaker, attempt) => [("circuit", breaker.report), ("reconnect_attempt", .int attempt)]
  .obj (common ++ push)

end MediaWatch
