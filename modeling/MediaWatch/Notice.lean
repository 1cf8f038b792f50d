import MediaWatch.Event
import MediaWatch.Json.Display

/-!
# Notices

What the program reports while it runs. A `Notice` is data; its wording is `Notice.message` and its weight
`Notice.level`.
-/

namespace MediaWatch

/-- The weight of a notice. -/
inductive Level where
  | info
  | warning
  | error
  deriving Repr, DecidableEq

def Level.word : Level → String
  | .info => "INFO"
  | .warning => "WARNING"
  | .error => "ERROR"

/-- Something worth reporting. Numbers that settings write in their own way come as text. -/
inductive Notice where
  -- the breaker
  | breakerHalfOpen (name cooldown : String)
  | breakerClosed (name phase : String)
  | breakerReopened (name : String)
  | breakerOpened (name : String) (failures : Nat)
  -- the life of a watcher
  | starting (mode : String)
  | resuming (mode : String)
  | stopping (mode : String)
  | crashed (reason : Text)
  | exited (mode : String)
  -- sweeps
  | pollingEvery (interval : String)
  | listingFailed (reason : Text)
  | libraryFailed (library reason : Text)
  | libraryGone (library : Text)
  | baseline (library : Text) (media series : Nat)
  | changed (library : Text) (added removed : Nat)
  -- the subscription
  | connecting (url : String)
  | connectionClosed (reason : Text)
  | sessionFailed (reason : Text)
  | givingUp (attempts : Nat)
  | reconnecting (delay : String) (attempt : Nat)
  | established
  | fallingBack
  | complained (payload : Json.Value)
  | completed
  | rejected (payload : Json.Value)
  | unreadable (frame : Text)
  -- listeners
  | listenerLate (listener seconds hook : String) (events : Text)
  | listenerFailed (listener hook : String) (events : Text)
  | bookAdded (e : BookEvent)
  | seriesRemoved (library series : Text)
  -- the client
  | scanRequested (library : Text)
  | seriesUpdated (series : Text)
  | mediumUpdated (medium : Text)
  | seriesCovered (series : Text)
  | mediumCovered (medium : Text)
  -- the service
  | connected (url : String) (libraries : Nat)
  | unreachable (url : String) (reason : Text)
  | graceExpired
  | terminated

namespace Notice

def level : Notice → Level
  | breakerReopened _ | breakerOpened .. | connectionClosed _ | fallingBack | complained _ | unreadable _
  | listenerLate .. | listenerFailed .. | unreachable .. | graceExpired => .warning
  | crashed _ | exited _ | listingFailed _ | libraryFailed .. | sessionFailed _ | givingUp _ | rejected _ => .error
  | _ => .info

def message : Notice → Text
  | breakerHalfOpen name cooldown =>
    "CircuitBreaker[" ++ name ++ "]: OPEN -> HALF_OPEN (cooldown " ++ cooldown ++ "s elapsed)"
  | breakerClosed name phase => "CircuitBreaker[" ++ name ++ "]: " ++ phase ++ " -> closed (success)"
  | breakerReopened name => "CircuitBreaker[" ++ name ++ "]: HALF_OPEN -> OPEN (trial attempt failed)"
  | breakerOpened name failures =>
    "CircuitBreaker[" ++ name ++ "]: CLOSED -> OPEN (" ++ toString failures ++ " consecutive failures)"
  | starting mode => "Starting Stump event notifier (" ++ mode ++ ")"
  | resuming mode => "Resuming Stump event notifier (" ++ mode ++ ")"
  | stopping mode => "Stopping Stump event notifier (" ++ mode ++ ")"
  | crashed reason => "Stump event notifier crashed: " ++ reason
  | exited mode => "Stump event notifier (" ++ mode ++ ") exited unexpectedly, not restarting"
  | pollingEvery interval => "Polling Stump for changes every " ++ interval ++ "s"
  | listingFailed reason => "Failed to fetch Stump libraries: " ++ reason
  | libraryFailed library reason => "Failed to check Stump library " ++ library ++ " for changes: " ++ reason
  | libraryGone library => "Library " ++ library ++ " is gone, dropping its snapshot"
  | baseline library media series =>
    "Recorded baseline for library " ++ library ++ ": " ++ toString media ++ " media in " ++ toString series ++ " series"
  | changed library added removed =>
    "Library " ++ library ++ ": " ++ toString added ++ " new media, " ++ toString removed ++ " removed series"
  | connecting url => "Connecting to Stump subscription at " ++ url
  | connectionClosed reason => "Stump subscription connection closed: " ++ reason
  | sessionFailed reason => "Stump subscription failed: " ++ reason
  | givingUp attempts => "Giving up on Stump subscription after " ++ toString attempts ++ " reconnect attempts"
  | reconnecting delay attempt => "Reconnecting to Stump in " ++ delay ++ "s (attempt " ++ toString attempt ++ ")"
  | established => "Stump subscription established"
  | fallingBack => "Stump subscription unavailable, falling back to polling"
  | complained payload => "Stump subscription error: " ++ payload.display
  | completed => "Stump completed the subscription"
  | rejected payload => "Stump rejected the subscription: " ++ payload.display
  | unreadable frame => "Failed to handle subscription message: " ++ frame
  | listenerLate listener seconds hook events =>
    "Listener " ++ listener ++ " timed out after " ++ seconds ++ "s in " ++ hook ++ ": " ++ events
  | listenerFailed listener hook events => "Error notifying listener " ++ listener ++ " in " ++ hook ++ ": " ++ events
  | bookAdded e => "Book added: " ++ e.bookId ++ " (series " ++ e.seriesId ++ ", library " ++ e.libraryId ++ ")"
  | seriesRemoved library series => "Series removed: " ++ series ++ " (library " ++ library ++ ")"
  | scanRequested library => "Requested scan of Stump library " ++ library
  | seriesUpdated series => "Updated metadata of Stump series " ++ series
  | mediumUpdated medium => "Updated metadata of Stump media " ++ medium
  | seriesCovered series => "Uploaded cover for Stump series " ++ series
  | mediumCovered medium => "Uploaded cover for Stump media " ++ medium
  | connected url libraries => "Connected to Stump at " ++ url ++ " (" ++ toString libraries ++ " libraries)"
  | unreachable url reason => "Stump at " ++ url ++ " is not reachable yet: " ++ reason
  | graceExpired => "Event notifier did not stop in time"
  | terminated => "Received SIGTERM, shutting down..."

end Notice

end MediaWatch
