import OnAir.LegacyImport

/-!
The song that is shown on the Icecast outputs of a station.

A start of a track gives the pushes a new generation, stores its configuration and wakes the worker
of the station. The worker pushes the song of the configuration to one output after the other, and
stops where the generation has moved on. One marker for all outputs says which song was delivered;
it is set when all of them have taken the song, and asked before a push.

What an output answers, when a wait ends, and whether the station runs or the back-off is over, is
given with the event.
-/

namespace OnAir.NowPlaying

open PythonText
open LegacyImport (orDefault)

/-! ### The song and the requests -/

/-- An entry of `extra_icecast_outputs`. -/
structure Output where
  enabled : Bool
  icecastHost : String
  icecastPort : ℤ
  icecastMount : String
  icecastUser : String
  icecastPassword : String
  icecastTlsEnabled : Bool
  deriving DecidableEq, Repr

/-- What the pushes read of a `StationPipelineConfig`. -/
structure Config where
  icecastEnabled : Bool
  streamTitle : String
  streamArtist : String
  icecastHost : String
  icecastPort : ℤ
  icecastMount : String
  icecastUser : String
  icecastPassword : String
  icecastTlsEnabled : Bool
  extraIcecastOutputs : List Output
  deriving DecidableEq, Repr

def mojibakeMarkers : List Char := ['Ã', 'Â', 'â', '\ufffd']

/-- `raw.encode("latin-1").decode("utf-8")`. -/
def redecode (raw : String) : Option String :=
  if raw.toList.all fun c => c.toNat < 256 then
    String.fromUTF8? ⟨(raw.toList.map fun c => c.toNat.toUInt8).toArray⟩
  else none

/-- `_repair_mojibake_text`. -/
def repairMojibakeText (value : String) : String :=
  let raw := trim value
  if !raw.toList.any (· ∈ mojibakeMarkers) then raw
  else
    match (redecode raw).map trim with
    | none => raw
    | some repaired =>
      if repaired ≠ "" && !repaired.toList.any (· ∈ mojibakeMarkers) then repaired else raw

/-- `_compose_now_playing`. -/
def composeNowPlaying (title artist : String) : String :=
  let cleanTitle := repairMojibakeText (trim title)
  let cleanArtist := repairMojibakeText (trim artist)
  if cleanTitle ≠ "" && cleanArtist ≠ "" then s!"{cleanArtist} - {cleanTitle}"
  else orDefault cleanArtist cleanTitle

/-- `s.rstrip("/")`. -/
def stripSlashes (s : String) : String := String.ofList (s.toList.rdropWhile (· = '/'))

/-- `_metadata_base_url`. -/
def metadataBaseUrl (host : String) (port : ℤ) (tlsEnabled : Bool) : String :=
  let cleanHost := stripSlashes (trim host)
  if "://".toList <:+: cleanHost.toList then cleanHost
  else
    let scheme := if tlsEnabled then "https" else "http"
    s!"{scheme}://{cleanHost}:{port}"

/-- The mount on a server that a request is for. -/
structure Target where
  baseUrl : String
  mount : String
  deriving DecidableEq, Repr

/-- A request of `/admin/metadata`, but for the song. -/
structure Request where
  target : Target
  user : String
  password : String
  deriving DecidableEq, Repr

namespace Config

variable (c : Config)

def song : String := composeNowPlaying c.streamTitle c.streamArtist

/-- The first output, and the others that are enabled. -/
def outputs : List Output :=
  ⟨true, c.icecastHost, c.icecastPort, c.icecastMount, c.icecastUser, c.icecastPassword,
    c.icecastTlsEnabled⟩ :: c.extraIcecastOutputs.filter (·.enabled)

/-- The request for an output; one without a host is passed over. -/
def requestOf (o : Output) : Option Request :=
  let host := trim (orDefault c.icecastHost o.icecastHost)
  if host = "" then none
  else
    let mount := orDefault "/stream" (trim (orDefault c.icecastMount o.icecastMount))
    some {
      target := {
        baseUrl := stripSlashes (metadataBaseUrl host o.icecastPort o.icecastTlsEnabled)
        mount := if mount.toList.head? = some '/' then mount else "/" ++ mount }
      user := trim (orDefault c.icecastUser o.icecastUser)
      password := o.icecastPassword }

def requests : List Request := c.outputs.filterMap c.requestOf

/-- The outputs that the song is pushed to. -/
def targets : List Target := c.requests.map (·.target)

end Config

/-! ### The station -/

/-- A push of a configuration. -/
structure Push where
  requireRunning : Bool
  /-- the delays of the tries that are left -/
  delays : List ℚ
  config : Config
  generation : ℕ
  deriving DecidableEq

/-- Where the worker of the station is. -/
inductive Worker
  /-- it was not started -/
  | absent
  /-- it waits for its event -/
  | waiting
  /-- the wait is over; the event is cleared next -/
  | clearing (triggered : Bool)
  /-- the delay of the next try comes next -/
  | delaying (requireRunning : Bool) (delays : List ℚ)
  /-- the configuration is read next -/
  | reading (requireRunning : Bool) (delays : List ℚ)
  /-- it was read; the marker is asked next -/
  | found (requireRunning : Bool) (delays : List ℚ) (config : Config)
  /-- the marker is another song; the generation is read next -/
  | missing (requireRunning : Bool) (delays : List ℚ) (config : Config)
  /-- `_push_metadata_now` begins -/
  | starting (push : Push)
  /-- requests that are left; whether the first one was opened, after how many that failed, and
  whether all outputs before it have taken the song -/
  | sending (push : Push) (left : List Request) (attempt : ℕ) (opened allSent : Bool)
  /-- `_send_icecast_metadata` has returned -/
  | sent (push : Push) (ok : Bool)
  /-- the generation was the current one after it -/
  | current (push : Push) (ok : Bool)
  /-- it was not; the marker is dropped next -/
  | outdated (push : Push)
  /-- the latest configuration is scheduled next -/
  | rescheduling (push : Push)
  /-- `_push_metadata_now` has returned `False` -/
  | failed (push : Push)
  deriving DecidableEq

/-- A call of `start_station`; the calls of one station come one after the other. -/
inductive StartPhase
  | idle
  /-- the generation is the next one; the runtime is started next -/
  | bumped (config : Config)
  /-- the configuration is stored -/
  | stored (config : Config)

structure Station where
  /-- `_metadata_generations[sid]` -/
  generation : ℕ
  /-- `_last_metadata_cfg.get(sid)` -/
  lastConfig : Option Config
  /-- `_metadata_sent.get(sid)` -/
  marker : Option String
  /-- the event of the worker -/
  event : Bool
  worker : Worker
  start : StartPhase
  /-- the last song that an output has accepted -/
  shown : Target → Option String

def idleStation : Station := ⟨0, none, none, false, .absent, .idle, fun _ => none⟩

def retryDelays : List ℚ := [0, 3 / 10, 6 / 10, 12 / 10, 25 / 10]

/-- What the worker is told by what it asks. -/
inductive Answer
  | go
  /-- `event.wait` returns this -/
  | waited (triggered : Bool)
  /-- the back-off is over -/
  | retryReady (ready : Bool)
  /-- the station has a runtime that is running -/
  | running (running : Bool)
  /-- the output has accepted the song or not, and the request has raised or not -/
  | response (accepted raised : Bool)
  deriving DecidableEq, Repr

inductive Event
  | startBegins (config : Config)
  /-- `runtime.start` raises -/
  | startRaises
  | startStores
  | startSchedules
  | worker (answer : Answer)
  deriving DecidableEq, Repr

section Steps

variable (disabled : Bool)

/-- `_schedule_icecast_metadata_update`. -/
def schedule (c : Config) (s : Station) : Station :=
  if c.icecastEnabled && c.song ≠ "" then
    { s with
      event := true
      worker := match s.worker with
        | .absent => .waiting
        | worker => worker }
  else s

/-- One step of the worker. -/
def workerStep (s : Station) (a : Answer) : Option Station :=
  let go := fun worker => some { s with worker }
  match s.worker, a with
  | .waiting, .waited triggered =>
    if triggered && !s.event then none else go (.clearing triggered)
  | .clearing triggered, .retryReady ready =>
    some { s with
      event := false
      worker := if triggered || ready then .delaying (!triggered) retryDelays else .waiting }
  | .delaying _ [], .go => go .waiting
  | .delaying require (delay :: delays), .waited triggered =>
    if triggered then
      if delay ≤ 0 || !s.event then none
      else some { s with event := false, worker := .delaying require retryDelays }
    else go (.reading require delays)
  | .reading require delays, .running running =>
    match s.lastConfig with
    | none => go .waiting
    | some c =>
      if !c.icecastEnabled || (require && !running) || c.song = "" then go .waiting
      else go (.found require delays c)
  | .found require delays c, .go =>
    if s.marker = some c.song then go .waiting else go (.missing require delays c)
  | .missing require delays c, .go => go (.starting ⟨require, delays, c, s.generation⟩)
  | .starting push, .go =>
    if push.generation ≠ s.generation then go (.failed push)
    else if disabled || push.config.requests = [] then go (.sent push false)
    else go (.sending push push.config.requests 0 false true)
  | .sending push [] _ _ allSent, .go => go (.sent push allSent)
  | .sending push left attempt false allSent, .go =>
    if push.generation ≠ s.generation then go (.sent push false)
    else go (.sending push left attempt true allSent)
  | .sending push (request :: left) attempt true allSent, .response accepted raised =>
    let s := if accepted then
      { s with shown := Function.update s.shown request.target (some push.config.song) } else s
    if !raised then
      if accepted then some { s with worker := .sending push left 0 false allSent } else none
    else if attempt < 3 then
      some { s with worker := .sending push (request :: left) (attempt + 1) false allSent }
    else some { s with worker := .sending push left 0 false false }
  | .sent push ok, .go =>
    if push.generation ≠ s.generation then go (.outdated push) else go (.current push ok)
  | .current push true, .go =>
    some { s with marker := some push.config.song, worker := .waiting }
  | .current push false, .go => go (.failed push)
  | .outdated push, .go => some { s with marker := none, worker := .rescheduling push }
  | .rescheduling push, .go =>
    let s := { s with worker := .failed push }
    some (s.lastConfig.elim s fun c => schedule c s)
  | .failed push, .go =>
    if push.generation ≠ s.generation then go (.delaying push.requireRunning retryDelays)
    else go (.delaying push.requireRunning push.delays)
  | _, _ => none

/-- One step of the station. -/
def step (s : Station) : Event → Option Station
  | .startBegins c =>
    match s.start with
    | .idle => some { s with generation := s.generation + 1, start := .bumped c }
    | _ => none
  | .startRaises =>
    match s.start with
    | .bumped _ => some { s with start := .idle }
    | _ => none
  | .startStores =>
    match s.start with
    | .bumped c =>
      some { s with lastConfig := if c.icecastEnabled then some c else none, start := .stored c }
    | _ => none
  | .startSchedules =>
    match s.start with
    | .stored c => some { schedule c s with start := .idle }
    | _ => none
  | .worker a => workerStep disabled s a

end Steps

end OnAir.NowPlaying
