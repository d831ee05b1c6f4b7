import Mathlib.Algebra.Order.Ring.Rat
import OnAir.Runs

/-!
`ManagedLibraryWatcher`: the folders of a library that are kept in step with it.

The one thread of the watcher goes through the profiles. For each it takes a fingerprint of the
folder, decides under the lock whether to synchronise, synchronises without the lock, and notes the
outcome under the lock again. A rescan may be requested at any moment.
-/

namespace OnAir.LibraryWatcher

open Runs

/-- `ManagedLibraryProfile.key`. -/
abbrev Key := ℤ × String

/-- `ManagedLibraryProfile`, as far as the watcher reads it. -/
structure Profile where
  stationId : ℤ
  trackType : String
  rescanIntervalSeconds : ℚ
  deriving DecidableEq, Repr

def Profile.key (p : Profile) : Key := (p.stationId, p.trackType)

inductive Status
  | watching
  | error
  | settling
  | failed
  | retryWait
  | syncing
  | queued
  deriving DecidableEq, Repr

/-- `_ProfileState`. -/
structure ProfileState where
  fingerprint : String
  stablePolls : ℕ
  syncedFingerprint : String
  status : Status
  lastScanAt : ℚ
  lastSyncAt : ℚ
  retryCount : ℕ
  nextRetryAt : ℚ
  error : String
  fileCount : ℕ
  deriving DecidableEq, Repr

def ProfileState.new : ProfileState := ⟨"", 0, "", .watching, 0, 0, 0, 0, "", 0⟩

/-- What the thread is about. -/
inductive Thread
  | idle
  /-- the profiles that are left of a poll -/
  | polling (now : ℚ) (rest : List Profile)
  /-- the folder of a profile is read -/
  | observing (now : ℚ) (profile : Profile) (rest : List Profile)
  /-- a profile is synchronised -/
  | syncing (now : ℚ) (profile : Profile) (fingerprint : String) (fileCount : ℕ)
      (rest : List Profile)
  deriving DecidableEq, Repr

structure Watcher where
  profiles : Key → Option Profile
  states : Key → Option ProfileState
  thread : Thread
  /-- a rescan was requested, and no synchronisation that began afterwards has succeeded -/
  pending : Key → Bool
  /-- no rescan was requested since the last synchronisation began -/
  fresh : Key → Bool

def start : Watcher := ⟨fun _ => none, fun _ => none, .idle, fun _ => false, fun _ => true⟩

/-- `{profile.key: profile for ..}`. -/
def byKey (profiles : List Profile) (key : Key) : Option Profile :=
  profiles.reverse.find? (·.key = key)

/-- The status of a profile in `snapshot`. -/
def shown (w : Watcher) (key : Key) : Option Status :=
  (w.profiles key).map fun _ => ((w.states key).getD .new).status

section Polls

variable (requiredStablePolls maxRetries : ℕ)

/-- What `poll_once` makes of a fingerprint: the state, and whether to synchronise. -/
def observed (profile : Profile) (now : ℚ) (fingerprint : String) (fileCount : ℕ)
    (state : ProfileState) : ProfileState × Bool :=
  let state := { state with lastScanAt := now, fileCount }
  if fingerprint ≠ state.fingerprint then
    ({ state with
      fingerprint
      stablePolls := 1
      retryCount := 0
      nextRetryAt := 0
      error := ""
      status := .settling }, false)
  else
    let state := { state with stablePolls := state.stablePolls + 1 }
    let periodicRescanDue := 0 < profile.rescanIntervalSeconds ∧ 0 < state.lastSyncAt ∧
      profile.rescanIntervalSeconds ≤ now - state.lastSyncAt
    if fingerprint = state.syncedFingerprint ∧ ¬ periodicRescanDue then
      ({ state with status := .watching }, false)
    else if state.stablePolls < requiredStablePolls then
      ({ state with status := .settling }, false)
    else if maxRetries < state.retryCount then ({ state with status := .failed }, false)
    else if now < state.nextRetryAt then ({ state with status := .retryWait }, false)
    else ({ state with status := .syncing }, true)

/-- The folder could not be read. -/
def unreadable (now : ℚ) (error : String) (state : ProfileState) : ProfileState :=
  { state with status := .error, lastScanAt := now, error, fileCount := 0 }

def syncFailed (now : ℚ) (error : String) (state : ProfileState) : ProfileState :=
  let retryCount := state.retryCount + 1
  { state with
    retryCount
    nextRetryAt := now + min 60 (2 ^ (retryCount - 1))
    status := if maxRetries < retryCount then .failed else .retryWait
    error }

def syncSucceeded (now : ℚ) (fingerprint : String) (fileCount : ℕ) (state : ProfileState) :
    ProfileState :=
  { state with
    syncedFingerprint := fingerprint
    lastSyncAt := now
    retryCount := 0
    nextRetryAt := 0
    status := .watching
    error := ""
    fileCount }

/-- What `request_rescan` makes of a state. -/
def rescanned (state : ProfileState) : ProfileState :=
  { state with
    syncedFingerprint := ""
    stablePolls := requiredStablePolls
    retryCount := 0
    nextRetryAt := 0
    status := .queued }

/-- `str(track_type or "").strip().lower()` is given; an empty one selects every type. -/
def selected (stationId : Option ℤ) (trackType : String) (p : Profile) : Bool :=
  stationId.all (p.stationId = ·) && (trackType = "" || p.trackType = trackType)

def setState (key : Key) (f : ProfileState → ProfileState) (w : Watcher) : Watcher :=
  { w with
    states := Function.update w.states key (some (f ((w.states key).getD .new))) }

inductive Event
  /-- a poll begins, with what the provider answers, sorted -/
  | poll (now : ℚ) (profiles : List Profile)
  /-- the next profile of the poll -/
  | nextProfile
  /-- the fingerprint of the folder and the number of its files, or what is raised -/
  | observed (r : Except String (String × ℕ))
  | syncEnds (r : Except String Unit)
  | requestRescan (stationId : Option ℤ) (trackType : String)
  deriving DecidableEq, Repr

/-- The digest of a folder is not empty. -/
def step (w : Watcher) : Event → Option Watcher
  | .poll now profiles =>
    match w.thread with
    | .idle => some { w with
        profiles := byKey profiles
        states := fun key => if key ∈ profiles.map (·.key) then w.states key else none
        thread := .polling now profiles }
    | _ => none
  | .nextProfile =>
    match w.thread with
    | .polling _ [] => some { w with thread := .idle }
    | .polling now (profile :: rest) =>
      some { setState profile.key id w with thread := .observing now profile rest }
    | _ => none
  | .observed r =>
    match w.thread, r with
    | .observing now profile rest, .error error =>
      some { setState profile.key (unreadable now error) w with thread := .polling now rest }
    | .observing now profile rest, .ok (fingerprint, fileCount) =>
      if fingerprint = "" then none
      else
        let decision := LibraryWatcher.observed requiredStablePolls maxRetries profile now
          fingerprint fileCount
        let w' := setState profile.key (fun state => (decision state).1) w
        if (decision ((w.states profile.key).getD .new)).2 then
          some { w' with
            thread := .syncing now profile fingerprint fileCount rest
            fresh := Function.update w.fresh profile.key true }
        else some { w' with thread := .polling now rest }
    | _, _ => none
  | .syncEnds r =>
    match w.thread, r with
    | .syncing now profile _ _ rest, .error error =>
      some { setState profile.key (syncFailed maxRetries now error) w with
        thread := .polling now rest }
    | .syncing now profile fingerprint fileCount rest, .ok () =>
      some { setState profile.key (syncSucceeded now fingerprint fileCount) w with
        thread := .polling now rest
        pending := Function.update w.pending profile.key
          (w.pending profile.key && !w.fresh profile.key) }
    | _, _ => none
  | .requestRescan stationId trackType =>
    let isSelected (key : Key) : Bool := (w.profiles key).any (selected stationId trackType)
    some { w with
      states := fun key =>
        if isSelected key then some (rescanned requiredStablePolls ((w.states key).getD .new))
        else w.states key
      pending := fun key => isSelected key || w.pending key
      fresh := fun key => !isSelected key && w.fresh key }

end Polls

end OnAir.LibraryWatcher
