import OnAir.Runs
import OnAir.StreamConfigService

/-!
Calls of `apply` with idempotency keys, statement by statement.

A call looks for its key, reads the draft and the output, and inserts the row of the operation. The
key is unique in the table, so of the calls that have not found it one inserts the row and goes on;
the others raise. A call that finds the row returns it.
-/

namespace OnAir.ApplyCalls

open OnAir.Database Programs PythonText ReplicationJournal Runs StreamConfigService OnAir.Table

/-! ### Statements -/

/-- What a call does next, and what it has read. -/
inductive Stage
  | checkKey
  | findDraft
  | readOutput (c : StreamConfig)
  | readSettings (c : StreamConfig) (output : Option StationOutput)
  | insertOperation (c : StreamConfig) (previous : Previous)
  /-- the row that was there is returned -/
  | report (operationId : ℤ)
  | appendJournal (operationId : ℤ) (c : StreamConfig)
  | writeOutput (operationId : ℤ) (c : StreamConfig)
  | writeSettings (operationId : ℤ) (c : StreamConfig)
  /-- the output is read back, and then verified for up to a minute -/
  | readBack (operationId : ℤ) (c : StreamConfig)
  | markApplied (operationId : ℤ)
  | reportApplied (operationId : ℤ)
  | findPrevious (operationId : ℤ)
  | restoreOutput (operationId : ℤ) (op : Operation)
  | clearSettings (operationId : ℤ) (op : Operation)
  | restoreSettings (operationId : ℤ) (op : Operation)
  | rollBack (operationId : ℤ)
  deriving DecidableEq

/-- A call in flight, with its key after `strip`. -/
structure Call where
  draftId : ℤ
  key : String
  overrideReason : String
  stage : Stage
  deriving DecidableEq

/-- A call that has been made. -/
def Call.made (draftId : ℤ) (idempotencyKey overrideReason : String) : Call :=
  ⟨draftId, trim idempotencyKey, overrideReason, .checkKey⟩

inductive Outcome
  | goes (stage : Stage)
  | returns (operationId : ℤ) (op : Operation)
  | raises

/-- Where an exception leads: `apply` catches what is raised after the row was inserted. -/
def Stage.handler : Stage → Option Stage
  | .appendJournal o _ | .writeOutput o _ | .writeSettings o _ | .readBack o _ | .markApplied o
  | .reportApplied o => some (.findPrevious o)
  | _ => none

/-- The statement writes the row or the settings of a station. -/
def Stage.writes : Stage → Bool
  | .writeOutput .. | .writeSettings .. | .restoreOutput .. | .clearSettings ..
  | .restoreSettings .. => true
  | _ => false

/-- `operation`: the row of an operation, which is returned. -/
def reported (operationId : ℤ) (s : Service) : Outcome :=
  match s.operations[operationId]? with
  | none => .raises
  | some op => .returns operationId op

/-- The first row with a key. -/
def findKey (s : Service) (key : String) : Option (ℤ × Operation) :=
  (rows s.operations).find? fun r => r.2.idempotencyKey = key

/-- The next statement of a call: the tables afterwards, and how the call goes on. -/
def advance (sha256 : String → String) (call : Call) (s : Service) : Service × Outcome :=
  match call.stage with
  | .checkKey =>
    match findKey s call.key with
    | some r => (s, .goes (.report r.1))
    | none => (s, .goes .findDraft)
  | .findDraft =>
    match s.drafts[call.draftId]? with
    | none => (s, .raises)
    | some draft =>
      if draft.status ≠ .validated then (s, .raises)
      else if draft.outcome ≠ some .ready && trim call.overrideReason = "" then (s, .raises)
      else (s, .goes (.readOutput draft.config))
  | .readOutput c => (s, .goes (.readSettings c (output s c.stationId)))
  | .readSettings c output =>
    let previous : Previous := { snapshotOutput c.stationId s with output := output }
    (s, .goes (.insertOperation c previous))
  | .insertOperation c previous =>
    -- the key is unique, and the draft is a foreign key
    if (findKey s call.key).isSome || !s.drafts.contains call.draftId then (s, .raises)
    else
      let operationId := nextId s.operations
      let operation : Operation := ⟨call.draftId, c.stationId, call.key, .preparing, previous⟩
      ({ s with operations := s.operations.insert operationId operation },
        .goes (.appendJournal operationId c))
  | .report o => (s, reported o s)
  | .appendJournal o c =>
    ({ s with journal := (s.journal.append sha256 (entryOf call.draftId c)).1 },
      .goes (.writeOutput o c))
  | .writeOutput o c =>
    let password := resolveCredential s c.passwordReference
    (upsertOutput c.stationId (outputOf c password) s, .goes (.writeSettings o c))
  | .writeSettings o c =>
    (upsertSettings c.stationId (settingsOf c) s, .goes (.readBack o c))
  | .readBack o c =>
    if (output s c.stationId).any fun r =>
        r.icecastHost = c.icecastHost && r.icecastMount = c.icecastMount then
      (s, .goes (.markApplied o))
    else (s, .raises)
  | .markApplied o => (markApplied o call.draftId s, .goes (.reportApplied o))
  | .reportApplied o => (s, reported o s)
  | .findPrevious o =>
    match s.operations[o]? with
    | none => (s, .raises)
    | some op => (s, .goes (.restoreOutput o op))
  | .restoreOutput o op => (restoreOutput op s, .goes (.clearSettings o op))
  | .clearSettings o op => (clearSettings op.stationId s, .goes (.restoreSettings o op))
  | .restoreSettings o op =>
    (upsertSettings op.stationId op.previous.settings s, .goes (.rollBack o))
  | .rollBack o => (setStatus o .rolledBack s, .raises)

/-! ### Calls that run at the same time -/

/-- What calls have done. -/
inductive Note
  | recorded (call : ℤ) (key : String) (operationId : ℤ)
  | wrote (call : ℤ) (key : String)
  | returned (call : ℤ) (key : String) (operationId : ℤ) (op : Operation)
  deriving DecidableEq

/-- The database, the calls in flight by the order in which they began, and what has been done. -/
structure State where
  service : Service
  calls : Table Call
  nextCall : ℤ
  log : List Note

def State.start (s : Service) : State := ⟨s, ∅, 1, []⟩

inductive Event
  | call (draftId : ℤ) (idempotencyKey overrideReason : String)
  | turn (id : ℤ)
  /-- something raises where the call is -/
  | raises (id : ℤ)
  /-- others write what is not the table of the operations -/
  | others (s : Service)
  /-- `rollback` marks an operation -/
  | mark (operationId : ℤ) (status : OperationStatus)

/-- The call goes on, or is over. -/
def settle (id : ℤ) (call : Call) (calls : Table Call) : Outcome → Table Call
  | .goes stage => calls.insert id { call with stage }
  | .returns .. => calls.erase id
  | .raises =>
    match call.stage.handler with
    | some stage => calls.insert id { call with stage }
    | none => calls.erase id

/-- What a statement adds to the log. -/
def noted (id : ℤ) (call : Call) (outcome : Outcome) : List Note :=
  if call.stage.writes then [.wrote id call.key]
  else
    match outcome with
    | .goes (.appendJournal o _) => [.recorded id call.key o]
    | .returns o op => [.returned id call.key o op]
    | _ => []

/-- An event, where the call it belongs to is in flight. -/
def step (sha256 : String → String) (s : State) : Event → Option State
  | .call draftId idempotencyKey overrideReason =>
    let call := Call.made draftId idempotencyKey overrideReason
    if call.key = "" || 128 < call.key.length then some s
    else some { s with calls := s.calls.insert s.nextCall call, nextCall := s.nextCall + 1 }
  | .turn id => do
    let call ← s.calls[id]?
    let out := advance sha256 call s.service
    return { s with
      service := out.1
      calls := settle id call s.calls out.2
      log := noted id call out.2 ++ s.log }
  | .raises id => do
    let call ← s.calls[id]?
    return { s with calls := settle id call s.calls .raises }
  | .others service =>
    some { s with service := { service with operations := s.service.operations } }
  | .mark operationId status => some { s with service := setStatus operationId status s.service }

end OnAir.ApplyCalls
