import OnAir.PythonText
import OnAir.ThreadPool

/-!
The vault of credentials: one file with an encrypted entry for each reference, read and written
as a whole by every call.

The lock is one of the vault object, and each call has an object of its own. All of them write
the same temporary file, and put it in the place of the store. The history records what is put
there.
-/

namespace OnAir.CredentialVault

open PythonText Resumption ThreadPool

/-! ### The store -/

inductive Scope
  | user
  | machine
  deriving DecidableEq, Repr

def Scope.text : Scope → String
  | .user => "user"
  | .machine => "machine"

structure Payload where
  scope : String
  credentials : List (String × String)
  deriving DecidableEq, Repr

/-- What is read where there is no store. -/
def Payload.empty : Payload := ⟨"", []⟩

/-- The text of a file: just truncated, that of a payload, or not one that can be read. -/
inductive Content
  | empty
  | whole (p : Payload)
  | torn
  deriving DecidableEq, Repr

def Payload.get (p : Payload) (reference : String) : Option String :=
  p.credentials.lookup reference

def Payload.set (p : Payload) (reference encoded : String) : Payload :=
  { p with
    credentials := (reference, encoded) :: p.credentials.filter (·.1 ≠ reference) }

def Payload.pop (p : Payload) (reference : String) : Payload :=
  { p with
    credentials := p.credentials.filter (·.1 ≠ reference) }

def Payload.withScope (p : Payload) (scope : Scope) : Payload := { p with scope := scope.text }

inductive Raised
  /-- `CredentialVaultError` -/
  | vault (message : String)
  | os
  | value
  deriving DecidableEq, Repr

structure Setup where
  path : String
  /-- An entry is decoded and decrypted. -/
  unprotect : String → Except Raised String

/-! ### Operations -/

abbrev Answer := Except Raised

/-- What a call does with the surroundings. -/
inductive Op : Type → Type
  /-- a text is encrypted and encoded -/
  | protect (plain : String) : Op (Answer String)
  | read : Op (Answer Payload)
  | mkdir : Op (Answer Unit)
  /-- the temporary file is created, or truncated -/
  | openTemporary : Op (Answer ℕ)
  | writeTemporary (h : ℕ) (p : Payload) : Op (Answer Unit)
  /-- the temporary file takes the place of the store; the caller sets or deletes a reference, or
  none -/
  | replace (reference : Option String) : Op (Answer Unit)
  | unlink : Op Unit

abbrev Program := Prog Op Raised

def execute {α : Type} (o : Op (Answer α)) : Program α := do
  match ← perform o with
  | .ok a => pure a
  | .error e => .raise e

section Programs

variable (setup : Setup)

def updateFailed : Program Unit := do
  perform .unlink
  .raise (.vault ("Credential store could not be updated: " ++ setup.path))

/-- `_write`. -/
def write (reference : Option String) (p : Payload) : Program Unit := do
  execute .mkdir
  Prog.tryCatch (do
    let h ← execute .openTemporary
    execute (.writeTemporary h p)
    execute (.replace reference)) fun _ => updateFailed setup
  perform .unlink

/-- `is_credential_reference`. -/
def isCredentialReference (value : String) : Bool :=
  "credential://user/".toList.isPrefixOf value.toList

/-- `set_secret`. -/
def setSecret (scope : Scope) (reference secret : String) : Program Unit :=
  let normalized := trim reference
  if !isCredentialReference normalized then .raise (.vault "Invalid credential reference")
  else if secret = "" then .raise (.vault "Refusing to store an empty credential")
  else do
    let encoded ← execute (.protect secret)
    let payload ← execute .read
    write setup (some normalized) ((payload.set normalized encoded).withScope scope)

/-- `delete_secret`. -/
def deleteSecret (reference : String) : Program Unit := do
  let normalized := trim reference
  let payload ← execute .read
  if (payload.get normalized).isSome then write setup (some normalized) (payload.pop normalized)
  else return ()

/-- An error of an entry is one of the vault. -/
def entryFailed {α : Type} (message reference : String) : Raised → Program α
  | .vault m => .raise (.vault m)
  | .os | .value => .raise (.vault (message ++ reference))

/-- The entries of a store, encrypted anew. -/
def rewrapEntries : List (String × String) → Program (List (String × String))
  | [] => return []
  | (reference, encoded) :: entries => do
    let sealed ← Prog.tryCatch (do
      match setup.unprotect encoded with
      | .ok plain => execute (.protect plain)
      | .error e => .raise e) (entryFailed "Credential could not be rewrapped: " reference)
    return (reference, sealed) :: (← rewrapEntries entries)

/-- `_rewrap_payload`. -/
def rewrapPayload (scope : Scope) (payload : Payload) : Program ℕ := do
  let rewrapped ← rewrapEntries setup payload.credentials
  write setup none ⟨scope.text, rewrapped⟩
  return rewrapped.length

/-- `rewrap_for_configured_scope`. -/
def rewrapForConfiguredScope (scope : Scope) : Program ℕ := do
  let payload ← execute .read
  rewrapPayload setup scope payload

/-- `get_secret`. -/
def getSecret (scope : Scope) (reference : String) : Program String :=
  let normalized := trim reference
  if !isCredentialReference normalized then return ""
  else do
    let payload ← execute .read
    match payload.get normalized with
    | none => return ""
    | some encoded =>
      if encoded = "" then return ""
      else Prog.tryCatch (do
        match setup.unprotect encoded with
        | .ok result =>
          if payload.scope ≠ scope.text then
            let _ ← rewrapPayload setup scope payload
            return result
          else return result
        | .error e => .raise e) (entryFailed "Credential could not be decrypted: " normalized)

end Programs

/-! ### Threads -/

/-- The calls, each on a vault of its own, with the scope that is configured for it. -/
inductive Call
  | setSecret (scope : Scope) (reference secret : String)
  | deleteSecret (reference : String)
  | getSecret (scope : Scope) (reference : String)
  | rewrap (scope : Scope)
  deriving DecidableEq, Repr

/-- The reference that a call sets or deletes. -/
def Call.reference : Call → Option String
  | .setSecret _ reference _ | .deleteSecret reference => some (trim reference)
  | .getSecret _ _ | .rewrap _ => none

inductive Outcome
  | done
  | secret (text : String)
  | rewrapped (n : ℕ)
  deriving DecidableEq, Repr

def Call.program (setup : Setup) : Call → Program Outcome
  | .setSecret scope reference secret => do
    CredentialVault.setSecret setup scope reference secret
    return .done
  | .deleteSecret reference => do
    CredentialVault.deleteSecret setup reference
    return .done
  | .getSecret scope reference => do
    return .secret (← CredentialVault.getSecret setup scope reference)
  | .rewrap scope => do return .rewrapped (← rewrapForConfiguredScope setup scope)

/-- The store has been replaced by a thread that sets or deletes a reference, or none. -/
structure Replaced where
  thread : ℕ
  reference : Option String
  content : Content
  deriving DecidableEq, Repr

/-- Files are numbered. Beside them the state remembers the store that was there first, what has
taken its place, newest first, at which length of this history a thread has read, which threads
are writing, and their calls. -/
structure State where
  contents : List Content
  store : Option ℕ
  temporary : Option ℕ
  first : Option Content
  history : List Replaced
  readAt : ℕ → ℕ
  writers : List ℕ
  calls : ℕ → Option Call

def State.start (first : Option Content) : State :=
  ⟨first.toList, first.map fun _ => 0, none, first, [], fun _ => 0, [], fun _ => none⟩

/-- What is in the store. -/
def State.stored (s : State) : Option Content := s.store.bind (s.contents[·]?)

/-- What the surroundings answer: an operation raises, a text is encrypted, a text is written in
part or over all of another one. -/
structure World where
  raises : Option Raised
  sealed : String
  cut : Bool
  covers : Bool
  deriving DecidableEq, Repr

section Operations

variable (setup : Setup)

/-- What is read from a store. -/
def readFrom : Option Content → Answer Payload
  | none => .ok .empty
  | some (.whole p) => .ok p
  | some .empty | some .torn =>
    .error (.vault ("Credential store could not be read: " ++ setup.path))

def State.reads (i : ℕ) (s : State) : State :=
  { s with readAt := Function.update s.readAt i s.history.length }

def State.opens (i : ℕ) (s : State) : ℕ × State :=
  match s.temporary with
  | some h => (h, { s with
      contents := s.contents.set h .empty
      writers := i :: s.writers })
  | none => (s.contents.length, { s with
      contents := s.contents ++ [.empty]
      temporary := some s.contents.length
      writers := i :: s.writers })

/-- A text that is written over another one replaces it, or is spoiled by what remains. -/
def State.writes (w : World) (h : ℕ) (p : Payload) (s : State) : State :=
  { s with
    contents := s.contents.set h
      (if w.cut then .torn
      else if s.contents[h]? = some .empty || w.covers then .whole p else .torn) }

def State.replaces (i : ℕ) (reference : Option String) (s : State) : Answer Unit × State :=
  match s.temporary with
  | none => (.error .os, s)
  | some h => (.ok (), { s with
      store := some h
      temporary := none
      history := ⟨i, reference, (s.contents[h]?).getD .torn⟩ :: s.history })

/-- A file that is not removed stays. -/
def State.unlinks (i : ℕ) (w : World) (s : State) : State :=
  { s with
    temporary := if w.raises.isSome then s.temporary else none
    writers := s.writers.filter (· ≠ i) }

/-- An operation raises, or is executed. -/
def attempt {β : Type} (w : World) (s : State) (answer : Answer β × State) : Answer β × State :=
  match w.raises with
  | some e => (.error e, s)
  | none => answer

/-- The operations; what has been encrypted is decrypted again. -/
def run {β : Type} (i : ℕ) (o : Op β) (w : World) (s : State) : Option (β × State) :=
  match o with
  | .protect plain =>
    if w.raises.isSome || (setup.unprotect w.sealed).toOption = some plain then
      some (attempt w s (.ok w.sealed, s))
    else none
  | .read => some (attempt w s (readFrom setup s.stored, s.reads i))
  | .mkdir => some (attempt w s (.ok (), s))
  | .openTemporary => some (attempt w s (.ok (s.opens i).1, (s.opens i).2))
  | .writeTemporary h p =>
    some (attempt w s (if w.cut then .error .os else .ok (), s.writes w h p))
  | .replace reference => some (attempt w s (s.replaces i reference))
  | .unlink => some ((), s.unlinks i w)

def begins (i : ℕ) (c : Call) (s : State) : Option State :=
  some { s with calls := Function.update s.calls i (some c) }

def system : System Op Raised Outcome Call World Empty State where
  program _ c := c.program setup
  begins := begins
  run i := run setup i
  surroundings e _ := nomatch e

/-- Calls on a store that is there first, or on none. -/
abbrev step := ThreadPool.step (system setup)

abbrev initial (first : Option Content) : Pool Op Raised Outcome Call State :=
  .empty (.start first)

end Operations

end OnAir.CredentialVault
