import OnAir.PythonText
import OnAir.Runs

/-!
The requests of the backend to be started again, and the supervisor that consumes them.

A request is a file that the backend puts in place as a whole. The supervisor reads the file and
then, unless the request is not due, removes it: what it removes is what is there then. The
fields of a file may be of any JSON type, and are converted one after the other.

Requests are numbered in the order they are written, and the state remembers what has become of them.
-/

namespace OnAir.ReloadRequests

open PythonText Runs

/-! ### The file -/

/-- A JSON value; of a list or an object, its text and whether it is empty. -/
inductive Value
  | null
  | bool (b : Bool)
  | int (n : ℤ)
  | float (x : PythonText.Float) (text : String)
  | str (s : String)
  | other (text : String) (empty : Bool)
  deriving DecidableEq, Repr

/-- `bool(value)`. -/
def Value.truthy : Value → Bool
  | .null => false
  | .bool b => b
  | .int n => n ≠ 0
  | .float x _ => x ≠ .num 0
  | .str s => s ≠ ""
  | .other _ empty => !empty

/-- `int(value or 0)`; `none` where it raises. -/
def Value.toInt (v : Value) : Option ℤ :=
  if !v.truthy then some 0
  else
    match v with
    | .bool _ => some 1
    | .int n => some n
    | .float (.num q) _ => some (q.num.tdiv q.den)
    | .str s => intOf s
    | _ => none

/-- `float(value or 0.0)`; `none` where it raises. -/
def Value.toFloat (v : Value) : Option PythonText.Float :=
  if !v.truthy then some (.num 0)
  else
    match v with
    | .bool _ => some (.num 1)
    | .int n => if |n| < maxFloat then some (.num n) else none
    | .float x _ => some x
    | .str s => floatOf s
    | _ => none

/-- `str(value or "")`. -/
def Value.toText (v : Value) : String :=
  if !v.truthy then ""
  else
    match v with
    | .bool _ => "True"
    | .int n => toString n
    | .float _ text | .other text _ => text
    | .str s => s
    | .null => ""

/-- What `_read_json` makes of a file: an object, or something else. -/
inductive Content
  | object (fields : List (String × Value))
  | unread
  deriving DecidableEq, Repr

def get (fields : List (String × Value)) (name : String) : Value :=
  (fields.lookup name).getD .null

/-- `current - created <= REQUEST_MAX_AGE_SECONDS`. -/
def fresh (current : ℚ) : PythonText.Float → Bool
  | .num created => current - created ≤ 120
  | .inf negative => !negative
  | .nan => false

/-- `current < not_before`. -/
def early (current : ℚ) : PythonText.Float → Bool
  | .num notBefore => current < notBefore
  | .inf negative => !negative
  | .nan => false

/-- What `consume_due_reload_request` makes of a file. -/
inductive Verdict
  | raises
  /-- no object was read, or an empty one; the file stays -/
  | ignored
  /-- the request is valid and not due; the file stays -/
  | early
  /-- the file is removed, and its request is returned or not -/
  | removed (returned : Bool)
  deriving DecidableEq, Repr

/-- `consume_due_reload_request`, up to the removal. -/
def consume (token : String) (current : ℚ) : Content → Verdict
  | .unread | .object [] => .ignored
  | .object fields =>
    match (get fields "protocol").toInt with
    | none => .raises
    | some protocol =>
      if protocol ≠ 1 || (get fields "supervisor_token").toText ≠ token ||
          (get fields "request_id").toText = "" then .removed false
      else
        match (get fields "created_epoch").toFloat with
        | none => .raises
        | some created =>
          if !fresh current created then .removed false
          else
            match (get fields "not_before_epoch").toFloat with
            | none => .raises
            | some notBefore => if early current notBefore then .early else .removed true

/-- The payload of `write_reload_request`. -/
structure Request where
  requestId : String
  backendInstanceId : String
  created : ℚ
  notBeforeSeconds : ℚ
  deriving DecidableEq, Repr

/-- A float that a request holds, with its text. -/
def number (q : ℚ) : Value := .float (.num q) (toString q)

def Request.content (token : String) (r : Request) : Content :=
  .object [("protocol", .int 1), ("supervisor_token", .str token), ("request_id", .str r.requestId),
    ("backend_instance_id", .str r.backendInstanceId), ("created_epoch", number r.created),
    ("not_before_epoch", number (r.created + max 0 r.notBeforeSeconds))]

/-! ### The supervisor and the backend -/

/-- What has become of a request. -/
inductive Fate
  | returned
  /-- another file was put in its place -/
  | replaced
  | expired
  /-- it was removed without being returned or expired -/
  | lost
  deriving DecidableEq, Repr

/-- The file, with the number and the time of the request in it. -/
structure File where
  content : Content
  request : Option (ℕ × ℚ)
  deriving DecidableEq, Repr

structure State where
  file : Option File
  /-- a call of `consume_due_reload_request` that is about to remove the file: when it has read
  it, and what it returns -/
  removing : Option (ℚ × Option ℕ)
  written : ℕ
  fates : List (ℕ × Fate)
  raised : Bool
  /-- a file was left that holds no valid request -/
  litter : Bool
  deriving DecidableEq, Repr

def initial : State := ⟨none, none, 0, [], false, false⟩

inductive Event
  | write (r : Request)
  /-- any other content is put in place -/
  | put (content : Content)
  /-- the supervisor reads the file -/
  | read (current : ℚ)
  | remove
  deriving DecidableEq, Repr

/-- The request in a file meets its fate. -/
def State.meet (s : State) (fate : ℕ × ℚ → Fate) : List (ℕ × Fate) :=
  ((s.file.bind (·.request)).map fun r => (r.1, fate r)).toList ++ s.fates

section Steps

variable (token : String)

def step (s : State) : Event → Option State
  | .write r => some { s with
      file := some ⟨r.content token, some (s.written, r.created)⟩
      written := s.written + 1
      fates := s.meet fun _ => .replaced }
  | .put content => some { s with
      file := some ⟨content, none⟩
      fates := s.meet fun _ => .replaced }
  | .read current =>
    match s.removing, s.file with
    | some _, _ => none
    | none, none => some s
    | none, some file =>
      match consume token current file.content with
      | .raises => some { s with raised := true }
      | .ignored => some { s with litter := true }
      | .early => some s
      | .removed returned => some { s with
          removing := some (current, if returned then file.request.map (·.1) else none) }
  | .remove =>
    s.removing.map fun (current, returned) => { s with
      file := none
      removing := none
      fates := s.meet fun r =>
        if returned = some r.1 then .returned
        else if 120 < current - r.2 then .expired else .lost }

end Steps

/-! ### Every request is handled once -/

/-- The number of the request in the file. -/
def State.pending (s : State) : List ℕ := ((s.file.bind (·.request)).map (·.1)).toList

/-- No call has raised or left a file without a request that is not due; every request that was
written waits in the file, was returned or replaced, or has expired, and only one of these. -/
structure Handled (s : State) : Prop where
  quiet : s.raised = false ∧ s.litter = false
  kept : ∀ f ∈ s.fates, f.2 ≠ .lost
  once : (s.pending ++ s.fates.map (·.1)).Nodup
  all : ∀ n, n ∈ s.pending ++ s.fates.map (·.1) ↔ n < s.written

/-- The fields that are looked at can be converted. -/
def Converts (token : String) (current : ℚ) (fields : List (String × Value)) : Prop :=
  ∃ protocol ∈ (get fields "protocol").toInt, protocol = 1 →
    (get fields "supervisor_token").toText = token → (get fields "request_id").toText ≠ "" →
      ∃ created ∈ (get fields "created_epoch").toFloat, fresh current created = true →
        ((get fields "not_before_epoch").toFloat).isSome

/-- An object that is not empty, with fields that can be converted. -/
def Content.Readable (token : String) (current : ℚ) : Content → Prop
  | .object fields => fields ≠ [] ∧ Converts token current fields
  | .unread => False

/-- A request has an id, no file is put in place between the reading and the removal of a call, and
a file that is read is readable. -/
def Sound (token : String) (s : State) : Event → Prop
  | .write r => s.removing = none ∧ r.requestId ≠ ""
  | .put _ => s.removing = none
  | .read current => ∀ f ∈ s.file, f.content.Readable token current
  | .remove => True

variable {token : String} {current : ℚ} {s t : State} {fields : List (String × Value)}

lemma toFloat_number (q : ℚ) : (number q).toFloat = some (.num q) := by
  by_cases hq : q = 0 <;> simp [number, Value.toFloat, Value.truthy, hq]

/-- What becomes of a request that is read. -/
lemma consume_content {r : Request} (hid : r.requestId ≠ "") :
    consume token current (r.content token) =
      if 120 < current - r.created then .removed false
      else if current < r.created + max 0 r.notBeforeSeconds then .early else .removed true := by
  simp [consume, Request.content, get, List.lookup_cons, toFloat_number, fresh, early,
    Value.toInt, Value.toText, Value.truthy, hid, lt_sub_iff_add_lt]

/-- A call does not raise exactly where the fields can be converted. -/
lemma converts_iff (hne : fields ≠ []) :
    Converts token current fields ↔ consume token current (.object fields) ≠ .raises := by
  unfold Converts consume
  split
  case h_1 => simp_all
  case h_2 => simp_all
  case h_3 heq =>
    obtain rfl := Content.object.inj heq
    cases (get fields "protocol").toInt with
    | none => simp
    | some protocol =>
      dsimp only
      split_ifs with hfits
      · simp_all
        tauto
      · cases (get fields "created_epoch").toFloat with
        | none => simp_all
        | some created =>
          cases hfresh : fresh current created <;>
            cases (get fields "not_before_epoch").toFloat <;> simp_all
          split_ifs <;> simp

lemma consume_ne_ignored (hne : fields ≠ []) :
    consume token current (.object fields) ≠ .ignored := by
  unfold consume
  split
  case h_1 heq => cases heq
  case h_2 heq => exact absurd (Content.object.inj heq) hne
  case h_3 =>
    repeat' split
    all_goals nofun

/-- What is remembered of the file, and of a call that is about to remove it. -/
structure Invariant (token : String) (s : State) : Prop extends Handled s where
  request : ∀ f ∈ s.file, ∀ q ∈ f.request, ∃ r : Request,
    f.content = r.content token ∧ r.requestId ≠ "" ∧ q.2 = r.created
  removes : ∀ c ∈ s.removing, ∃ f ∈ s.file, ∃ returned : Bool,
    consume token c.1 f.content = .removed returned ∧
      c.2 = if returned then f.request.map (·.1) else none

namespace Invariant

lemma initial : Invariant token initial :=
  ⟨⟨⟨rfl, rfl⟩, nofun, List.nodup_nil, fun n => by simp [ReloadRequests.initial, State.pending]⟩,
    nofun, nofun⟩

/-- The request of the file meets its fate, and another file is there. -/
lemma meets (h : Invariant token s) {fate : ℕ × ℚ → Fate} {file : Option File} {written : ℕ}
    (hfate : ∀ f ∈ s.file, ∀ q ∈ f.request, fate q ≠ .lost)
    (hfile : ∀ f ∈ file, ∀ q ∈ f.request, ∃ r : Request,
      f.content = r.content token ∧ r.requestId ≠ "" ∧ q.2 = r.created)
    (hwritten : (file.bind (·.request)).map (·.1) = none ∧ written = s.written ∨
      (file.bind (·.request)).map (·.1) = some s.written ∧ written = s.written + 1) :
    Invariant token { s with
      file := file
      removing := none
      written := written
      fates := s.meet fate } := by
  have hnames : (s.meet fate).map (·.1) = s.pending ++ s.fates.map (·.1) := by
    unfold State.meet State.pending
    cases s.file.bind (·.request) <;> rfl
  refine ⟨⟨h.quiet, fun f hf => ?_, ?_, fun n => ?_⟩, hfile, nofun⟩
  · unfold State.meet at hf
    rcases List.mem_append.mp hf with hf | hf
    · obtain ⟨q, hq, rfl⟩ := Option.map_eq_some_iff.mp (Option.mem_toList.mp hf)
      obtain ⟨file, hfile, hrequest⟩ := Option.bind_eq_some_iff.mp hq
      exact hfate file hfile q hrequest
    · exact h.kept f hf
  · dsimp only
    rw [hnames]
    unfold State.pending
    dsimp only
    rcases hwritten with ⟨hnone, -⟩ | ⟨hnew, -⟩
    · rw [hnone]
      exact h.once
    · rw [hnew]
      exact List.nodup_cons.mpr ⟨fun hmem => lt_irrefl _ ((h.all _).mp hmem), h.once⟩
  · dsimp only
    rw [hnames]
    unfold State.pending
    dsimp only
    rcases hwritten with ⟨hnone, rfl⟩ | ⟨hnew, rfl⟩
    · rw [hnone]
      exact h.all n
    · rw [hnew]
      exact List.mem_cons.trans ((or_congr_right (h.all n)).trans (by omega))

/-- **One step** that is sound. -/
theorem step {e : Event} (h : Invariant token s) (hok : Sound token s e)
    (hstep : step token s e = some t) : Invariant token t := by
  cases e with
  | write r =>
    obtain ⟨hnone, hid⟩ := hok
    obtain rfl := Option.some.inj hstep
    obtain ⟨file, removing, written, fates, raised, litter⟩ := s
    obtain rfl : removing = none := hnone
    refine h.meets (fun _ _ _ _ => nofun) (fun f hf q hq => ?_) (.inr ⟨rfl, rfl⟩)
    obtain rfl := Option.some.inj hf
    obtain rfl := Option.some.inj hq
    exact ⟨r, rfl, hid, rfl⟩
  | put content =>
    obtain rfl := Option.some.inj hstep
    obtain ⟨file, removing, written, fates, raised, litter⟩ := s
    obtain rfl : removing = none := hok
    refine h.meets (fun _ _ _ _ => nofun) (fun f hf q hq => ?_) (.inl ⟨rfl, rfl⟩)
    obtain rfl := Option.some.inj hf
    cases hq
  | read current =>
    unfold ReloadRequests.step at hstep
    dsimp only at hstep
    split at hstep
    · cases hstep
    · obtain rfl := Option.some.inj hstep
      exact h
    · rename_i file hnone hfile
      obtain ⟨fields, hcontent, hne, hconverts⟩ : ∃ fields, file.content = .object fields ∧
          fields ≠ [] ∧ Converts token current fields := by
        have hread := hok file hfile
        unfold Content.Readable at hread
        split at hread
        · exact ⟨_, ‹_›, hread⟩
        · exact hread.elim
      rw [hcontent] at hstep
      split at hstep
      case h_1 hraises => exact absurd hraises ((converts_iff hne).mp hconverts)
      case h_2 hignored => exact absurd hignored (consume_ne_ignored hne)
      case h_3 =>
        obtain rfl := Option.some.inj hstep
        exact h
      case h_4 returned hremoved =>
        obtain rfl := Option.some.inj hstep
        refine ⟨⟨h.quiet, h.kept, h.once, h.all⟩, h.request, fun c hc => ?_⟩
        obtain rfl := Option.some.inj hc
        exact ⟨file, hfile, returned, by rw [hcontent, hremoved], rfl⟩
  | remove =>
    obtain ⟨⟨current, returned⟩, hremoving, rfl⟩ := Option.map_eq_some_iff.mp hstep
    obtain ⟨file, hfile, b, hremoved, hreturned⟩ := h.removes _ hremoving
    refine h.meets (fun f hf q hq => ?_) nofun (.inl ⟨rfl, rfl⟩)
    obtain rfl : file = f := Option.some.inj (hfile.symm.trans hf)
    obtain ⟨r, hcontent, hid, hcreated⟩ := h.request _ hf q hq
    rw [hcontent, consume_content hid, ← hcreated] at hremoved
    dsimp only at hreturned hremoved ⊢
    split_ifs with h1 h2
    · nofun
    · nofun
    · -- a request that is removed has expired, or is returned
      split_ifs at hremoved
      obtain rfl := Verdict.removed.inj hremoved
      rw [hq] at hreturned
      exact absurd hreturned h1

end Invariant

/-- **Requests are handled once**, and the supervisor is never held up, in every run that is
sound. -/
theorem requests_handled {events : List Event}
    (hok : Meets (step token) (Sound token) initial events)
    (he : exec (step token) initial events = some s) : Handled s :=
  (inv_of_exec (fun _ _ _ h hok ht => Invariant.step h hok ht) .initial hok he).toHandled

instance : Decidable (Converts token current fields) :=
  inferInstanceAs (Decidable (∃ p ∈ _, p = 1 → _ → _ → ∃ c ∈ _, fresh current c = true → _))

instance : ∀ content : Content, Decidable (content.Readable token current)
  | .object _ => inferInstanceAs (Decidable (_ ∧ _))
  | .unread => isFalse id

instance decidableSound : ∀ (s : State) (e : Event), Decidable (Sound token s e)
  | _, .write _ => inferInstanceAs (Decidable (_ ∧ _))
  | s, .put _ => inferInstanceAs (Decidable (s.removing = none))
  | s, .read current => inferInstanceAs (Decidable (∀ f ∈ s.file, f.content.Readable token current))
  | _, .remove => isTrue trivial

def request (requestId : String) (created : ℚ) : Request := ⟨requestId, "backend", created, 3⟩

/-- A request that is read too early, and again when it is due. -/
theorem requests_handled_due : ∃ s, exec (step "token") initial
    [.write (request "a" 0), .read 1, .read 4, .remove] = some s ∧
      s.fates = [(0, .returned)] ∧ Handled s := by
  have hrun : (exec (step "token") initial
      [.write (request "a" 0), .read 1, .read 4, .remove]).map (·.fates) =
        some [(0, .returned)] := by decide +kernel
  obtain ⟨s, he, hfates⟩ := Option.map_eq_some_iff.mp hrun
  exact ⟨s, he, hfates, requests_handled (by decide +kernel) he⟩

/-- **A request is lost** that is put in place while the supervisor removes the one it has read. -/
theorem request_lost : ¬∀ (token : String) (events : List Event) (s : State),
    exec (step token) initial events = some s → Handled s := by
  intro hall
  have hrun : (exec (step "token") initial [.write (request "a" 0), .read 4,
      .write (request "b" 4), .remove]).map (·.fates) =
        some [(1, .lost), (0, .replaced)] := by decide +kernel
  obtain ⟨s, he, hfates⟩ := Option.map_eq_some_iff.mp hrun
  exact (hall _ _ s he).kept (1, .lost) (by simp [hfates]) rfl

end OnAir.ReloadRequests
