import OnAir.Runs

/-!
The JSON files of `reliability.py`: a write keeps the valid text it finds as the backup and replaces
the file by a rename; a reader goes back to the backup.

A write may raise, or the process end, at any step of it. The file may be damaged between any two
steps, to a text that is no JSON, or be lost.
-/

namespace OnAir.Reliability

open Runs

variable {Text Object : Type}

/-- A call of `atomic_write_json` under its lock. -/
inductive Call (Text Object : Type)
  | looking (value : Object)
  /-- the text that was found replaces the backup next -/
  | keeping (value : Object) (current : Text)
  | replacing (value : Object)

structure State (Text Object : Type) where
  file : Option Text
  backup : Option Text
  call : Option (Call Text Object)
  /-- what has been put in the place of the file, the last one first, and whether it was damaged -/
  generations : List (Object × Bool)

def initial : State Text Object := ⟨none, none, none, []⟩

inductive Event (Text Object : Type)
  | write (value : Object)
  | advance
  | fail
  | damage (text : Option Text)

section Files

variable (loads : Text → Option (Option Object)) (dumps : Object → Text)

/-- What `json.loads` makes of a text is an object, or another value; `none` where it raises. -/
def object (text : Option Text) : Option Object := (text.bind loads).join

/-- `read_json_object`. -/
def readJsonObject (s : State Text Object) : Option Object :=
  (object loads s.file).or (object loads s.backup)

def advance (s : State Text Object) : Call Text Object → State Text Object
  | .looking value =>
    match s.file.filter fun text => (loads text).isSome with
    | some current => { s with call := some (.keeping value current) }
    | none => { s with call := some (.replacing value) }
  | .keeping value current => { s with backup := some current, call := some (.replacing value) }
  | .replacing value =>
    { s with
      file := some (dumps value)
      call := none
      generations := (value, false) :: s.generations }

def step (s : State Text Object) : Event Text Object → Option (State Text Object)
  | .write value => if s.call.isSome then none else some { s with call := some (.looking value) }
  | .advance => s.call.map (advance loads dumps s)
  | .fail => some { s with call := none }
  | .damage text =>
    if text.bind loads = none then some { s with
      file := text
      generations := s.generations.modifyHead fun g => (g.1, true) }
    else none

/-- One of the generations, all newer ones of which were damaged; or nothing, and all were. -/
def Newest (o : Option Object) : List (Object × Bool) → Prop
  | [] => o = none
  | (v, damaged) :: older => o = some v ∨ damaged ∧ Newest o older

/-- The file holds the last generation, unless that was damaged. -/
def Stands (file : Option Text) : List (Object × Bool) → Prop
  | (v, false) :: _ => file = some (dumps v)
  | _ => file.bind loads = none

structure Sound (s : State Text Object) : Prop where
  file : Stands loads dumps s.file s.generations
  backup : Newest (object loads s.backup) s.generations ∨
    Newest (object loads s.backup) s.generations.tail
  call : match s.call with
    | some (.keeping _ current) => ∃ g ∈ s.generations.head?, current = dumps g.1
    | some (.replacing _) => Newest (object loads s.backup) s.generations
    | _ => True

end Files

section Steps

variable {loads : Text → Option (Option Object)} {dumps : Object → Text}
  {s s' : State Text Object} {e : Event Text Object} {o : Option Object}
  {gs : List (Object × Bool)} {file : Option Text}

lemma Newest.damaged (h : Newest o gs ∨ Newest o gs.tail) :
    Newest o (gs.modifyHead fun g => (g.1, true)) := by
  cases gs with
  | nil => exact h.elim id id
  | cons g older =>
    rcases h with h | h
    · exact h.imp_right fun h => ⟨rfl, h.2⟩
    · exact .inr ⟨rfl, h⟩

lemma stands_damaged (h : file.bind loads = none) :
    Stands loads dumps file (gs.modifyHead fun g => (g.1, true)) := by
  cases gs <;> exact h

/-- What can be parsed is the last generation. -/
lemma Stands.found (h : Stands loads dumps file gs) (hf : file.bind loads ≠ none) :
    ∃ v older, gs = (v, false) :: older ∧ file = some (dumps v) := by
  unfold Stands at h
  split at h
  · exact ⟨_, _, rfl, h⟩
  · exact absurd h hf

/-- Where the file cannot be parsed, the backup has the generation. -/
lemma Stands.backup (hround : ∀ v, loads (dumps v) = some (some v))
    (h : Stands loads dumps file gs) (hf : file.bind loads = none)
    (hb : Newest o gs ∨ Newest o gs.tail) : Newest o gs := by
  cases gs with
  | nil => exact hb.elim id id
  | cons g older =>
    obtain ⟨v, damaged⟩ := g
    cases damaged with
    | true => exact hb.elim id fun h => .inr ⟨rfl, h⟩
    | false =>
      rw [show file = some (dumps v) from h, Option.bind_some, hround] at hf
      cases hf

lemma Sound.read (hround : ∀ v, loads (dumps v) = some (some v)) (hs : Sound loads dumps s) :
    Newest (readJsonObject loads s) s.generations := by
  by_cases hf : s.file.bind loads = none
  · rw [readJsonObject, object, hf, Option.join_none, Option.none_or]
    exact hs.file.backup hround hf hs.backup
  · obtain ⟨v, older, hgs, hfile⟩ := hs.file.found hf
    rw [hgs]
    exact .inl (by rw [readJsonObject, object, hfile, Option.bind_some, hround]; rfl)

lemma Sound.step (hround : ∀ v, loads (dumps v) = some (some v)) (hs : Sound loads dumps s)
    (h : step loads dumps s e = some s') : Sound loads dumps s' := by
  obtain ⟨hfile, hbackup, hcall⟩ := hs
  cases e with
  | write value =>
    rw [Reliability.step] at h
    split at h <;> cases h
    exact ⟨hfile, hbackup, trivial⟩
  | fail =>
    cases h
    exact ⟨hfile, hbackup, trivial⟩
  | damage text =>
    rw [Reliability.step] at h
    split at h <;> cases h
    refine ⟨stands_damaged ‹_›, .inl (.damaged hbackup), ?_⟩
    dsimp only
    split at hcall
    · obtain ⟨g, hg, rfl⟩ := hcall
      exact ⟨(g.1, true), by simp [Option.mem_def.mp hg], rfl⟩
    · exact .damaged (.inl hcall)
    · trivial
  | advance =>
    obtain ⟨c, hc, rfl⟩ := Option.map_eq_some_iff.mp h
    rw [hc] at hcall
    cases c with
    | looking value =>
      rw [advance]
      split
      · next current hcurrent =>
        obtain ⟨hf, hloads⟩ := Option.filter_eq_some_iff.mp hcurrent
        obtain ⟨v, older, hgs, hv⟩ := hfile.found (by
          rw [hf]; exact Option.isSome_iff_ne_none.mp hloads)
        exact ⟨hfile, hbackup, _, by rw [hgs]; rfl, Option.some.inj (hf.symm.trans hv)⟩
      · next hnone =>
        have hf : s.file.bind loads = none := by
          simpa [Option.filter_eq_none_iff] using hnone
        exact ⟨hfile, hbackup, hfile.backup hround hf hbackup⟩
    | keeping value current =>
      obtain ⟨g, hg, rfl⟩ := hcall
      have hnewest : Newest (object loads (some (dumps g.1))) s.generations := by
        obtain ⟨older, hgs⟩ := List.head?_eq_some_iff.mp hg
        rw [hgs]
        exact .inl (by rw [object, Option.bind_some, hround]; rfl)
      exact ⟨hfile, .inl hnewest, hnewest⟩
    | replacing value => exact ⟨rfl, .inr hcall, trivial⟩

lemma sound_initial : Sound loads dumps initial := ⟨rfl, .inl rfl, trivial⟩

/-- **A reader gets the newest generation there is.** In any state, also within a write, after one
that was cut short and after damage to the file, what is read is a generation all newer ones of
which were damaged. -/
theorem reads_newest (hround : ∀ v, loads (dumps v) = some (some v))
    {events : List (Event Text Object)} (h : exec (step loads dumps) initial events = some s) :
    Newest (readJsonObject loads s) s.generations :=
  Sound.read hround (inv_of_exec_all (fun _ _ _ => Sound.step hround) sound_initial h)

end Steps

/-- The text of an object with one key, or with none. -/
def flagText (flag : Bool) : String := if flag then "\x7b\n  \"ok\": true\n\x7d\n" else "\x7b\x7d\n"

def flagOf (text : String) : Option (Option Bool) :=
  if text = flagText true then some (some true)
  else if text = flagText false then some (some false) else none

/-- The file is damaged after a second write. -/
def written : List (Event String Bool) :=
  [.write true, .advance, .advance, .write false, .advance, .advance, .advance, .damage (some "")]

theorem reads_newest_damaged : ∃ s, exec (step flagOf flagText) initial written = some s ∧
    Newest (readJsonObject flagOf s) s.generations := by
  obtain ⟨s, hs⟩ := Option.isSome_iff_exists.mp
    (by decide +kernel : (exec (step flagOf flagText) initial written).isSome = true)
  exact ⟨s, hs, reads_newest (by decide +kernel) hs⟩

end OnAir.Reliability
