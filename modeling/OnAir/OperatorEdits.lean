import OnAir.ActiveRows
import OnAir.QueueWrites
import OnAir.Runs

/-!
Optimistic concurrency of the edits of operators.

Operators read the active rows and edit them later, naming the revision of what they read; in
between the queue and the workers write. The revision holds the id, the position and the status of
a row. The id of a row that was deleted may be given to another row, and the revision does not
hold its track.
-/

namespace OnAir.OperatorEdits

open ActiveRows PlayoutTables QueueRepository QueueWrites Runs OnAir.Table

/-! ### What an operator sees -/

section Shown

variable {l l' : List Row}

/-- What an operator sees of a row. -/
def shown (r : Row) : ℤ × ℤ × ℤ × ItemStatus := (r.1, r.2.trackId, r.2.position, r.2.status)

/-- Rows that agree in their keys and, under one id, in their tracks are shown alike. -/
lemma shown_eq_of_key (h : l.map key = l'.map key)
    (htrack : ∀ r ∈ l, ∀ r' ∈ l', r.1 = r'.1 → r.2.trackId = r'.2.trackId) :
    l.map shown = l'.map shown := by
  induction l generalizing l' with
  | nil => cases l' <;> simp_all
  | cons r l ih =>
    cases l' with
    | nil => simp at h
    | cons r' l' =>
      obtain ⟨hr, hl⟩ := List.cons.inj h
      obtain ⟨hid, hpos⟩ := Prod.mk.inj hr
      obtain ⟨hpos, hstatus⟩ := Prod.mk.inj hpos
      have ht : r.2.trackId = r'.2.trackId := htrack r (by simp) r' (by simp) hid
      have hrest := ih hl fun q hq q' hq' => htrack q (by simp [hq]) q' (by simp [hq'])
      rw [List.map_cons, List.map_cons, hrest, shown, shown, hid, hpos, hstatus, ht]

end Shown

/-! ### Runs -/

/-- The database, and the rows that operators have read. -/
structure State where
  engine : Engine
  seen : List (List Row)

inductive Event
  /-- an operator reads the active rows of a station -/
  | read (st : ℤ)
  /-- an operator edits rows of a station, with the revision of rows that were read -/
  | edit (st : ℤ) (rows : List Row) (e : Edit)
  /-- the queue or a worker writes -/
  | write (w : Write)
  /-- all but the queue becomes that of another database -/
  | elsewhere (e : Engine)

section Steps

variable (digest : String → String)

def step (s : State) : Event → Option State
  | .read st => some { s with seen := listActiveOrdered st s.engine :: s.seen }
  | .edit st rows e =>
    if rows ∈ s.seen then
      some { s with engine := (e.call digest st (activeRevision digest rows) s.engine).1 }
    else none
  | .write w => some { s with engine := w.run s.engine }
  | .elsewhere e => some { s with engine := { e with queueItems := s.engine.queueItems } }

/-- An edit is accepted only where the active rows are those that were read, and one that is not
accepted leaves every row as it is. -/
def Guarded (s : State) : Event → Prop
  | .edit st rows e =>
    let r := e.call digest st (activeRevision digest rows) s.engine
    (r.2 = .ok → (listActiveOrdered st s.engine).map shown = rows.map shown) ∧
      (r.2 ≠ .ok → r.1.queueItems = s.engine.queueItems)
  | _ => True

/-- The revision tells the rows that an edit finds from those that were read. -/
def TellsApart (s : State) : Event → Prop
  | .edit st rows _ =>
    activeRevision digest (listActiveOrdered st s.engine) = activeRevision digest rows →
      material (listActiveOrdered st s.engine) = material rows
  | _ => True

/-- A new row does not take an id under which another track was read. -/
def NewId (s : State) : Event → Prop
  | .write w => ∀ row ∈ (w.run s.engine).queueItems[nextId s.engine.queueItems]?,
      ∀ rows ∈ s.seen, ∀ r ∈ rows, r.1 = nextId s.engine.queueItems → r.2.trackId = row.trackId
  | _ => True

instance (s : State) (e : Event) : Decidable (TellsApart digest s e) := by
  unfold TellsApart
  cases e <;> infer_instance

instance (s : State) (e : Event) : Decidable (NewId s e) := by
  unfold NewId
  cases e <;> infer_instance

end Steps

/-! ### One edit -/

section OneEdit

variable {digest : String → String} {st itemId : ℤ} {expected : String} {s t : Engine}
  {r : Engine × Outcome}

lemma OldRow.trans {j : ℤ} {row : QueueItem} (h : ∀ q, t.queueItems[j]? = some q → OldRow s j q)
    (h' : OldRow t j row) : OldRow s j row := by
  obtain ⟨q, hq, htrack⟩ := h'
  obtain ⟨q', hq', htrack'⟩ := h q hq
  exact ⟨q', hq', htrack'.trans htrack⟩

lemma oldRow_setPositions (ids : List ℤ) {j : ℤ} {row : QueueItem}
    (h : (setPositions ids s).queueItems[j]? = some row) : OldRow s j row := by
  have hall : ∀ q, (setPositions ids s).queueItems[j]? = some q → OldRow s j q := by
    refine inv_of_foldl (P := fun t : Engine => ∀ q, t.queueItems[j]? = some q → OldRow s j q)
      (fun t r ht q hq => OldRow.trans ht ?_) (ids.zipIdx 1) fun q hq => ⟨q, hq, rfl⟩
    refine oldRow_updateQueue ?_ hq
    exact fun q => rfl
  exact hall row h

/-- What an edit can do: it is refused and nothing changes, or the revision is the expected one
and no row is added. -/
def Edited (digest : String → String) (st : ℤ) (expected : String) (s : Engine)
    (r : Engine × Outcome) : Prop :=
  (r.1 = s ∧ r.2 ≠ .ok) ∨
    (r.2 = .ok ∧ activeRevision digest (listActiveOrdered st s) = expected ∧
      ∀ j row, r.1.queueItems[j]? = some row → OldRow s j row)

lemma edited_deletePendingItem :
    Edited digest st expected s (deletePendingItem digest st itemId expected s) := by
  unfold deletePendingItem
  dsimp only
  split
  · exact .inl ⟨rfl, nofun⟩
  next hrevision =>
    split
    · exact .inl ⟨rfl, nofun⟩
    split
    · exact .inl ⟨rfl, nofun⟩
    split
    · refine .inr ⟨rfl, not_not.mp hrevision, fun j row h => ?_⟩
      refine OldRow.trans (fun q hq => ?_) (oldRow_setPositions _ h)
      rw [deleteRow, lookup_erase] at hq
      split_ifs at hq
      exact ⟨q, hq, rfl⟩
    · exact .inl ⟨rfl, nofun⟩

lemma edited_movePendingItem (toIndex : ℤ) :
    Edited digest st expected s (movePendingItem digest st itemId expected s toIndex) := by
  unfold movePendingItem
  dsimp only
  split
  · exact .inl ⟨rfl, nofun⟩
  next hrevision =>
    split
    · exact .inl ⟨rfl, nofun⟩
    split
    · exact .inl ⟨rfl, nofun⟩
    split
    · exact .inl ⟨rfl, nofun⟩
    split
    · exact .inr ⟨rfl, not_not.mp hrevision, fun j row h => ⟨row, h, rfl⟩⟩
    · exact .inr ⟨rfl, not_not.mp hrevision, fun j row h => oldRow_setPositions _ h⟩

lemma beginSkipPlayingItem_ok (h : beginSkipPlayingItem digest st itemId expected s = .ok) :
    activeRevision digest (listActiveOrdered st s) = expected := by
  unfold beginSkipPlayingItem at h
  by_contra hne
  simp [hne] at h

lemma edited_skipPlayingItem :
    Edited digest st expected s (skipPlayingItem digest st itemId expected s) := by
  unfold skipPlayingItem
  split
  next hok =>
    unfold commitSkipPlayingItem
    split_ifs
    · refine .inr ⟨rfl, beginSkipPlayingItem_ok hok, fun j row h => ?_⟩
      refine oldRow_updateQueue ?_ h
      exact fun q => rfl
    · exact .inl ⟨rfl, nofun⟩
  next hne => exact .inl ⟨rfl, hne⟩

variable (digest st) in
lemma Edit.edited (e : Edit) : Edited digest st expected s (e.call digest st expected s) := by
  cases e with
  | delete itemId => exact edited_deletePendingItem
  | move itemId toIndex => exact edited_movePendingItem toIndex
  | skip itemId => exact edited_skipPlayingItem

end OneEdit

/-! ### All runs -/

section AllRuns

variable {digest : String → String} {s s' : State} {e : Event} {es : List Event}

/-- A row that is there has the track that was read under its id. -/
def Known (s : State) : Prop :=
  ∀ rows ∈ s.seen, ∀ r ∈ rows, ∀ row, s.engine.queueItems[r.1]? = some row →
    row.trackId = r.2.trackId

lemma Known.of_oldRow (h : Known s) {engine : Engine}
    (hold : ∀ j row, engine.queueItems[j]? = some row → OldRow s.engine j row) :
    Known { s with engine } := by
  intro rows hrows r hr row hrow
  obtain ⟨q, hq, htrack⟩ := hold r.1 row hrow
  exact htrack.symm.trans (h rows hrows r hr q hq)

/-- **One step** keeps what is known, if a new row does not take the id of another. -/
lemma known_step (h : Known s) (hnew : NewId s e) (hs : step digest s e = some s') : Known s' := by
  cases e with
  | read st =>
    obtain rfl := Option.some.inj hs
    intro rows hrows r hr row hrow
    rcases List.mem_cons.mp hrows with rfl | hrows
    · rw [(mem_listActiveOrdered.mp hr).1] at hrow
      exact congrArg (·.trackId) (Option.some.inj hrow).symm
    · exact h rows hrows r hr row hrow
  | edit st rows e =>
    rw [step] at hs
    split_ifs at hs
    obtain rfl := Option.some.inj hs
    refine h.of_oldRow fun j row hrow => ?_
    rcases Edit.edited digest st e with ⟨hsame, -⟩ | ⟨-, -, hold⟩
    · rw [hsame] at hrow
      exact ⟨row, hrow, rfl⟩
    · exact hold j row hrow
  | write w =>
    obtain rfl := Option.some.inj hs
    intro rows hrows r hr row hrow
    by_cases hid : r.1 = nextId s.engine.queueItems
    · rw [hid] at hrow
      exact (hnew row hrow rows hrows r hr hid).symm
    · obtain ⟨q, hq, htrack⟩ := w.oldRow hid hrow
      exact htrack.symm.trans (h rows hrows r hr q hq)
  | elsewhere e =>
    obtain rfl := Option.some.inj hs
    exact h

/-- **An edit finds what was read**: in every run in which no new row takes an id under which
another track was read, an edit is accepted only where the active rows are those of its listing,
and otherwise leaves every row as it is. -/
theorem edit_finds_what_was_read {engine : Engine} {st : ℤ} {rows : List Row} {edit : Edit}
    (hnew : Meets (step digest) NewId ⟨engine, []⟩ es)
    (he : exec (step digest) ⟨engine, []⟩ es = some s) (hrows : rows ∈ s.seen)
    (htells : TellsApart digest s (.edit st rows edit)) :
    Guarded digest s (.edit st rows edit) := by
  have hknown : Known s := inv_of_exec (P := Known) (fun s e s' => known_step)
    (fun rows hrows => absurd hrows (by simp)) hnew he
  rcases Edit.edited digest st edit with ⟨hsame, hne⟩ | ⟨hok, hrev, -⟩
  · exact ⟨fun hok => absurd hok hne, fun _ => congrArg (·.queueItems) hsame⟩
  · refine ⟨fun _ => ?_, fun hne => absurd hok hne⟩
    refine shown_eq_of_key (keys_eq_of_material (htells hrev)) fun r hr r' hr' hid => ?_
    have hrow := (mem_listActiveOrdered.mp hr).1
    rw [hid] at hrow
    exact hknown rows hrows r' hr' r.2 hrow

end AllRuns

/-! ### An id that is used again -/

def song (trackId position : ℤ) : QueueItem := ⟨1, trackId, position, .pending, none, none⟩

def twoSongs : Engine :=
  { Engine.empty with
    queueItems := ((∅ : Table QueueItem).insert 1 (song 10 1)).insert 2 (song 20 2) }

def bothRows : List Row := [(1, song 10 1), (2, song 20 2)]

/-- The digests of the texts that are hashed below. -/
def digests (text : String) : String :=
  if text = "1:1:pending|2:2:pending" then "624d167381f0d42c02cc051f"
  else if text = "1:1:pending|2:2:pending|3:3:pending" then "e6cc02adc2a940c48e9dc8f9"
  else ""

/-- The last row is deleted and another is added, which gets its id and its position; an operator
who has read the old rows deletes the new one. -/
theorem reused_id_is_edited :
    ∃ es s, exec (step digests) ⟨twoSongs, []⟩ es = some s ∧ bothRows ∈ s.seen ∧
      TellsApart digests s (.edit 1 bothRows (.delete 2)) ∧
      ¬ Guarded digests s (.edit 1 bothRows (.delete 2)) := by
  have hrun : ((exec (step digests) ⟨twoSongs, []⟩
      [.read 1, .edit 1 bothRows (.delete 2), .write (.enqueue 1 30 none)]).any fun s =>
        bothRows ∈ s.seen && decide (TellsApart digests s (.edit 1 bothRows (.delete 2))) &&
          (Edit.call digests 1 (activeRevision digests bothRows) s.engine (.delete 2)).2 = .ok &&
          (listActiveOrdered 1 s.engine).map shown ≠ bothRows.map shown) = true := by
    decide +kernel
  obtain ⟨s, hs, hall⟩ := (Option.any_eq_true ..).mp hrun
  simp only [Bool.and_eq_true, decide_eq_true_eq] at hall
  obtain ⟨⟨⟨hseen, htells⟩, hok⟩, hdiffers⟩ := hall
  exact ⟨_, s, hs, hseen, htells, fun h => hdiffers (h.1 hok)⟩

/-- A song is added at the end, and then the deletion is refused. -/
theorem edit_finds_what_was_read_newSong :
    ∃ s, exec (step digests) ⟨twoSongs, []⟩ [.read 1, .write (.enqueue 1 30 none)] = some s ∧
      Guarded digests s (.edit 1 bothRows (.delete 2)) := by
  have hrun : ((exec (step digests) ⟨twoSongs, []⟩
      [.read 1, .write (.enqueue 1 30 none)]).any fun s =>
        bothRows ∈ s.seen && decide (TellsApart digests s (.edit 1 bothRows (.delete 2)))) =
      true := by decide +kernel
  obtain ⟨s, hs, hall⟩ := (Option.any_eq_true ..).mp hrun
  simp only [Bool.and_eq_true, decide_eq_true_eq] at hall
  exact ⟨s, hs, edit_finds_what_was_read (by decide +kernel) hs hall.1 hall.2⟩

end OnAir.OperatorEdits
