import Mathlib.Data.List.DropRight
import Mathlib.Tactic.Common

/-!
A file of pages and its write-ahead log.

A transaction appends frames to the log, and its last one says how many pages there are from then
on. A reader takes every page from its last frame in the committed part of the log, and from the
file where there is none.
-/

namespace OnAir.WriteAheadLog

variable {Page : Type*}

structure Frame (Page : Type*) where
  page : ℕ
  data : Page
  /-- of the last frame of a transaction, the number of pages after it -/
  size : Option ℕ
  deriving DecidableEq, Repr

structure LoggedFile (Page : Type*) where
  main : Option (List Page)
  log : List (Frame Page)
  deriving DecidableEq, Repr

/-- The frames up to the last commit. -/
def committed (log : List (Frame Page)) : List (Frame Page) :=
  log.rdropWhile fun f => f.size.isNone

namespace LoggedFile

variable (d : LoggedFile Page)

/-- A file that is not there is an empty one. -/
def pages : List Page := d.main.getD []

/-- The frames a reader applies: the log of an empty file is discarded. -/
def applied : List (Frame Page) := if d.pages.isEmpty then [] else committed d.log

def pageAt (i : ℕ) : Option Page :=
  match (d.applied.filter fun f => f.page = i).getLast? with
  | some f => some f.data
  | none => d.pages[i]?

/-- The pages a reader sees; `none` where one is missing. -/
def image : Option (List Page) :=
  match d.applied.getLast?.bind (·.size) with
  | some n => (List.range n).mapM d.pageAt
  | none => some d.pages

variable {d}

/-- Where no frame is applied, the file is read as it is. -/
lemma image_of_applied (h : d.applied = []) : d.image = some d.pages := by
  simp [image, h]

lemma applied_of_committed (h : committed d.log = []) : d.applied = [] := by
  simp [applied, h]

lemma applied_of_pages (h : d.pages ≠ []) : d.applied = committed d.log := by
  simp [applied, h]

end LoggedFile

end OnAir.WriteAheadLog
