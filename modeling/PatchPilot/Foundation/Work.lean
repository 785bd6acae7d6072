/-
  Foundation/Work.lean --- the body of a database transaction.

  A body reads what is committed together with what it wrote itself, and it may stop
  with an error.  A body that stops has still made the writes that came before: whether
  they are kept is decided by who runs it.
-/
import Mathlib.Data.List.Basic

set_option autoImplicit false

namespace PatchPilot.Foundation

/-- A database that changes write by write. -/
class Writable (Write : Type) (Db : outParam Type) where
  apply : Write → Db → Db

/-- A database after a list of writes. -/
def applyAll {Write Db : Type} [Writable Write Db] (writes : List Write) (db : Db) : Db :=
  writes.foldl (fun view write => Writable.apply write view) db

section ApplyAll

variable {Write Db : Type} [Writable Write Db]

@[simp] theorem applyAll_cons (write : Write) (writes : List Write) (db : Db) :
    applyAll (write :: writes) db = applyAll writes (Writable.apply write db) := rfl

theorem applyAll_append (writes writes' : List Write) (db : Db) :
    applyAll (writes ++ writes') db = applyAll writes' (applyAll writes db) :=
  List.foldl_append

/-- A table to which each write of a list appends its own rows. -/
theorem applyAll_table {Row : Type} (table : Db → List Row) (rows : Write → List Row)
    {writes : List Write}
    (hrows : ∀ write ∈ writes, ∀ view,
      table (Writable.apply write view) = table view ++ rows write)
    (db : Db) : table (applyAll writes db) = table db ++ writes.flatMap rows := by
  induction writes generalizing db with
  | nil => exact (List.append_nil _).symm
  | cons write rest ih =>
      have hrest := ih (fun w hw => hrows w (List.mem_cons_of_mem _ hw))
      rw [applyAll_cons, hrest, hrows write List.mem_cons_self, List.append_assoc,
        List.flatMap_cons]

/-- A table of which each write of a list updates the rows, one by one. -/
theorem applyAll_rows {Row : Type} (table : Db → List Row) (update : Row → Write → Row)
    (hupdate : ∀ write view,
      table (Writable.apply write view) = (table view).map (update · write))
    (writes : List Write) (db : Db) :
    table (applyAll writes db) = (table db).map fun row => writes.foldl update row := by
  induction writes generalizing db with
  | nil => exact (List.map_id _).symm
  | cons write rest ih => rw [applyAll_cons, ih, hupdate, List.map_map]; rfl

/-- A row that no write of a list updates. -/
theorem foldl_unchanged {Row Write : Type} {update : Row → Write → Row} {writes : List Write}
    {row : Row} (h : ∀ write ∈ writes, update row write = row) :
    writes.foldl update row = row := by
  induction writes with
  | nil => rfl
  | cons write rest ih =>
      rw [List.foldl_cons, h write List.mem_cons_self]
      exact ih fun w hw => h w (List.mem_cons_of_mem _ hw)

end ApplyAll

/-- A body: from what it can see, what it returns and what it writes. -/
def Work (Write Db E α : Type) : Type := Db → Except E α × List Write

namespace Work

variable {Write Db E α β : Type}

/-- A body that only returns. -/
protected def pure (value : α) : Work Write Db E α := fun _ => (.ok value, [])

/-- A body that stops. -/
protected def fail (error : E) : Work Write Db E α := fun _ => (.error error, [])

/-- A body that reads. -/
protected def read (query : Db → α) : Work Write Db E α := fun view => (.ok (query view), [])

/-- A body that writes. -/
protected def write (write : Write) : Work Write Db E Unit := fun _ => (.ok (), [write])

/-- A body that stops unless something holds. -/
def require (holds : Prop) [Decidable holds] (error : E) : Work Write Db E Unit :=
  if holds then Work.pure () else Work.fail error

/-- A body that returns or stops as a computation did. -/
def ofExcept (result : Except E α) : Work Write Db E α := fun _ => (result, [])

variable [Writable Write Db]

/-- One body after another, which sees what the first one wrote. -/
protected def bind (body : Work Write Db E α) (next : α → Work Write Db E β) :
    Work Write Db E β := fun view =>
  match body view with
  | (.error error, writes) => (.error error, writes)
  | (.ok value, writes) =>
      ((next value (applyAll writes view)).1,
        writes ++ (next value (applyAll writes view)).2)

instance : Monad (Work Write Db E) where
  pure := Work.pure
  bind := Work.bind

omit [Writable Write Db] in
theorem write_run (write : Write) (view : Db) :
    (Work.write write : Work Write Db E Unit) view = (.ok (), [write]) := rfl

/-- A body that goes on after its first part returned. -/
theorem bind_run {body : Work Write Db E α} {next : α → Work Write Db E β} {view : Db}
    {value : α} {writes writes' : List Write} {result : Except E β}
    (hbody : body view = (.ok value, writes))
    (hnext : next value (applyAll writes view) = (result, writes')) :
    (body >>= next) view = (result, writes ++ writes') := by
  change Work.bind body next view = _
  unfold Work.bind
  rw [hbody]
  change ((next value (applyAll writes view)).1,
    writes ++ (next value (applyAll writes view)).2) = _
  rw [hnext]

/-- A body that starts by reading. -/
theorem read_bind_run (query : Db → α) (next : α → Work Write Db E β) (view : Db) :
    (Work.read query >>= next) view = next (query view) view := rfl

/-- A body that starts by what a computation returned. -/
theorem ofExcept_bind_run {result : Except E α} {value : α} (h : result = .ok value)
    (next : α → Work Write Db E β) (view : Db) :
    (ofExcept result >>= next) view = next value view := by
  subst h
  rfl

theorem require_bind_run {holds : Prop} [Decidable holds] {error : E}
    {next : Unit → Work Write Db E β} {view : Db} (h : holds) :
    (require holds error >>= next) view = next () view := by
  unfold require
  rw [if_pos h]
  rfl

theorem require_bind_run_error {holds : Prop} [Decidable holds] {error : E}
    {next : Unit → Work Write Db E β} {view : Db} (h : ¬holds) :
    (require holds error >>= next) view = (.error error, []) := by
  unfold require
  rw [if_neg h]
  rfl

end Work

end PatchPilot.Foundation
