import Mathlib.Data.List.Sort
import Mathlib.Data.List.Nodup

namespace Payments
namespace Concurrency

/-!
# Tables under row locks

A database that isolates transactions at READ COMMITTED keeps, for every row,
its last committed version and at most one uncommitted version, which belongs
to the transaction holding the row's lock.  A statement of a transaction sees
its own uncommitted versions and otherwise the committed ones.  It waits while
a row it selects is locked by another transaction and then looks at the version
committed in the meantime; `SKIP LOCKED` passes over such rows instead.

A cell holds one row in exactly this form, so that a row with two uncommitted
versions cannot be written down.  A statement is executed in one step at a
moment when it does not have to wait: it then sees what a statement that had
waited would see after its last wait.
-/

/-- One row: the committed version and the lock with the version that its
holder would commit.  `none` stands for a row that does not exist. -/
structure Cell (Row Holder : Type) where
  committed : Option Row
  lock : Option (Holder × Option Row)

namespace Cell

variable {Row Holder : Type}

def vacant : Cell Row Holder := ⟨none, none⟩

/-- The cell is locked by `me`. -/
def HeldBy (me : Holder) (cell : Cell Row Holder) : Prop :=
  Exists fun draft => cell.lock = some (me, draft)

/-- Some version of the cell, committed or not, is this row. -/
inductive Carries (cell : Cell Row Holder) (row : Row) : Prop where
  | committed (same : cell.committed = some row)
  | draft {holder : Holder} (same : cell.lock = some (holder, some row))

/-- Install an uncommitted version. -/
def write (me : Holder) (draft : Option Row) (cell : Cell Row Holder) : Cell Row Holder :=
  ⟨cell.committed, some (me, draft)⟩

theorem HeldBy.unique {me other : Holder} {cell : Cell Row Holder} (mine : cell.HeldBy me)
    (theirs : cell.HeldBy other) : me = other := by
  rcases mine with ⟨draft, locked⟩
  rcases theirs with ⟨draft', locked'⟩
  rw [locked] at locked'
  exact (Prod.mk.inj (Option.some.inj locked')).1

variable [DecidableEq Holder]

/-- What a statement of `me` sees. -/
def visible (me : Holder) (cell : Cell Row Holder) : Option Row :=
  match cell.lock with
  | some (holder, draft) => if holder = me then draft else cell.committed
  | none => cell.committed

def heldByOther (me : Holder) (cell : Cell Row Holder) : Bool :=
  match cell.lock with
  | some (holder, _) => decide (holder ≠ me)
  | none => false

def commit (me : Holder) (cell : Cell Row Holder) : Cell Row Holder :=
  match cell.lock with
  | some (holder, draft) => if holder = me then ⟨draft, none⟩ else cell
  | none => cell

def rollback (me : Holder) (cell : Cell Row Holder) : Cell Row Holder :=
  match cell.lock with
  | some (holder, _) => if holder = me then ⟨cell.committed, none⟩ else cell
  | none => cell

variable {me other : Holder} {cell : Cell Row Holder} {row : Row} {draft : Option Row}

theorem heldByOther_eq_false_iff :
    cell.heldByOther me = false <-> cell.lock = none ∨ cell.HeldBy me := by
  rcases cell with ⟨committed, _ | ⟨holder, draft⟩⟩
  · simp [heldByOther]
  · simp [heldByOther, HeldBy]

theorem visible_of_lock (locked : cell.lock = some (me, draft)) : cell.visible me = draft := by
  simp [visible, locked]

theorem visible_of_not_heldBy (free : ¬ cell.HeldBy me) : cell.visible me = cell.committed := by
  rcases cell with ⟨committed, _ | ⟨holder, draft⟩⟩
  · rfl
  · have different : holder ≠ me := fun same => free ⟨draft, by rw [same]⟩
    simp [visible, different]

/-- What a transaction sees is a version of the row. -/
theorem carries_of_visible (seen : cell.visible me = some row) : cell.Carries row := by
  by_cases held : cell.HeldBy me
  · rcases held with ⟨draft, locked⟩
    rw [visible_of_lock locked] at seen
    exact .draft (seen ▸ locked)
  · exact .committed ((visible_of_not_heldBy held).symm.trans seen)

theorem commit_of_lock (locked : cell.lock = some (me, draft)) : cell.commit me = ⟨draft, none⟩ := by
  simp [commit, locked]

theorem rollback_of_lock (locked : cell.lock = some (me, draft)) :
    cell.rollback me = ⟨cell.committed, none⟩ := by
  simp [rollback, locked]

theorem commit_of_not_heldBy (free : ¬ cell.HeldBy me) : cell.commit me = cell := by
  rcases cell with ⟨committed, _ | ⟨holder, draft⟩⟩
  · rfl
  · have different : holder ≠ me := fun same => free ⟨draft, by rw [same]⟩
    simp [commit, different]

theorem rollback_of_not_heldBy (free : ¬ cell.HeldBy me) : cell.rollback me = cell := by
  rcases cell with ⟨committed, _ | ⟨holder, draft⟩⟩
  · rfl
  · have different : holder ≠ me := fun same => free ⟨draft, by rw [same]⟩
    simp [rollback, different]

/-- Ending a transaction releases its locks. -/
theorem not_heldBy_commit : ¬ (cell.commit me).HeldBy me := by
  by_cases held : cell.HeldBy me
  · rcases held with ⟨draft, locked⟩
    rw [commit_of_lock locked]
    rintro ⟨_, impossible⟩
    cases impossible
  · rwa [commit_of_not_heldBy held]

theorem not_heldBy_rollback : ¬ (cell.rollback me).HeldBy me := by
  by_cases held : cell.HeldBy me
  · rcases held with ⟨draft, locked⟩
    rw [rollback_of_lock locked]
    rintro ⟨_, impossible⟩
    cases impossible
  · rwa [rollback_of_not_heldBy held]

theorem rollback_committed : (cell.rollback me).committed = cell.committed := by
  rcases cell with ⟨committed, _ | ⟨holder, draft⟩⟩
  · rfl
  · by_cases same : holder = me <;> simp [rollback, same]

/-- A lock that survives the end of another transaction was there before. -/
theorem lock_of_rollback (locked : (cell.rollback me).lock = some (other, draft)) :
    cell.lock = some (other, draft) ∧ ¬ cell.HeldBy me := by
  by_cases held : cell.HeldBy me
  · rcases held with ⟨old, mine⟩
    rw [rollback_of_lock mine] at locked
    cases locked
  · rw [rollback_of_not_heldBy held] at locked
    exact ⟨locked, held⟩

theorem lock_of_commit (locked : (cell.commit me).lock = some (other, draft)) :
    cell.lock = some (other, draft) ∧ ¬ cell.HeldBy me := by
  by_cases held : cell.HeldBy me
  · rcases held with ⟨old, mine⟩
    rw [commit_of_lock mine] at locked
    cases locked
  · rw [commit_of_not_heldBy held] at locked
    exact ⟨locked, held⟩

theorem carries_of_commit (carried : (cell.commit me).Carries row) : cell.Carries row := by
  by_cases held : cell.HeldBy me
  · rcases held with ⟨draft, locked⟩
    rw [commit_of_lock locked] at carried
    cases carried with
    | committed same => exact .draft (locked.trans (congrArg (fun draft => some (me, draft)) same))
    | draft same => cases same
  · rwa [commit_of_not_heldBy held] at carried

theorem carries_of_rollback (carried : (cell.rollback me).Carries row) : cell.Carries row := by
  cases carried with
  | committed same => exact .committed (rollback_committed.symm.trans same)
  | draft same => exact .draft (lock_of_rollback same).1

end Cell

/-! ## Tables -/

/-- A finite table of cells.  The proof fields say that every key is listed
once and that a key that is not listed has no row. -/
structure Table (Key Row Holder : Type) where
  keys : List Key
  cell : Key -> Cell Row Holder
  nodup : keys.Nodup
  complete : forall key, key ∉ keys -> cell key = Cell.vacant

namespace Table

set_option linter.unusedSectionVars false

variable {Key Row Holder : Type} [DecidableEq Key] [DecidableEq Holder]

def empty : Table Key Row Holder where
  keys := []
  cell := fun _ => Cell.vacant
  nodup := List.nodup_nil
  complete := fun _ _ => rfl

/-- Change cells one by one; a missing row stays missing. -/
def mapCells (table : Table Key Row Holder) (change : Key -> Cell Row Holder -> Cell Row Holder)
    (missing : forall key, change key Cell.vacant = Cell.vacant) : Table Key Row Holder where
  keys := table.keys
  cell := fun key => change key (table.cell key)
  nodup := table.nodup
  complete := fun key absent => by rw [table.complete key absent, missing]

def commit (me : Holder) (table : Table Key Row Holder) : Table Key Row Holder :=
  table.mapCells (fun _ => Cell.commit me) (fun _ => rfl)

def rollback (me : Holder) (table : Table Key Row Holder) : Table Key Row Holder :=
  table.mapCells (fun _ => Cell.rollback me) (fun _ => rfl)

/-- Lock a listed row with a new uncommitted version. -/
def writeWhere (me : Holder) (selected : Key -> Bool) (draft : Key -> Option Row)
    (table : Table Key Row Holder) : Table Key Row Holder where
  keys := table.keys
  cell := fun key =>
    if key ∈ table.keys ∧ selected key then (table.cell key).write me (draft key) else table.cell key
  nodup := table.nodup
  complete := fun key absent => by simp [absent, table.complete key absent]

/-- Lock a key with a row, listing the key if it is new. -/
def put (me : Holder) (key : Key) (row : Row) (table : Table Key Row Holder) :
    Table Key Row Holder where
  keys := if key ∈ table.keys then table.keys else key :: table.keys
  cell := fun other => if other = key then (table.cell key).write me (some row) else table.cell other
  nodup := by
    by_cases listed : key ∈ table.keys
    · simpa only [if_pos listed] using table.nodup
    · simpa only [if_neg listed] using List.nodup_cons.mpr ⟨listed, table.nodup⟩
  complete := by
    intro other absent
    by_cases listed : key ∈ table.keys
    · simp only [if_pos listed] at absent
      have different : other ≠ key := fun same => absent (same ▸ listed)
      simpa only [if_neg different] using table.complete other absent
    · simp only [if_neg listed, List.mem_cons, not_or] at absent
      simpa only [if_neg absent.1] using table.complete other absent.2

/-- The rows that a statement of `me` selects, by key. -/
def selects (me : Holder) (condition : Row -> Bool) (table : Table Key Row Holder) (key : Key) : Bool :=
  match (table.cell key).visible me with
  | some row => condition row
  | none => false

def matching (me : Holder) (condition : Row -> Bool) (table : Table Key Row Holder) : List Key :=
  table.keys.filter (table.selects me condition)

/-- `SELECT ... WHERE condition`. -/
def select (me : Holder) (condition : Row -> Bool) (table : Table Key Row Holder) : List Row :=
  (table.matching me condition).filterMap (fun key => (table.cell key).visible me)

/-- The rows of the last committed versions. -/
def committedRows (condition : Row -> Bool) (table : Table Key Row Holder) : List Row :=
  (table.keys.filterMap (fun key => (table.cell key).committed)).filter condition

/-- `SELECT ... WHERE condition ORDER BY before LIMIT limit FOR UPDATE SKIP LOCKED`:
the keys that get locked. -/
def claimable (me : Holder) (condition : Row -> Bool) (before : Row -> Row -> Bool) (limit : Nat)
    (table : Table Key Row Holder) : List (Key × Row) :=
  let free := (table.matching me condition).filter (fun key => !(table.cell key).heldByOther me)
  let rows := free.filterMap (fun key => ((table.cell key).visible me).map (fun row => (key, row)))
  (rows.insertionSort (fun left right => before left.2 right.2)).take limit

/-- `UPDATE ... SET values WHERE id IN (SELECT ... LIMIT limit FOR UPDATE SKIP
LOCKED) RETURNING *`: lock the claimable rows and change them. -/
def updateClaimable (me : Holder) (condition : Row -> Bool) (before : Row -> Row -> Bool)
    (limit : Nat) (values : Row -> Row) (table : Table Key Row Holder) :
    Table Key Row Holder × List Row :=
  let claimed := table.claimable me condition before limit
  (table.writeWhere me (fun key => decide (key ∈ claimed.map Prod.fst))
    (fun key => ((table.cell key).visible me).map values), claimed.map (fun entry => values entry.2))

/-- `SELECT ... FOR UPDATE SKIP LOCKED` locks the rows with their own values. -/
def selectForUpdate (me : Holder) (condition : Row -> Bool) (before : Row -> Row -> Bool)
    (limit : Nat) (table : Table Key Row Holder) : Table Key Row Holder × List Row :=
  table.updateClaimable me condition before limit id

/-- `UPDATE ... SET values WHERE condition RETURNING *`, or `none` while a
selected row is locked by another transaction. -/
def update (me : Holder) (condition : Row -> Bool) (values : Row -> Row)
    (table : Table Key Row Holder) : Option (Table Key Row Holder × List Row) :=
  if (table.matching me condition).any (fun key => (table.cell key).heldByOther me) then none
  else some
    (table.writeWhere me (table.selects me condition)
      (fun key => ((table.cell key).visible me).map values),
    (table.select me condition).map values)

/-- `DELETE ... WHERE condition`, or `none` while it has to wait. -/
def delete (me : Holder) (condition : Row -> Bool) (table : Table Key Row Holder) :
    Option (Table Key Row Holder) :=
  if (table.matching me condition).any (fun key => (table.cell key).heldByOther me) then none
  else some (table.writeWhere me (table.selects me condition) (fun _ => none))

/-! ## What one statement does to one row -/

variable {me : Holder} {condition : Row -> Bool} {table after : Table Key Row Holder} {key : Key}

theorem listed_of_visible {row : Row} (seen : (table.cell key).visible me = some row) :
    key ∈ table.keys := by
  by_contra absent
  rw [table.complete key absent] at seen
  cases seen

theorem listed_of_carries {row : Row} (carried : (table.cell key).Carries row) : key ∈ table.keys := by
  by_contra absent
  rw [table.complete key absent] at carried
  cases carried with
  | committed same => cases same
  | draft same => cases same

theorem selects_eq_true_iff :
    table.selects me condition key = true <->
      Exists fun row => (table.cell key).visible me = some row ∧ condition row = true := by
  cases seen : (table.cell key).visible me <;> simp [selects, seen]

theorem mem_matching :
    key ∈ table.matching me condition <->
      Exists fun row => (table.cell key).visible me = some row ∧ condition row = true := by
  rw [matching, List.mem_filter, selects_eq_true_iff]
  constructor
  · exact fun listed => listed.2
  · exact fun found => ⟨listed_of_visible found.choose_spec.1, found⟩

theorem mem_select {row : Row} :
    row ∈ table.select me condition <->
      Exists fun key => (table.cell key).visible me = some row ∧ condition row = true := by
  constructor
  · intro listed
    rcases List.mem_filterMap.mp listed with ⟨key, found, seen⟩
    rcases mem_matching.mp found with ⟨other, seen', holds⟩
    rw [seen] at seen'
    cases seen'
    exact ⟨key, seen, holds⟩
  · rintro ⟨key, seen, holds⟩
    exact List.mem_filterMap.mpr ⟨key, mem_matching.mpr ⟨row, seen, holds⟩, seen⟩

theorem select_eq : table.select me condition =
    (table.keys.filterMap (fun key => (table.cell key).visible me)).filter condition := by
  have filtered : forall keys : List Key,
      (keys.filter (table.selects me condition)).filterMap (fun key => (table.cell key).visible me) =
        (keys.filterMap (fun key => (table.cell key).visible me)).filter condition := by
    intro keys
    induction keys with
    | nil => rfl
    | cons key rest inductionHypothesis =>
        cases found : (table.cell key).visible me with
        | none => simp [selects, found, ← inductionHypothesis]
        | some row => cases selected : condition row <;> simp [selects, found, selected, ← inductionHypothesis]
  exact filtered table.keys

/-- Rows that carry their own key are listed once. -/
theorem select_keys_nodup {id : Row -> Key}
    (keyed : forall key row, (table.cell key).visible me = some row -> id row = key) :
    ((table.select me condition).map id).Nodup := by
  have keys : (table.select me condition).map id = table.matching me condition := by
    rw [select, List.map_filterMap]
    calc (table.matching me condition).filterMap (fun key => ((table.cell key).visible me).map id)
        = (table.matching me condition).filterMap some := by
          refine List.filterMap_congr (fun key found => ?_)
          rcases mem_matching.mp found with ⟨row, seen, _⟩
          rw [seen, Option.map_some, keyed key row seen]
      _ = table.matching me condition := List.filterMap_some
  rw [keys]
  exact table.nodup.filter _

/-- A transaction that has written nothing sees what is committed. -/
theorem select_of_unlocked (unlocked : forall key, ¬ (table.cell key).HeldBy me) :
    table.select me condition = table.committedRows condition := by
  have visible : (fun key => (table.cell key).visible me) = fun key => (table.cell key).committed :=
    funext (fun key => Cell.visible_of_not_heldBy (unlocked key))
  rw [select_eq, visible, committedRows]

theorem writeWhere_cell (selected : Key -> Bool) (draft : Key -> Option Row) :
    (table.writeWhere me selected draft).cell key =
      if key ∈ table.keys ∧ selected key then (table.cell key).write me (draft key)
      else table.cell key :=
  rfl

@[simp] theorem put_cell_self (row : Row) :
    (table.put me key row).cell key = (table.cell key).write me (some row) :=
  if_pos rfl

theorem put_cell_of_ne {other : Key} (row : Row) (different : other ≠ key) :
    (table.put me key row).cell other = table.cell other :=
  if_neg different

@[simp] theorem commit_cell : (table.commit me).cell key = (table.cell key).commit me := rfl

@[simp] theorem rollback_cell : (table.rollback me).cell key = (table.cell key).rollback me := rfl

/-- How a statement of `me` may have changed one cell: not at all, or by
locking a row it selected, which no other transaction held. -/
inductive Touched (me : Holder) (condition : Row -> Bool) (values : Row -> Option Row)
    (before after : Cell Row Holder) : Prop where
  | kept (unselected : forall row, before.visible me = some row -> condition row = false)
      (same : after = before)
  | written (row : Row) (seen : before.visible me = some row) (selected : condition row = true)
      (free : before.heldByOther me = false) (same : after = before.write me (values row))

theorem any_heldByOther_eq_false
    (free : ¬ ((table.matching me condition).any fun key => (table.cell key).heldByOther me) = true)
    {row : Row} (seen : (table.cell key).visible me = some row) (selected : condition row = true) :
    (table.cell key).heldByOther me = false := by
  rw [Bool.not_eq_true, List.any_eq_false] at free
  simpa using free key (mem_matching.mpr ⟨row, seen, selected⟩)

theorem touched_writeWhere {values : Row -> Option Row} {draft : Key -> Option Row}
    (free : ¬ ((table.matching me condition).any fun key => (table.cell key).heldByOther me) = true)
    (drafts : forall row, (table.cell key).visible me = some row -> draft key = values row) :
    Touched me condition values (table.cell key)
      ((table.writeWhere me (table.selects me condition) draft).cell key) := by
  rw [writeWhere_cell]
  by_cases selected : table.selects me condition key = true
  · rcases selects_eq_true_iff.mp selected with ⟨row, seen, holds⟩
    rw [if_pos ⟨listed_of_visible seen, selected⟩, drafts row seen]
    exact .written row seen holds (any_heldByOther_eq_false free seen holds) rfl
  · rw [if_neg (fun both => selected both.2)]
    refine .kept (fun row seen => ?_) rfl
    rw [Bool.eq_false_iff]
    exact fun holds => selected (selects_eq_true_iff.mpr ⟨row, seen, holds⟩)

theorem update_touched {values : Row -> Row} {rows : List Row}
    (executed : table.update me condition values = some (after, rows)) (key : Key) :
    Touched me condition (fun row => some (values row)) (table.cell key) (after.cell key) := by
  unfold update at executed
  split at executed
  · cases executed
  · cases executed
    refine touched_writeWhere ‹_› (fun row seen => ?_)
    rw [seen, Option.map_some]

theorem delete_touched (executed : table.delete me condition = some after) (key : Key) :
    Touched me condition (fun _ => none) (table.cell key) (after.cell key) := by
  unfold delete at executed
  split at executed
  · cases executed
  · cases executed
    exact touched_writeWhere ‹_› (fun _ _ => rfl)

theorem update_keys {values : Row -> Row} {rows : List Row}
    (executed : table.update me condition values = some (after, rows)) : after.keys = table.keys := by
  unfold update at executed
  split at executed
  · cases executed
  · cases executed
    rfl

theorem delete_keys (executed : table.delete me condition = some after) : after.keys = table.keys := by
  unfold delete at executed
  split at executed
  · cases executed
  · cases executed
    rfl

theorem update_rows {values : Row -> Row} {rows : List Row}
    (executed : table.update me condition values = some (after, rows)) :
    rows = (table.select me condition).map values := by
  unfold update at executed
  split at executed
  · cases executed
  · cases executed
    rfl

theorem mem_update_rows {values : Row -> Row} {rows : List Row} {row : Row}
    (executed : table.update me condition values = some (after, rows)) :
    row ∈ rows <-> Exists fun key => Exists fun old =>
      (table.cell key).visible me = some old ∧ condition old = true ∧ values old = row := by
  unfold update at executed
  split at executed
  · cases executed
  · cases executed
    rw [List.mem_map]
    constructor
    · rintro ⟨old, listed, rfl⟩
      rcases mem_select.mp listed with ⟨key, seen, holds⟩
      exact ⟨key, old, seen, holds, rfl⟩
    · rintro ⟨key, old, seen, holds, rfl⟩
      exact ⟨old, mem_select.mpr ⟨key, seen, holds⟩, rfl⟩

/-- Where one key only has a row that is selected, this row is all that is found. -/
theorem rows_at {keys : List Key} {rows : Key -> Option Row} {target : Key} (nodup : keys.Nodup)
    (complete : forall key, key ∉ keys -> rows key = none)
    (only : forall key row, rows key = some row -> condition row = true -> key = target) :
    (keys.filterMap rows).filter condition = match rows target with
      | some row => if condition row then [row] else []
      | none => [] := by
  have absent : forall others : List Key, target ∉ others -> (others.filterMap rows).filter condition = [] := by
    intro others without
    refine List.filter_eq_nil_iff.mpr (fun row listed matched => ?_)
    rcases List.mem_filterMap.mp listed with ⟨key, member, found⟩
    exact without (only key row found matched ▸ member)
  by_cases listed : target ∈ keys
  · rcases List.append_of_mem listed with ⟨left, right, rfl⟩
    have apart := List.nodup_append.mp nodup
    have before := absent left (fun member => apart.2.2 target member target List.mem_cons_self rfl)
    have after := absent right (List.nodup_cons.mp apart.2.1).1
    rw [List.filterMap_append, List.filter_append, before, List.nil_append]
    cases found : rows target with
    | none => rw [List.filterMap_cons_none found, after]
    | some row => rw [List.filterMap_cons_some found, List.filter_cons, after]
  · rw [absent keys listed, complete target listed]

/-- A query that can select one key only: it returns its row or nothing. -/
theorem select_at {target : Key}
    (only : forall key row, (table.cell key).visible me = some row -> condition row = true ->
      key = target) :
    table.select me condition = match (table.cell target).visible me with
      | some row => if condition row then [row] else []
      | none => [] := by
  rw [select_eq]
  exact rows_at table.nodup (fun key absent => by rw [table.complete key absent]; rfl) only

theorem committedRows_at {target : Key}
    (only : forall key row, (table.cell key).committed = some row -> condition row = true -> key = target) :
    table.committedRows condition = match (table.cell target).committed with
      | some row => if condition row then [row] else []
      | none => [] :=
  rows_at table.nodup (fun key absent => by rw [table.complete key absent]; rfl) only

/-- An update that can select one key only: it returns its row or nothing. -/
theorem update_at {values : Row -> Row} {rows : List Row} {target : Key}
    (executed : table.update me condition values = some (after, rows))
    (only : forall key row, (table.cell key).visible me = some row -> condition row = true ->
      key = target) :
    rows = match (table.cell target).visible me with
      | some row => if condition row then [values row] else []
      | none => [] := by
  have rowsEq : rows = (table.select me condition).map values := by
    unfold update at executed
    split at executed
    · cases executed
    · cases executed
      rfl
  rw [rowsEq, select_at only]
  cases (table.cell target).visible me with
  | none => rfl
  | some row => cases holds : condition row <;> simp [holds]

theorem mem_claimable {before : Row -> Row -> Bool} {limit : Nat} {row : Row}
    (claimed : (key, row) ∈ table.claimable me condition before limit) :
    (table.cell key).visible me = some row ∧ condition row = true ∧
      (table.cell key).heldByOther me = false := by
  have listed := (List.mem_insertionSort _).mp (List.mem_of_mem_take claimed)
  rcases List.mem_filterMap.mp listed with ⟨found, free, mapped⟩
  rcases List.mem_filter.mp free with ⟨selected, unlocked⟩
  rcases Option.map_eq_some_iff.mp mapped with ⟨old, seen, same⟩
  cases same
  rcases mem_matching.mp selected with ⟨row', seen', holds⟩
  rw [seen] at seen'
  cases seen'
  exact ⟨seen, holds, by simpa using unlocked⟩

/-- Each key is claimed once. -/
theorem claimable_nodup (me : Holder) (condition : Row -> Bool) (before : Row -> Row -> Bool) (limit : Nat)
    (table : Table Key Row Holder) :
    ((table.claimable me condition before limit).map Prod.fst).Nodup := by
  have free : (((table.matching me condition).filter (fun key => !(table.cell key).heldByOther me)).filterMap
      (fun key => ((table.cell key).visible me).map (fun row => (key, row)))).map Prod.fst |>.Nodup := by
    rw [List.map_filterMap]
    refine List.Nodup.filterMap ?_ ((table.nodup.filter _).filter _)
    intro first second key found found'
    simp only [Option.mem_def, Option.map_map, Option.map_eq_some_iff, Function.comp_apply] at found found'
    rcases found with ⟨_, _, rfl⟩
    rcases found' with ⟨_, _, rfl⟩
    rfl
  have sorted := ((List.perm_insertionSort (fun left right => before left.2 right.2) _).map Prod.fst).nodup_iff.mpr
    free
  exact sorted.sublist ((List.take_sublist _ _).map _)

/-- `FOR UPDATE SKIP LOCKED` locks the rows it claims and leaves every other
cell alone. -/
theorem updateClaimable_cell (me : Holder) (condition : Row -> Bool) (before : Row -> Row -> Bool)
    (limit : Nat) (values : Row -> Row) (table : Table Key Row Holder) (key : Key) :
    ((table.updateClaimable me condition before limit values).1.cell key = table.cell key ∧
      forall row, (key, row) ∉ table.claimable me condition before limit) ∨
    Exists fun row => (key, row) ∈ table.claimable me condition before limit ∧
      (table.updateClaimable me condition before limit values).1.cell key =
        (table.cell key).write me (some (values row)) := by
  by_cases claimed : key ∈ (table.claimable me condition before limit).map Prod.fst
  · rcases List.mem_map.mp claimed with ⟨⟨found, row⟩, listed, rfl⟩
    have seen := (mem_claimable listed).1
    refine .inr ⟨row, listed, ?_⟩
    simp only [updateClaimable, writeWhere_cell, decide_eq_true_eq]
    rw [if_pos ⟨listed_of_visible seen, claimed⟩, seen, Option.map_some]
  · refine .inl ⟨?_, fun row listed => claimed (List.mem_map_of_mem listed)⟩
    simp only [updateClaimable, writeWhere_cell, decide_eq_true_eq]
    rw [if_neg (fun both => claimed both.2)]

theorem mem_updateClaimable_rows {before : Row -> Row -> Bool} {limit : Nat} {values : Row -> Row}
    {row : Row} :
    row ∈ (table.updateClaimable me condition before limit values).2 <->
      Exists fun key => Exists fun old =>
        (key, old) ∈ table.claimable me condition before limit ∧ values old = row := by
  simp only [updateClaimable, List.mem_map, Prod.exists]

/-! ## What other transactions keep -/

/-- The rows locked by `me` are the same before and after. -/
def Frame (me : Holder) (before after : Table Key Row Holder) : Prop :=
  forall key, (before.cell key).HeldBy me ∨ (after.cell key).HeldBy me ->
    after.cell key = before.cell key

theorem Frame.refl (me : Holder) (table : Table Key Row Holder) : Frame me table table :=
  fun _ _ => rfl

theorem Frame.trans {first second third : Table Key Row Holder} (before : Frame me first second)
    (after : Frame me second third) : Frame me first third := by
  intro key held
  cases held with
  | inl first =>
      have same := before key (.inl first)
      rw [after key (.inl (same ▸ first)), same]
  | inr third =>
      have same := after key (.inr third)
      rw [same, before key (.inr (same ▸ third))]

/-- A cell whose change keeps the locks of all others. -/
theorem frame_of_cells {other : Holder}
    (cells : forall key, after.cell key = table.cell key ∨
      (¬ (table.cell key).HeldBy other ∧ ¬ (after.cell key).HeldBy other)) :
    Frame other table after := by
  intro key held
  rcases cells key with same | ⟨before, later⟩
  · exact same
  · exact (held.elim before later).elim

theorem not_heldBy_write {cell : Cell Row Holder} {other : Holder} {draft : Option Row}
    (different : other ≠ me) : ¬ (cell.write me draft).HeldBy other := by
  rintro ⟨_, locked⟩
  exact different (Prod.mk.inj (Option.some.inj locked)).1.symm

theorem not_heldBy_of_free {cell : Cell Row Holder} {other : Holder} (different : other ≠ me)
    (free : cell.heldByOther me = false) : ¬ cell.HeldBy other := by
  intro held
  rcases Cell.heldByOther_eq_false_iff.mp free with unlocked | mine
  · rcases held with ⟨draft, locked⟩
    rw [unlocked] at locked
    cases locked
  · exact different (held.unique mine)

theorem frame_of_touched {other : Holder} {values : Row -> Option Row} (different : other ≠ me)
    (touched : forall key, Touched me condition values (table.cell key) (after.cell key)) :
    Frame other table after := by
  apply frame_of_cells
  intro key
  cases touched key with
  | kept _ same => exact .inl same
  | written row _ _ free same =>
      exact .inr ⟨not_heldBy_of_free different free, same ▸ not_heldBy_write different⟩

theorem frame_commit {other : Holder} (different : other ≠ me) :
    Frame other table (table.commit me) := by
  apply frame_of_cells
  intro key
  by_cases held : (table.cell key).HeldBy me
  · refine .inr ⟨fun theirs => different (theirs.unique held), ?_⟩
    rcases held with ⟨draft, locked⟩
    rw [commit_cell, Cell.commit_of_lock locked]
    rintro ⟨_, impossible⟩
    cases impossible
  · exact .inl (Cell.commit_of_not_heldBy held)

theorem frame_rollback {other : Holder} (different : other ≠ me) :
    Frame other table (table.rollback me) := by
  apply frame_of_cells
  intro key
  by_cases held : (table.cell key).HeldBy me
  · refine .inr ⟨fun theirs => different (theirs.unique held), ?_⟩
    rcases held with ⟨draft, locked⟩
    rw [rollback_cell, Cell.rollback_of_lock locked]
    rintro ⟨_, impossible⟩
    cases impossible
  · exact .inl (Cell.rollback_of_not_heldBy held)

theorem frame_put {other : Holder} {row : Row} (different : other ≠ me)
    (free : (table.cell key).heldByOther me = false) : Frame other table (table.put me key row) := by
  apply frame_of_cells
  intro found
  by_cases same : found = key
  · subst same
    rw [put_cell_self]
    exact .inr ⟨not_heldBy_of_free different free, not_heldBy_write different⟩
  · exact .inl (put_cell_of_ne row same)

theorem frame_updateClaimable {other : Holder} {before : Row -> Row -> Bool} {limit : Nat}
    {values : Row -> Row} (different : other ≠ me) :
    Frame other table (table.updateClaimable me condition before limit values).1 := by
  apply frame_of_cells
  intro key
  rcases updateClaimable_cell me condition before limit values table key with
    ⟨same, _⟩ | ⟨row, claimed, same⟩
  · exact .inl same
  · exact .inr ⟨not_heldBy_of_free different (mem_claimable claimed).2.2,
      same ▸ not_heldBy_write different⟩

end Table
end Concurrency
end Payments
