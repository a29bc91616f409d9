import Mathlib.Algebra.Ring.Nat
import Payments.Concurrency.RowLocks

namespace Payments
namespace Concurrency

/-!
# Queues shared by several claimers

Transactions claim rows of one table with `ORDER BY ... LIMIT ... FOR UPDATE
SKIP LOCKED` and change them so that they fulfil the condition no longer.
Each claimer then takes the next rows of one common queue, whether the
claimers before it have committed or still hold their locks.
-/

namespace Table

set_option linter.unusedSectionVars false

variable {Key Row Holder : Type} [DecidableEq Key] [DecidableEq Holder]
  {condition : Row -> Bool} {before : Row -> Row -> Bool} {table after : Table Key Row Holder} {me other : Holder}

/-! ## The queue of a table -/

/-- The row of a cell, when nobody holds its lock and it fulfils the condition. -/
def waiting (condition : Row -> Bool) (cell : Cell Row Holder) : Option Row :=
  match cell.lock with
  | none => cell.committed.filter condition
  | some _ => none

def available (condition : Row -> Bool) (table : Table Key Row Holder) : List (Key × Row) :=
  table.keys.filterMap (fun key => (waiting condition (table.cell key)).map (fun row => (key, row)))

/-- The available rows in the order of the claims. -/
def queue (condition : Row -> Bool) (before : Row -> Row -> Bool) (table : Table Key Row Holder) :
    List (Key × Row) :=
  (table.available condition).insertionSort (fun left right => before left.2 right.2)

/-- The order of the queue is total. -/
structure Orders (before : Row -> Row -> Bool) : Prop where
  total : forall left right, before left right = true ∨ before right left = true
  trans : forall first second third, before first second = true -> before second third = true ->
    before first third = true

/-- No two available rows share their place in the order. -/
def Ranked (condition : Row -> Bool) (before : Row -> Row -> Bool) (table : Table Key Row Holder) : Prop :=
  forall left right, left ∈ table.available condition -> right ∈ table.available condition ->
    before left.2 right.2 = true -> before right.2 left.2 = true -> left = right

theorem waiting_eq_some_iff {cell : Cell Row Holder} {row : Row} :
    waiting condition cell = some row <-> cell = ⟨some row, none⟩ ∧ condition row = true := by
  rcases cell with ⟨committed, _ | holder⟩
  · simp [waiting, Option.filter_eq_some_iff]
  · simp [waiting]

theorem mem_available {entry : Key × Row} :
    entry ∈ table.available condition <->
      table.cell entry.1 = ⟨some entry.2, none⟩ ∧ condition entry.2 = true := by
  rw [available, List.mem_filterMap]
  constructor
  · rintro ⟨key, _, found⟩
    rcases Option.map_eq_some_iff.mp found with ⟨row, waits, rfl⟩
    exact waiting_eq_some_iff.mp waits
  · rintro ⟨cell, holds⟩
    have waits : waiting condition (table.cell entry.1) = some entry.2 := waiting_eq_some_iff.mpr ⟨cell, holds⟩
    refine ⟨entry.1, ?_, by rw [waits, Option.map_some]⟩
    by_contra absent
    rw [table.complete _ absent] at cell
    cases cell

theorem mem_queue (before : Row -> Row -> Bool) {entry : Key × Row} :
    entry ∈ table.queue condition before <->
      table.cell entry.1 = ⟨some entry.2, none⟩ ∧ condition entry.2 = true :=
  (List.mem_insertionSort _).trans mem_available

theorem available_nodup (condition : Row -> Bool) (table : Table Key Row Holder) :
    ((table.available condition).map Prod.fst).Nodup := by
  rw [available, List.map_filterMap]
  refine List.Nodup.filterMap ?_ table.nodup
  intro first second key found found'
  simp only [Option.mem_def, Option.map_map, Option.map_eq_some_iff, Function.comp_apply] at found found'
  rcases found with ⟨_, _, rfl⟩
  rcases found' with ⟨_, _, rfl⟩
  rfl

theorem queue_nodup (condition : Row -> Bool) (before : Row -> Row -> Bool) (table : Table Key Row Holder) :
    ((table.queue condition before).map Prod.fst).Nodup :=
  ((List.perm_insertionSort _ _).map Prod.fst).nodup_iff.mpr (table.available_nodup condition)

theorem queue_sorted (orders : Orders before) (table : Table Key Row Holder) :
    (table.queue condition before).Pairwise (fun left right => before left.2 right.2 = true) := by
  have _ : Std.Total (fun left right : Key × Row => before left.2 right.2 = true) :=
    ⟨fun left right => orders.total left.2 right.2⟩
  have _ : IsTrans (Key × Row) (fun left right => before left.2 right.2 = true) :=
    ⟨fun first second third => orders.trans first.2 second.2 third.2⟩
  exact List.pairwise_insertionSort _ _

/-- A claimer without locks takes the front of the queue. -/
theorem claimable_eq (fresh : forall key, ¬ (table.cell key).HeldBy me) (limit : Nat) :
    table.claimable me condition before limit = (table.queue condition before).take limit := by
  rw [claimable, queue]
  congr 2
  rw [available, matching, List.filter_filter, List.filterMap_filter]
  congr 1
  funext key
  have seen := Cell.visible_of_not_heldBy (fresh key)
  have free := fresh key
  rw [selects, seen]
  generalize table.cell key = cell at free
  rcases cell with ⟨_ | row, _ | ⟨holder, draft⟩⟩
  · rfl
  · simp [waiting]
  · cases holds : condition row <;> simp [waiting, Cell.heldByOther, holds, Option.filter]
  · have different : holder ≠ me := fun same => free ⟨draft, by rw [same]⟩
    cases holds : condition row <;> simp [waiting, Cell.heldByOther, different]

/-! ## One claim -/

/-- A claim of one transaction: how many rows it takes, what it makes of them,
and whether it commits before the next claim. -/
structure Claimer (Row Holder : Type) where
  holder : Holder
  limit : Nat
  values : Row -> Row
  commits : Bool

/-- The claim, followed by its commit or not, with the rows it returns. -/
def claim_once (condition : Row -> Bool) (before : Row -> Row -> Bool) (claimer : Claimer Row Holder)
    (table : Table Key Row Holder) : Table Key Row Holder × List Row :=
  let updated := table.updateClaimable claimer.holder condition before claimer.limit claimer.values
  (if claimer.commits then updated.1.commit claimer.holder else updated.1, updated.2)

/-- A transaction that stays open holds what it has claimed. -/
def Claimer.holds (claimer : Claimer Row Holder) : List Holder :=
  if claimer.commits then [] else [claimer.holder]

variable {claimer : Claimer Row Holder}

theorem Claimer.eq_of_holds {holder : Holder} (holds : holder ∈ claimer.holds) : holder = claimer.holder := by
  rw [Claimer.holds] at holds
  split at holds
  · cases holds
  · exact List.mem_singleton.mp holds

/-- The new version of a claimed row: committed, or held by the claimer. -/
def Taken (holders : List Holder) (row : Row) (cell : Cell Row Holder) : Prop :=
  cell = ⟨some row, none⟩ ∨ Exists fun holder => holder ∈ holders ∧ cell.lock = some (holder, some row)

theorem claim_once_rows (fresh : forall key, ¬ (table.cell key).HeldBy claimer.holder) :
    (table.claim_once condition before claimer).2 =
      ((table.queue condition before).take claimer.limit).map (fun entry => claimer.values entry.2) := by
  rw [claim_once, ← claimable_eq fresh]
  rfl

theorem claim_once_taken (fresh : forall key, ¬ (table.cell key).HeldBy claimer.holder) {entry : Key × Row}
    (taken : entry ∈ (table.queue condition before).take claimer.limit) :
    Taken claimer.holds (claimer.values entry.2) ((table.claim_once condition before claimer).1.cell entry.1) := by
  rw [← claimable_eq fresh] at taken
  rcases table.updateClaimable_cell claimer.holder condition before claimer.limit claimer.values entry.1 with
    ⟨_, never⟩ | ⟨row, listed, written⟩
  · exact absurd taken (never entry.2)
  · have same : row = entry.2 := Option.some.inj ((mem_claimable listed).1.symm.trans (mem_claimable taken).1)
    subst same
    have locked : ((table.updateClaimable claimer.holder condition before claimer.limit claimer.values).1.cell
        entry.1).lock = some (claimer.holder, some (claimer.values entry.2)) := by rw [written]; rfl
    rw [claim_once, Claimer.holds]
    split
    · exact .inl (Cell.commit_of_lock locked)
    · exact .inr ⟨claimer.holder, List.mem_singleton_self _, locked⟩

theorem claim_once_cell (fresh : forall key, ¬ (table.cell key).HeldBy claimer.holder) {key : Key}
    (free : key ∉ ((table.queue condition before).take claimer.limit).map Prod.fst) :
    (table.claim_once condition before claimer).1.cell key = table.cell key := by
  rw [← claimable_eq fresh] at free
  rcases table.updateClaimable_cell claimer.holder condition before claimer.limit claimer.values key with
    ⟨same, _⟩ | ⟨row, listed, _⟩
  · rw [claim_once]
    split
    · refine (congrArg (Cell.commit claimer.holder) same).trans ?_
      exact Cell.commit_of_not_heldBy (fresh key)
    · exact same
  · exact absurd (List.mem_map_of_mem listed) free

/-- A taken row waits no longer. -/
theorem waiting_of_taken {holders : List Holder} {row : Row} {cell : Cell Row Holder}
    (taken : Taken holders row cell) (changed : condition row = false) : waiting condition cell = none := by
  rcases taken with rfl | ⟨holder, _, locked⟩
  · simp [waiting, changed]
  · simp [waiting, locked]

/-- Another transaction without locks still has none. -/
theorem claim_once_fresh (fresh : forall key, ¬ (table.cell key).HeldBy claimer.holder)
    (different : other ≠ claimer.holder) (others : forall key, ¬ (table.cell key).HeldBy other) (key : Key) :
    ¬ ((table.claim_once condition before claimer).1.cell key).HeldBy other := by
  by_cases taken : key ∈ ((table.queue condition before).take claimer.limit).map Prod.fst
  · rcases List.mem_map.mp taken with ⟨entry, listed, rfl⟩
    rcases claim_once_taken fresh listed with committed | ⟨holder, mine, locked⟩
    · rw [committed]
      rintro ⟨_, impossible⟩
      cases impossible
    · rintro ⟨draft, held⟩
      rw [locked] at held
      cases Claimer.eq_of_holds mine
      exact different (Prod.mk.inj (Option.some.inj held)).1.symm
  · rw [claim_once_cell fresh taken]
    exact others key

/-- What is available after a claim: the rest of the queue. -/
theorem claim_once_available (before : Row -> Row -> Bool)
    (fresh : forall key, ¬ (table.cell key).HeldBy claimer.holder)
    (changed : forall row, condition row = true -> condition (claimer.values row) = false) (entry : Key × Row) :
    entry ∈ (table.claim_once condition before claimer).1.available condition <->
      entry ∈ (table.queue condition before).drop claimer.limit := by
  have nodup := table.queue_nodup condition before
  have split := List.take_append_drop claimer.limit (table.queue condition before)
  rw [← split, List.map_append] at nodup
  have apart := (List.nodup_append.mp nodup).2.2
  by_cases taken : entry.1 ∈ ((table.queue condition before).take claimer.limit).map Prod.fst
  · refine iff_of_false (fun waits => ?_) (fun left => ?_)
    · rcases List.mem_map.mp taken with ⟨claimed, listed, same⟩
      have holds := ((mem_queue before).mp (List.mem_of_mem_take listed)).2
      have gone := waiting_of_taken (claim_once_taken fresh listed) (changed _ holds)
      rw [same, waiting_eq_some_iff.mpr (mem_available.mp waits)] at gone
      cases gone
    · exact apart _ taken _ (List.mem_map_of_mem left) rfl
  · rw [mem_available, claim_once_cell fresh taken, ← mem_queue before, ← split, List.mem_append]
    refine or_iff_right (fun listed => taken (List.mem_map_of_mem listed)) |>.trans ?_
    rw [split]

/-- The next claimer finds what is left of the queue. -/
theorem claim_once_queue (orders : Orders before) (ranked : Ranked condition before table)
    (fresh : forall key, ¬ (table.cell key).HeldBy claimer.holder)
    (changed : forall row, condition row = true -> condition (claimer.values row) = false) :
    (table.claim_once condition before claimer).1.queue condition before =
        (table.queue condition before).drop claimer.limit ∧
      Ranked condition before (table.claim_once condition before claimer).1 := by
  have left := claim_once_available before fresh changed
  have still : forall entry, entry ∈ (table.queue condition before).drop claimer.limit ->
      entry ∈ table.available condition :=
    fun entry listed => (List.mem_insertionSort _).mp (List.mem_of_mem_drop listed)
  have ranked' : Ranked condition before (table.claim_once condition before claimer).1 :=
    fun first second listed listed' =>
      ranked first second (still first ((left first).mp listed)) (still second ((left second).mp listed'))
  refine ⟨?_, ranked'⟩
  have nodup : ((table.queue condition before).drop claimer.limit).Nodup :=
    (List.Nodup.of_map _ (table.queue_nodup condition before)).sublist (List.drop_sublist _ _)
  have nodup' := List.Nodup.of_map _ ((table.claim_once condition before claimer).1.available_nodup condition)
  have perm := (List.perm_insertionSort (fun left right : Key × Row => before left.2 right.2) _).trans
    ((List.perm_ext_iff_of_nodup nodup' nodup).mpr left)
  refine List.Perm.eq_of_pairwise ?_ (queue_sorted orders _)
    ((queue_sorted orders table).sublist (List.drop_sublist _ _)) perm
  intro first second listed listed' forward backward
  exact ranked' first second ((List.mem_insertionSort _).mp listed) ((left second).mpr listed') forward backward

/-! ## Several claims -/

/-- Claims one after the other, with the rows that each of them returns. -/
def claim_all (condition : Row -> Bool) (before : Row -> Row -> Bool) :
    List (Claimer Row Holder) -> Table Key Row Holder -> Table Key Row Holder × List (List Row)
  | [], table => (table, [])
  | claimer :: rest, table =>
      let claimed := table.claim_once condition before claimer
      let others := claim_all condition before rest claimed.1
      (others.1, claimed.2 :: others.2)

/-- The claimers that are still open commit. -/
def commit_all : List (Claimer Row Holder) -> Table Key Row Holder -> Table Key Row Holder
  | [], table => table
  | claimer :: rest, table => commit_all rest (if claimer.commits then table else table.commit claimer.holder)

/-- The parts of a queue that the claimers take, as they change them. -/
def shares : List (Claimer Row Holder) -> List (Key × Row) -> List (Key × Row)
  | [], _ => []
  | claimer :: rest, queue =>
      (queue.take claimer.limit).map (fun entry => (entry.1, claimer.values entry.2)) ++
        shares rest (queue.drop claimer.limit)

variable {claimers : List (Claimer Row Holder)}

/-- Different transactions without locks, each of which changes what it claims. -/
structure Claiming (condition : Row -> Bool) (claimers : List (Claimer Row Holder)) (table : Table Key Row Holder) :
    Prop where
  distinct : (claimers.map Claimer.holder).Nodup
  fresh : forall claimer, claimer ∈ claimers -> forall key, ¬ (table.cell key).HeldBy claimer.holder
  changed : forall claimer, claimer ∈ claimers -> forall row, condition row = true ->
    condition (claimer.values row) = false

theorem Claiming.rest (before : Row -> Row -> Bool) (claiming : Claiming condition (claimer :: claimers) table) :
    Claiming condition claimers (table.claim_once condition before claimer).1 where
  distinct := (List.nodup_cons.mp claiming.distinct).2
  fresh := by
    intro other listed
    refine claim_once_fresh (claiming.fresh claimer List.mem_cons_self) (fun same => ?_)
      (claiming.fresh other (List.mem_cons_of_mem _ listed))
    exact (List.nodup_cons.mp claiming.distinct).1 (same ▸ List.mem_map_of_mem listed)
  changed := fun other listed => claiming.changed other (List.mem_cons_of_mem _ listed)

/-- Together the claimers take as much of the queue as their limits allow. -/
theorem shares_keys (claimers : List (Claimer Row Holder)) (rows : List (Key × Row)) :
    (shares claimers rows).map Prod.fst = (rows.take (claimers.map Claimer.limit).sum).map Prod.fst := by
  induction claimers generalizing rows with
  | nil => simp [shares]
  | cons claimer rest inductionHypothesis =>
      rw [shares, List.map_append, inductionHypothesis, List.map_map, List.map_cons, List.sum_cons, List.take_add,
        List.map_append]
      rfl

/-- Forgetting what the claimers make different, the shares are the front of the queue. -/
theorem shares_map {Shown : Type} {shown : Row -> Shown} {claimed : Row -> Shown}
    (alike : forall claimer, claimer ∈ claimers -> forall row, shown (claimer.values row) = claimed row)
    (rows : List (Key × Row)) :
    (shares claimers rows).map (fun entry => (entry.1, shown entry.2)) =
      (rows.take (claimers.map Claimer.limit).sum).map (fun entry => (entry.1, claimed entry.2)) := by
  induction claimers generalizing rows with
  | nil => simp [shares]
  | cons claimer rest inductionHypothesis =>
      have same := alike claimer List.mem_cons_self
      have later := inductionHypothesis (fun other listed => alike other (List.mem_cons_of_mem _ listed))
      rw [shares, List.map_append, later, List.map_map, List.map_cons, List.sum_cons, List.take_add, List.map_append]
      congr 1
      exact List.map_congr_left (fun entry _ => by rw [Function.comp_apply, same])

theorem Taken.mono {holders more : List Holder} {row : Row} {cell : Cell Row Holder} (taken : Taken holders row cell)
    (within : forall holder, holder ∈ holders -> holder ∈ more) : Taken more row cell := by
  rcases taken with committed | ⟨holder, listed, locked⟩
  · exact .inl committed
  · exact .inr ⟨holder, within holder listed, locked⟩

/-- What a sequence of claims returns and leaves in the table. -/
structure Claimed (condition : Row -> Bool) (before : Row -> Row -> Bool) (claimers : List (Claimer Row Holder))
    (table : Table Key Row Holder) (result : Table Key Row Holder × List (List Row)) : Prop where
  rows : result.2.flatten = (shares claimers (table.queue condition before)).map Prod.snd
  taken : forall entry, entry ∈ shares claimers (table.queue condition before) ->
    Taken (claimers.flatMap Claimer.holds) entry.2 (result.1.cell entry.1)
  others : forall key, key ∉ (shares claimers (table.queue condition before)).map Prod.fst ->
    result.1.cell key = table.cell key

theorem claim_all_claimed (orders : Orders before) (ranked : Ranked condition before table)
    (claiming : Claiming condition claimers table) :
    Claimed condition before claimers table (table.claim_all condition before claimers) := by
  induction claimers generalizing table with
  | nil => exact ⟨rfl, (fun entry listed => nomatch listed), fun key _ => rfl⟩
  | cons claimer rest inductionHypothesis =>
      have fresh := claiming.fresh claimer List.mem_cons_self
      rcases claim_once_queue orders ranked fresh (claiming.changed claimer List.mem_cons_self) with ⟨left, ranked'⟩
      rcases inductionHypothesis ranked' (claiming.rest before) with ⟨rows, taken, others⟩
      rw [left] at rows taken others
      have nodup := table.queue_nodup condition before
      rw [← List.take_append_drop claimer.limit (table.queue condition before), List.map_append] at nodup
      have front : ((table.queue condition before).take claimer.limit).map Prod.fst =
          (((table.queue condition before).take claimer.limit).map
            (fun entry => (entry.1, claimer.values entry.2))).map Prod.fst := by
        rw [List.map_map]
        rfl
      refine ⟨?_, ?_, ?_⟩
      · rw [claim_all, List.flatten_cons, rows, claim_once_rows fresh, shares, List.map_append, List.map_map]
        rfl
      · intro entry listed
        rcases List.mem_append.mp listed with first | second
        · -- The claimers that come later leave the rows of this one alone.
          rcases List.mem_map.mp first with ⟨old, claimed, rfl⟩
          have apart : old.1 ∉ (shares rest ((table.queue condition before).drop claimer.limit)).map Prod.fst := by
            rw [shares_keys]
            intro again
            rcases List.mem_map.mp again with ⟨same, later, equal⟩
            refine (List.nodup_append.mp nodup).2.2 old.1 (List.mem_map_of_mem claimed) same.1 ?_ equal.symm
            exact List.mem_map_of_mem (List.mem_of_mem_take later)
          refine (others old.1 apart).symm ▸ (claim_once_taken fresh claimed).mono ?_
          exact fun holder mine => List.mem_append_left _ mine
        · exact (taken entry second).mono (fun holder listed => List.mem_append_right _ listed)
      · intro key unclaimed
        rw [shares, List.map_append, List.mem_append, not_or, ← front] at unclaimed
        exact (others key unclaimed.2).trans (claim_once_cell fresh unclaimed.1)

/-! ## The commits -/

theorem commit_all_taken {row : Row} {key : Key}
    (taken : Taken (claimers.flatMap Claimer.holds) row (table.cell key)) :
    (table.commit_all claimers).cell key = ⟨some row, none⟩ := by
  induction claimers generalizing table with
  | nil =>
      rcases taken with committed | ⟨holder, listed, _⟩
      · exact committed
      · cases listed
  | cons claimer rest inductionHypothesis =>
      refine inductionHypothesis ?_
      cases commits : claimer.commits with
      | true => simpa [Claimer.holds, commits] using taken
      | false =>
          have changed : (table.commit claimer.holder).cell key = (table.cell key).commit claimer.holder := rfl
          simp only [Bool.false_eq_true, if_false, changed]
          rcases taken with committed | ⟨holder, listed, locked⟩
          · exact .inl (by rw [committed]; rfl)
          · by_cases same : holder = claimer.holder
            · exact .inl (Cell.commit_of_lock (same ▸ locked))
            · have free : ¬ (table.cell key).HeldBy claimer.holder := by
                rintro ⟨draft, held⟩
                rw [locked] at held
                exact same (Prod.mk.inj (Option.some.inj held)).1
              rw [Cell.commit_of_not_heldBy free]
              rw [List.flatMap_cons, List.mem_append] at listed
              exact .inr ⟨holder, listed.resolve_left (fun mine => same (Claimer.eq_of_holds mine)), locked⟩

theorem commit_all_kept {key : Key}
    (free : forall claimer, claimer ∈ claimers -> ¬ (table.cell key).HeldBy claimer.holder) :
    (table.commit_all claimers).cell key = table.cell key := by
  induction claimers generalizing table with
  | nil => rfl
  | cons claimer rest inductionHypothesis =>
      have same : (if claimer.commits then table else table.commit claimer.holder).cell key = table.cell key := by
        split
        · rfl
        · exact Cell.commit_of_not_heldBy (free claimer List.mem_cons_self)
      refine (inductionHypothesis (fun other listed => ?_)).trans same
      rw [same]
      exact free other (List.mem_cons_of_mem _ listed)

end Table
end Concurrency
end Payments
