import MeadowOps.Lib.Runs
import MeadowOps.Reporting.Sync

/-!
# The reporting layer mirrors the live snapshots

Calls of `sync_reporting_layer` with one lag, between which the live table may change in the days that
are not synced yet.
-/

namespace MeadowOps.Reporting

open Db Lib MeadowOps.Flow

/-! ## One day -/

/-- What the reporting layer shows of a live row, when `e` is frozen on the day `first`. -/
def mirrorRow (e : String × String) (first : Date) (r : InventorySnapshot) :
    Option ReportingInventorySnapshot :=
  syncRow (some (e.1, some e.2)) (decide (r.snapshotDate = first)) r.snapshotDate r

/-- The reporting rows are those of the live rows through a day. -/
def CopiedThrough (live : List InventorySnapshot) (e : String × String) (first day : Date)
    (reporting : List ReportingInventorySnapshot) : Prop :=
  reporting.Perm ((live.filter (·.snapshotDate ≤ day)).filterMap (mirrorRow e first))

theorem mirrorRow_grain {e : String × String} {first : Date} {r : InventorySnapshot}
    {v : ReportingInventorySnapshot} (h : mirrorRow e first r = some v) :
    v.grain = InventorySnapshot.grain r := by
  rw [mirrorRow, syncRow] at h
  split at h
  · split at h
    · cases h
      rfl
    · cases h
  · cases h
    rfl

theorem CopiedThrough.date_le {live : List InventorySnapshot} {e : String × String} {first day : Date}
    {reporting : List ReportingInventorySnapshot} (h : CopiedThrough live e first day reporting) :
    ∀ v ∈ reporting, v.snapshotDate ≤ day := by
  intro v mem
  obtain ⟨r, hr, copied⟩ := List.mem_filterMap.1 (h.mem_iff.1 mem)
  have grain := mirrorRow_grain copied
  simp only [ReportingInventorySnapshot.grain, InventorySnapshot.grain, Prod.mk.injEq] at grain
  rw [grain.1]
  simpa using (List.mem_filter.1 hr).2

theorem keyed_filterMap_mirrorRow {live : List InventorySnapshot}
    (h : Keyed InventorySnapshot.grain live) (e : String × String) (first : Date) :
    Keyed ReportingInventorySnapshot.grain (live.filterMap (mirrorRow e first)) := by
  rw [Keyed, List.nodup_iff_pairwise_ne, List.pairwise_map] at h ⊢
  refine h.filterMap _ ?_
  intro r r' ne v copied v' copied'
  rw [mirrorRow_grain copied, mirrorRow_grain copied']
  exact ne

theorem keyed_perm {rows rows' : List InventorySnapshot} (perm : rows.Perm rows')
    (h : Keyed InventorySnapshot.grain rows') : Keyed InventorySnapshot.grain rows :=
  (perm.map _).nodup_iff.2 h

variable (order : RowOrder InventorySnapshot) {live : List InventorySnapshot} {first day : Date}

/-- The rows of `day` are appended, all of them. -/
theorem copyDay_copied (keyed : Keyed InventorySnapshot.grain live) {e : String × String} {l : SyncLoop}
    (conflict : l.conflictEntity = some (e.1, some e.2))
    (h : CopiedThrough live e first (day - 1) l.reporting) :
    ∃ values, l.copyDay (decide (day = first)) day (order.rows (live.filter (·.snapshotDate = day))) =
        { l with rowsSynced := l.rowsSynced + values.length, reporting := l.reporting ++ values } ∧
      CopiedThrough live e first day (l.reporting ++ values) := by
  let today := order.rows (live.filter (·.snapshotDate = day))
  have dated : ∀ r ∈ today, r.snapshotDate = day := by
    intro r mem
    rw [RowOrder.mem_rows] at mem
    exact of_decide_eq_true (List.mem_filter.1 mem).2
  have same : today.filterMap (syncRow l.conflictEntity (decide (day = first)) day) =
      today.filterMap (mirrorRow e first) := by
    apply List.filterMap_congr
    intro r mem
    rw [mirrorRow, conflict, dated r mem]
  have distinct : Keyed ReportingInventorySnapshot.grain (today.filterMap (mirrorRow e first)) := by
    apply keyed_filterMap_mirrorRow
    apply keyed_perm (order.perm _)
    exact keyed.sublist (List.filter_sublist.map _)
  have fresh : ∀ v ∈ today.filterMap (mirrorRow e first),
      v.grain ∉ l.reporting.map ReportingInventorySnapshot.grain := by
    intro v mem taken
    obtain ⟨r, hr, copied⟩ := List.mem_filterMap.1 mem
    obtain ⟨v', mem', grain'⟩ := List.mem_map.1 taken
    have before := h.date_le v' mem'
    rw [mirrorRow_grain copied] at grain'
    simp only [ReportingInventorySnapshot.grain, InventorySnapshot.grain, Prod.mk.injEq] at grain'
    rw [grain'.1, dated r hr] at before
    exact absurd before (not_le.2 (sub_one_lt day))
  refine ⟨today.filterMap (mirrorRow e first), ?_, ?_⟩
  · simp only [SyncLoop.copyDay]
    rw [same, insertNew_of_fresh distinct fresh]
  · have rows := (filter_day_perm InventorySnapshot.snapshotDate day live).filterMap (mirrorRow e first)
    rw [List.filterMap_append] at rows
    exact (h.append ((order.perm _).filterMap _)).trans rows

theorem earliestLive_eq_some {d : Date} (h : earliestLive live = some d) :
    (∃ r ∈ live, r.snapshotDate = d) ∧ ∀ r ∈ live, d ≤ r.snapshotDate := by
  obtain ⟨mem, least⟩ := List.min?_eq_some_iff.1 h
  exact ⟨List.mem_map.1 mem, fun r hr => least _ (List.mem_map_of_mem hr)⟩

theorem earliestLive_of_least {d : Date} {r : InventorySnapshot} (mem : r ∈ live)
    (here : r.snapshotDate = d) (least : ∀ r ∈ live, d ≤ r.snapshotDate) : earliestLive live = some d := by
  refine List.min?_eq_some_iff.2 ⟨List.mem_map.2 ⟨r, mem, here⟩, ?_⟩
  intro b hb
  obtain ⟨r, hr, rfl⟩ := List.mem_map.1 hb
  exact least r hr

/-! ## The loop -/

/-- The rows through `day` are there, with `frozen` as the row of the designation. -/
structure Designated (live : List InventorySnapshot) (first day : Date)
    (conflictEntity : Option ConflictEntity) (reporting : List ReportingInventorySnapshot)
    (frozen : InventorySnapshot) : Prop where
  mem : frozen ∈ live
  date : frozen.snapshotDate = first
  entity : conflictEntity = some (frozen.productId, some frozen.warehouseId)
  copied : CopiedThrough live (entityOf frozen) first day reporting

/-- The loop when it has done the days through `day`; it began as `l₀`. -/
structure LoopAt (live : List InventorySnapshot) (first : Date) (l₀ : SyncLoop) (day : Date)
    (l : SyncLoop) : Prop where
  pending : day < first → l.conflictEntity = none ∧ l.reporting = []
  designated : first ≤ day → ∃ frozen, Designated live first day l.conflictEntity l.reporting frozen
  columns : l.state.conflictEntity = l.conflictEntity
  counted : l.reporting.length + l₀.rowsSynced = l₀.reporting.length + l.rowsSynced
  kept : ∀ e, l₀.conflictEntity = some e → l.conflictEntity = some e
  grown : l₀.reporting <+: l.reporting

theorem copiedThrough_before (least : ∀ r ∈ live, first ≤ r.snapshotDate) (e : String × String) :
    CopiedThrough live e first (first - 1) [] := by
  have none : live.filter (·.snapshotDate ≤ first - 1) = [] := by
    rw [List.filter_eq_nil_iff]
    intro r hr before
    exact absurd (of_decide_eq_true before) (not_le.2 ((sub_one_lt first).trans_le (least r hr)))
  rw [CopiedThrough, none]
  exact List.Perm.nil

/-- The loop's variables once the entity of `frozen` is designated. -/
def SyncLoop.freeze (l : SyncLoop) (frozen : InventorySnapshot) : SyncLoop :=
  { l with
    conflictEntity := some (frozen.productId, some frozen.warehouseId)
    state := { l.state with
      frozenConflictProductId := some frozen.productId
      frozenConflictWarehouseId := some frozen.warehouseId } }

/-- On the day of the first rows an entity among them is designated. -/
theorem syncDay_designates {l : SyncLoop} (conflict : l.conflictEntity = none)
    (rows : ∃ r ∈ live, r.snapshotDate = day) :
    ∃ frozen ∈ live, frozen.snapshotDate = day ∧ syncDay order live l day =
      (l.freeze frozen).copyDay true day (order.rows (live.filter (·.snapshotDate = day))) := by
  obtain ⟨r, hr, date⟩ := rows
  have today : r ∈ order.rows (live.filter (·.snapshotDate = day)) := by simp [hr, date]
  obtain ⟨e, picked⟩ := pickConflictEntity_isSome
    (List.ne_nil_of_mem (List.mem_map_of_mem (f := entityOf) today))
  obtain ⟨frozen, frozenToday, rfl⟩ := List.mem_map.1 (pickConflictEntity_mem picked)
  rw [RowOrder.mem_rows, List.mem_filter, decide_eq_true_iff] at frozenToday
  have designated : designate l.conflictEntity (order.rows (live.filter (·.snapshotDate = day))) =
      some (entityOf frozen) := by
    rw [designate, if_pos conflict, picked]
  refine ⟨frozen, frozenToday.1, frozenToday.2, ?_⟩
  simp only [syncDay, designated]
  rfl

theorem syncDay_designated {l : SyncLoop} {e : ConflictEntity} (conflict : l.conflictEntity = some e) :
    syncDay order live l day =
      l.copyDay false day (order.rows (live.filter (·.snapshotDate = day))) := by
  have none : designate l.conflictEntity (order.rows (live.filter (·.snapshotDate = day))) = none := by
    rw [designate, conflict]
    exact if_neg (Option.some_ne_none e)
  simp only [syncDay, none]

theorem syncDay_loopAt {l₀ l : SyncLoop} (keyed : Keyed InventorySnapshot.grain live)
    (earliest : earliestLive live = some first) (later : first ≤ day)
    (h : LoopAt live first l₀ (day - 1) l) : LoopAt live first l₀ day (syncDay order live l day) := by
  obtain ⟨rows, least⟩ := earliestLive_eq_some earliest
  rcases later.eq_or_lt with rfl | later
  · obtain ⟨conflict, empty⟩ := h.pending (sub_one_lt first)
    obtain ⟨frozen, mem, date, run⟩ := syncDay_designates order conflict rows
    have before : CopiedThrough live (entityOf frozen) first (first - 1) (l.freeze frozen).reporting := by
      rw [show (l.freeze frozen).reporting = [] from empty]
      exact copiedThrough_before least _
    obtain ⟨values, copy, copied⟩ :=
      copyDay_copied order (l := l.freeze frozen) keyed rfl before
    rw [decide_eq_true rfl] at copy
    rw [run, copy]
    constructor
    case pending => exact fun h => absurd h (lt_irrefl _)
    case designated => exact fun _ => ⟨frozen, mem, date, rfl, copied⟩
    case columns => rfl
    case counted =>
      have counted := h.counted
      simp only [SyncLoop.freeze, List.length_append]
      omega
    case kept =>
      intro e was
      rw [h.kept e was] at conflict
      cases conflict
    case grown => exact h.grown.trans (List.prefix_append ..)
  · obtain ⟨frozen, mem, date, entity, before⟩ := h.designated (Int.le_sub_one_of_lt later)
    obtain ⟨values, copy, copied⟩ := copyDay_copied order keyed entity before
    rw [decide_eq_false later.ne'] at copy
    rw [syncDay_designated order entity, copy]
    constructor
    case pending => exact fun h => absurd h later.not_gt
    case designated => exact fun _ => ⟨frozen, mem, date, entity, copied⟩
    case columns => exact h.columns
    case counted =>
      have counted := h.counted
      simp only [List.length_append]
      omega
    case kept => exact h.kept
    case grown => exact h.grown.trans (List.prefix_append ..)

/-! ## One call -/

def lastSynced (db : ReportingDb) : Option Date := (lockSyncState db).lastSyncedSimulationDate

def conflictEntityOf (db : ReportingDb) : Option ConflictEntity := (lockSyncState db).conflictEntity

/-- What holds between the calls. -/
structure Synced (db : ReportingDb) : Prop where
  keyed : Keyed InventorySnapshot.grain db.live
  unsynced : lastSynced db = none → conflictEntityOf db = none ∧ db.reporting = []
  synced : ∀ last, lastSynced db = some last → ∃ first frozen, earliestLive db.live = some first ∧
    first ≤ last ∧ Designated db.live first last (conflictEntityOf db) db.reporting frozen

/-- What no later call takes back. -/
structure Advanced (db db' : ReportingDb) : Prop where
  lastSynced : ∀ last, lastSynced db = some last → ∃ last', lastSynced db' = some last' ∧ last ≤ last'
  conflict : ∀ e, conflictEntityOf db = some e → conflictEntityOf db' = some e
  reporting : db.reporting <+: db'.reporting

theorem Advanced.refl (db : ReportingDb) : Advanced db db :=
  ⟨fun last h => ⟨last, h, le_rfl⟩, fun _ h => h, List.prefix_rfl⟩

theorem Advanced.trans {db db' db'' : ReportingDb} (h : Advanced db db') (h' : Advanced db' db'') :
    Advanced db db'' where
  lastSynced last was := by
    obtain ⟨mid, now, le⟩ := h.lastSynced last was
    obtain ⟨last', now', le'⟩ := h'.lastSynced mid now
    exact ⟨last', now', le.trans le'⟩
  conflict e was := h'.conflict e (h.conflict e was)
  reporting := h.reporting.trans h'.reporting

/-- A call and what it returns. -/
structure CallSpec (d target : Date) (db : ReportingDb) (result : ReportingSyncResult)
    (db' : ReportingDb) : Prop where
  date : result.simulationDate = d
  synced : Synced db'
  advanced : Advanced db db'
  reported : result.lastSyncedSimulationDate = lastSynced db' ∧
    result.conflictEntity = conflictEntityOf db'
  counted : db'.reporting.length = db.reporting.length + result.rowsSynced
  through : lastSynced db' = lastSynced db ∨ lastSynced db' = some target

/-- A call that finds nothing to copy. -/
theorem CallSpec.idle {target d : Date} {db : ReportingDb} (h : Synced db) :
    CallSpec d target db ⟨d, target, (lockSyncState db).lastSyncedSimulationDate, 0,
      (lockSyncState db).conflictEntity⟩ { db with syncState := some (lockSyncState db) } where
  date := rfl
  synced := ⟨h.keyed, h.unsynced, h.synced⟩
  advanced := ⟨fun last was => ⟨last, was, le_rfl⟩, fun _ was => was, List.prefix_rfl⟩
  reported := ⟨rfl, rfl⟩
  counted := rfl
  through := .inl rfl

/-- The loop of a call begins after the last synced day, or on the first day of all. -/
theorem syncStart_loopAt {db : ReportingDb} {target start : Date} (h : Synced db)
    (started : syncStart (lockSyncState db) db.live target = some start) :
    ∃ first, earliestLive db.live = some first ∧ first ≤ start ∧ start ≤ target ∧
      (∀ last, lastSynced db = some last → last < start) ∧
      LoopAt db.live first ⟨conflictEntityOf db, 0, lockSyncState db, db.reporting⟩ (start - 1)
        ⟨conflictEntityOf db, 0, lockSyncState db, db.reporting⟩ := by
  cases was : (lockSyncState db).lastSyncedSimulationDate with
  | some last =>
    simp only [syncStart, was] at started
    split at started
    · cases started
    · rename_i behind
      cases started
      obtain ⟨first, frozen, earliest, le, designated⟩ := h.synced last was
      refine ⟨first, earliest, le.trans (lt_add_one last).le, Int.add_one_le_of_lt (not_le.1 behind), ?_, ?_⟩
      · intro last' same
        rw [lastSynced, was] at same
        cases same
        exact lt_add_one last
      · rw [add_sub_cancel_right]
        exact ⟨fun before => absurd before (not_lt.2 le), fun _ => ⟨frozen, designated⟩, rfl, rfl,
          fun _ h => h, List.prefix_rfl⟩
  | none =>
    simp only [syncStart, was] at started
    split at started
    · cases started
    · rename_i earliest found
      split at started
      · cases started
      · rename_i reachable
        cases started
        refine ⟨start, found, le_rfl, not_lt.1 reachable, ?_, ?_⟩
        · intro last' same
          rw [lastSynced, was] at same
          cases same
        · exact ⟨fun _ => h.unsynced was,
            fun before => absurd before (not_le.2 (sub_one_lt start)), rfl, rfl, fun _ h => h,
            List.prefix_rfl⟩

/-- What the loop over the days leaves, when it has come to its target. -/
theorem finish_spec {db : ReportingDb} (h : Synced db) {target d : Date} {l : SyncLoop}
    (earliest : earliestLive db.live = some first) (through : first ≤ target)
    (behind : ∀ last, lastSynced db = some last → last ≤ target)
    (done : LoopAt db.live first ⟨conflictEntityOf db, 0, lockSyncState db, db.reporting⟩ target l) :
    CallSpec d target db (l.finish d target db).1 (l.finish d target db).2 where
  date := rfl
  synced := by
    refine ⟨h.keyed, fun never => absurd never (Option.some_ne_none target), ?_⟩
    intro last now
    cases now
    obtain ⟨frozen, designated⟩ := done.designated through
    rw [← done.columns] at designated
    exact ⟨first, frozen, earliest, through, designated⟩
  advanced :=
    ⟨fun last was => ⟨target, rfl, behind last was⟩, fun e was => done.columns.trans (done.kept e was),
      done.grown⟩
  reported := ⟨rfl, done.columns.symm⟩
  counted := done.counted
  through := .inr rfl

/-- A call meets its specification, whatever was synced before. -/
theorem syncReportingLayer_spec {db : ReportingDb} (d lag : ℤ) (h : Synced db) :
    CallSpec d (targetSyncDate d lag) db (syncReportingLayer order d lag db).1
      (syncReportingLayer order d lag db).2 := by
  cases started : syncStart (lockSyncState db) db.live (targetSyncDate d lag) with
  | none =>
    simp only [syncReportingLayer, started]
    exact CallSpec.idle h
  | some start =>
    obtain ⟨first, earliest, le, reach, behind, begun⟩ := syncStart_loopAt h started
    have done := foldl_daysThrough (f := syncDay order db.live)
      (fun day l after _ before => syncDay_loopAt order h.keyed earliest (le.trans after) before) begun
      (reach.trans (lt_add_one _).le)
    simp only [syncReportingLayer, started]
    exact finish_spec h earliest (le.trans reach) (fun last was => (behind last was).le.trans reach) done

/-! ## The rows, entity by entity -/

def ReportingInventorySnapshot.entity (v : ReportingInventorySnapshot) : String × String :=
  (v.productId, v.warehouseId)

@[simp] theorem copyRow_entity (d : Date) (q : ℤ) (r : InventorySnapshot) :
    (copyRow d q r).entity = entityOf r := rfl

/-- The reporting rows are the live rows from `first` through `last`, but for the entity of `frozen`. -/
structure Mirrored (db : ReportingDb) (last first : Date) (frozen : InventorySnapshot) : Prop where
  earliest : earliestLive db.live = some first
  started : first ≤ last
  live : frozen ∈ db.live
  designationDay : frozen.snapshotDate = first
  designated : conflictEntityOf db = some (frozen.productId, some frozen.warehouseId)
  frozenRow : db.reporting.filter (·.entity = entityOf frozen) =
    [copyRow first (frozen.quantityOnHand + 25) frozen]
  otherRows : (db.reporting.filter (·.entity ≠ entityOf frozen)).Perm
    ((db.live.filter fun r => first ≤ r.snapshotDate ∧ r.snapshotDate ≤ last ∧
      entityOf r ≠ entityOf frozen).map fun r => copyRow r.snapshotDate r.quantityOnHand r)

/-- A row of another entity is copied as it is. -/
theorem mirrorRow_other {first : Date} {e : String × String} {r : InventorySnapshot}
    (h : entityOf r ≠ e) : mirrorRow e first r = some (copyRow r.snapshotDate r.quantityOnHand r) := by
  refine if_neg fun same => h ?_
  rw [Option.some.injEq, Prod.mk.injEq, Option.some.injEq] at same
  exact Prod.ext same.1.symm same.2.symm

/-- The frozen entity shows on the day of its designation only. -/
theorem mirrorRow_frozen {first : Date} (r : InventorySnapshot) :
    mirrorRow (entityOf r) first r =
      if r.snapshotDate = first then some (copyRow r.snapshotDate (r.quantityOnHand + 25) r) else none := by
  simp [mirrorRow, syncRow, entityOf, knownConflictQtyOffset]

theorem filter_mirrorRow_eq {frozen : InventorySnapshot} (r : InventorySnapshot) :
    (mirrorRow (entityOf frozen) frozen.snapshotDate r).filter (·.entity = entityOf frozen) =
      if InventorySnapshot.grain r = InventorySnapshot.grain frozen then
        some (copyRow r.snapshotDate (r.quantityOnHand + 25) r)
      else none := by
  by_cases same : entityOf r = entityOf frozen
  · have grain : InventorySnapshot.grain r = InventorySnapshot.grain frozen ↔
        r.snapshotDate = frozen.snapshotDate := by
      rw [entityOf, entityOf, Prod.mk.injEq] at same
      simp [InventorySnapshot.grain, same]
    rw [← same, mirrorRow_frozen]
    simp only [grain]
    split
    · exact Option.filter_some_pos (decide_eq_true rfl)
    · rfl
  · have grain : InventorySnapshot.grain r ≠ InventorySnapshot.grain frozen := by
      intro h
      rw [InventorySnapshot.grain, InventorySnapshot.grain, Prod.mk.injEq] at h
      exact same h.2
    rw [mirrorRow_other same, if_neg grain]
    exact Option.filter_some_neg (by simp [same])

theorem filter_mirrorRow_ne {first : Date} {e : String × String} (r : InventorySnapshot) :
    (mirrorRow e first r).filter (·.entity ≠ e) =
      if entityOf r ≠ e then some (copyRow r.snapshotDate r.quantityOnHand r) else none := by
  by_cases same : entityOf r = e
  · rw [← same, mirrorRow_frozen, if_neg (not_not.2 rfl)]
    split
    · exact Option.filter_some_neg (by simp)
    · rfl
  · rw [mirrorRow_other same, if_pos same]
    exact Option.filter_some_pos (decide_eq_true same)

theorem filterMap_ite {α β : Type} (p : α → Prop) [DecidablePred p] (f : α → β) (l : List α) :
    l.filterMap (fun a => if p a then some (f a) else none) = (l.filter (p ·)).map f := by
  rw [← List.filterMap_eq_map, List.filterMap_filter]
  simp

theorem Designated.mirrored {db : ReportingDb} {last : Date} {frozen : InventorySnapshot}
    (keyed : Keyed InventorySnapshot.grain db.live) (earliest : earliestLive db.live = some first)
    (started : first ≤ last)
    (h : Designated db.live first last (conflictEntityOf db) db.reporting frozen) :
    Mirrored db last first frozen where
  earliest := earliest
  started := started
  live := h.mem
  designationDay := h.date
  designated := h.entity
  frozenRow := by
    have rows := h.copied.filter (·.entity = entityOf frozen)
    have here : frozen ∈ db.live.filter (·.snapshotDate ≤ last) := by
      rw [List.mem_filter, h.date]
      exact ⟨h.mem, decide_eq_true started⟩
    rw [List.filter_filterMap, ← h.date] at rows
    simp only [filter_mirrorRow_eq] at rows
    have distinct : Keyed InventorySnapshot.grain (db.live.filter (·.snapshotDate ≤ last)) :=
      keyed.sublist (List.filter_sublist.map _)
    rw [filterMap_ite, distinct.filter_key here] at rows
    rw [← h.date]
    exact rows.eq_singleton
  otherRows := by
    have rows := h.copied.filter (·.entity ≠ entityOf frozen)
    rw [List.filter_filterMap] at rows
    simp only [filter_mirrorRow_ne] at rows
    rw [filterMap_ite, List.filter_filter] at rows
    have same : db.live.filter (fun r => decide (entityOf r ≠ entityOf frozen) &&
        decide (r.snapshotDate ≤ last)) = db.live.filter fun r => first ≤ r.snapshotDate ∧
          r.snapshotDate ≤ last ∧ entityOf r ≠ entityOf frozen := by
      apply List.filter_congr
      intro r hr
      simp [(earliestLive_eq_some earliest).2 r hr, Bool.and_comm]
    rw [← same]
    exact rows

/-! ## Runs -/

/-- The tables, and what the calls have returned. -/
structure SyncSession where
  db : ReportingDb
  results : List ReportingSyncResult

inductive SyncLabel where
  /-- The live table changes. -/
  | live (rows : List InventorySnapshot)
  | sync (order : RowOrder InventorySnapshot) (simulationDate : Date)

/-- The rows of the days that are synced stay as they are. -/
def Settled (last : Option Date) (rows rows' : List InventorySnapshot) : Prop :=
  ∀ l, last = some l →
    (rows'.filter (·.snapshotDate ≤ l)).Perm (rows.filter (·.snapshotDate ≤ l))

def SyncSession.call (s : SyncSession) (order : RowOrder InventorySnapshot) (d lag : ℤ) : SyncSession :=
  let called := syncReportingLayer order d lag s.db
  ⟨called.2, s.results ++ [called.1]⟩

def SyncStep (lag : ℤ) (s : SyncSession) (l : SyncLabel) (s' : SyncSession) : Prop :=
  match l with
  | .live rows => Keyed InventorySnapshot.grain rows ∧ Settled (lastSynced s.db) s.db.live rows ∧
      s' = { s with db := { s.db with live := rows } }
  | .sync order d => (∀ r ∈ s.results, r.simulationDate ≤ d) ∧ s' = s.call order d lag

/-- A reporting layer that was never synced. -/
structure NeverSynced (s : SyncSession) : Prop where
  keyed : Keyed InventorySnapshot.grain s.db.live
  state : s.db.syncState = none ∨ s.db.syncState = some .new
  reporting : s.db.reporting = []
  results : s.results = []

def syncRuns (lag : ℤ) : System SyncSession SyncLabel := ⟨NeverSynced, SyncStep lag⟩

/-- What a session keeps. -/
structure SessionInv (lag : ℤ) (s : SyncSession) : Prop where
  synced : Synced s.db
  called : ∀ last, lastSynced s.db = some last → ∃ r ∈ s.results, last = r.simulationDate - lag
  latest : ∀ r, s.results.getLast? = some r → (∀ q ∈ s.results, q.simulationDate ≤ r.simulationDate) ∧
    r.lastSyncedSimulationDate = lastSynced s.db ∧ r.conflictEntity = conflictEntityOf s.db
  counted : (s.results.map (·.rowsSynced)).sum = s.db.reporting.length

theorem NeverSynced.inv {lag : ℤ} {s : SyncSession} (h : NeverSynced s) : SessionInv lag s := by
  have state : lockSyncState s.db = .new := by
    rcases h.state with none | new
    · rw [lockSyncState, none]
      rfl
    · rw [lockSyncState, new]
      rfl
  have last : lastSynced s.db = none := by
    rw [lastSynced, state]
    rfl
  constructor
  case synced =>
    refine ⟨h.keyed, fun _ => ⟨?_, h.reporting⟩, fun l now => ?_⟩
    · rw [conflictEntityOf, state]
      rfl
    · rw [last] at now
      cases now
  case called =>
    intro l now
    rw [last] at now
    cases now
  case latest =>
    intro r now
    rw [h.results] at now
    cases now
  case counted =>
    rw [h.results, h.reporting]
    rfl

/-- Rows of days that are not synced come and go. -/
theorem Synced.edit {db : ReportingDb} {rows : List InventorySnapshot} (h : Synced db)
    (keyed : Keyed InventorySnapshot.grain rows) (settled : Settled (lastSynced db) db.live rows) :
    Synced { db with live := rows } := by
  refine ⟨keyed, h.unsynced, ?_⟩
  intro last now
  have now : lastSynced db = some last := now
  obtain ⟨first, frozen, earliest, started, designated⟩ := h.synced last now
  have perm := settled last now
  have kept : ∀ r, r.snapshotDate ≤ last → (r ∈ rows ↔ r ∈ db.live) := by
    intro r le
    have mem := perm.mem_iff (a := r)
    simpa [le] using mem
  have least := (earliestLive_eq_some earliest).2
  have frozenHere : frozen ∈ rows :=
    (kept frozen (designated.date.le.trans started)).2 designated.mem
  refine ⟨first, frozen, earliestLive_of_least frozenHere designated.date ?_, started, frozenHere,
    designated.date, designated.entity, ?_⟩
  · intro r hr
    rcases le_or_gt r.snapshotDate last with le | gt
    · exact least r ((kept r le).1 hr)
    · exact started.trans gt.le
  · exact designated.copied.trans (perm.symm.filterMap _)

/-- A call or an edit keeps the copies those of the synced days, and takes nothing back. -/
theorem SessionInv.step {lag : ℤ} {s s' : SyncSession} {l : SyncLabel} (h : SessionInv lag s)
    (step : SyncStep lag s l s') : SessionInv lag s' ∧ Advanced s.db s'.db := by
  cases l with
  | live rows =>
    obtain ⟨keyed, settled, rfl⟩ := step
    exact ⟨⟨h.synced.edit keyed settled, h.called, h.latest, h.counted⟩,
      ⟨fun last was => ⟨last, was, le_rfl⟩, fun _ was => was, List.prefix_rfl⟩⟩
  | sync order d =>
    obtain ⟨dates, rfl⟩ := step
    have call := syncReportingLayer_spec order d lag h.synced
    refine ⟨?_, call.advanced⟩
    constructor
    case synced => exact call.synced
    case called =>
      intro last now
      rcases call.through with same | target
      · obtain ⟨r, mem, rfl⟩ := h.called last (same.symm.trans now)
        exact ⟨r, List.mem_append_left _ mem, rfl⟩
      · have now : some (targetSyncDate d lag) = some last := target.symm.trans now
        refine ⟨_, List.mem_append_right _ (List.mem_singleton_self _), ?_⟩
        rw [call.date]
        exact (Option.some.inj now).symm
    case latest =>
      intro r final
      rw [SyncSession.call, List.getLast?_concat] at final
      cases final
      refine ⟨fun q mem => ?_, call.reported⟩
      rw [call.date]
      rcases List.mem_append.1 mem with before | now
      · exact dates q before
      · rw [List.mem_singleton.1 now, call.date]
    case counted =>
      rw [SyncSession.call, List.map_append, List.sum_append, h.counted]
      exact call.counted.symm

/-- By induction over the calls and edits. -/
theorem sessionInv_of_run {lag : ℤ} {s : SyncSession} (h : (syncRuns lag).Reachable s) :
    SessionInv lag s := by
  refine h.invariant (fun s start => ?_) (fun s l s' _ inv _ step => ?_)
  · exact NeverSynced.inv start
  · exact (inv.step step).1

/-- What holds in every state of a run. -/
structure ReportingLaw (lag : ℤ) (s : SyncSession) : Prop where
  unsynced : lastSynced s.db = none → conflictEntityOf s.db = none ∧ s.db.reporting = []
  mirrored : ∀ last, lastSynced s.db = some last → ∃ first frozen, Mirrored s.db last first frozen
  lagged : ∀ last r, lastSynced s.db = some last → s.results.getLast? = some r →
    last ≤ r.simulationDate - lag
  reported : ∀ r, s.results.getLast? = some r → r.lastSyncedSimulationDate = lastSynced s.db ∧
    r.conflictEntity = conflictEntityOf s.db
  counted : (s.results.map (·.rowsSynced)).sum = s.db.reporting.length

theorem SessionInv.law {lag : ℤ} {s : SyncSession} (h : SessionInv lag s) : ReportingLaw lag s where
  unsynced := h.synced.unsynced
  mirrored := by
    intro last now
    obtain ⟨first, frozen, earliest, started, designated⟩ := h.synced.synced last now
    exact ⟨first, frozen, designated.mirrored h.synced.keyed earliest started⟩
  lagged := by
    intro last r now final
    obtain ⟨q, mem, rfl⟩ := h.called last now
    exact sub_le_sub_right ((h.latest r final).1 q mem) lag
  reported := fun r final => (h.latest r final).2
  counted := h.counted

/-- In every run the reporting layer mirrors the live snapshots through the last synced day, which is
behind by the lag, and no later step takes anything back. -/
theorem reporting_mirrors_live (lag : ℤ) {s : SyncSession} (h : (syncRuns lag).Reachable s) :
    ReportingLaw lag s ∧ ∀ s', ((syncRuns lag).after s).Reachable s' → Advanced s.db s'.db := by
  refine ⟨(sessionInv_of_run h).law, fun s' later => ?_⟩
  refine (System.Reach.later (R := fun s s' => Advanced s.db s'.db) (fun s => .refl s.db)
    (fun s₁ s₂ s₃ => Advanced.trans) (fun s l s' reached _ step => ?_) h later).2
  exact ((sessionInv_of_run reached).step step).2

/-- Two products on two days, synced after a gap. -/
def twoDays : SyncSession where
  db := ⟨[⟨1, "B", "W", 7, 0⟩, ⟨1, "A", "W", 10, 2⟩, ⟨3, "A", "W", 11, 0⟩, ⟨3, "B", "W", 8, 0⟩], [], none⟩
  results := []

/-- The copies are those of the days synced, the conflict aside. -/
theorem reporting_mirrors_live_twoDays :
    ReportingLaw 2 (twoDays.call .inserted 6 2) ∧
      (∀ s', ((syncRuns 2).after (twoDays.call .inserted 6 2)).Reachable s' →
        Advanced (twoDays.call .inserted 6 2).db s'.db) ∧
      (twoDays.call .inserted 6 2).db.reporting =
        [⟨1, "B", "W", 7, 0⟩, ⟨1, "A", "W", 35, 2⟩, ⟨3, "B", "W", 8, 0⟩] := by
  have start : NeverSynced twoDays := by
    refine ⟨?_, .inl rfl, rfl, rfl⟩
    rw [Keyed]
    decide
  have run : (syncRuns 2).Reachable (twoDays.call .inserted 6 2) :=
    .next (l := .sync .inserted 6) (.start start) trivial
      ⟨fun _ mem => absurd mem List.not_mem_nil, rfl⟩
  obtain ⟨law, later⟩ := reporting_mirrors_live 2 run
  exact ⟨law, later, by decide⟩

end MeadowOps.Reporting
