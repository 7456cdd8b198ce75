import MeadowOps.Flow.Snapshots

/-!
# The snapshot and the per-pair queries

The pass writes the rows of the day's active pairs from two grouped queries; the reorder and transfer passes
ask for one pair at a time.
-/

namespace MeadowOps.Flow

open Db Lib

instance (m : Master) (p wh : String) : Decidable (ActivePair m p wh) :=
  inferInstanceAs (Decidable (_ ∧ _))

/-- A row that the pass of day `d` writes. -/
def Refreshed (m : Master) (d : Date) (s : InventorySnapshot) : Prop :=
  s.snapshotDate = d ∧ ActivePair m s.productId s.warehouseId

instance (m : Master) (d : Date) : DecidablePred (Refreshed m d) :=
  fun _ => inferInstanceAs (Decidable (_ ∧ _))

/-- The snapshots after the pass. -/
def snapshotsAfter (env : TickEnv) (d : Date) (w : World) : List InventorySnapshot :=
  (endState (snapshotInventoryPositions env d w)).inventorySnapshot

/-- The row of a pair as the per-pair queries give it. -/
def pairRow (w : World) (d : Date) (p wh : String) : InventorySnapshot where
  snapshotDate := d
  productId := p
  warehouseId := wh
  quantityOnHand := currentInventoryPosition w p wh
  quantityAllocated := allocatedQuantity w p wh

/-- The same with a negative allocation raised to zero. -/
def clampedPairRow (w : World) (d : Date) (p wh : String) : InventorySnapshot :=
  { pairRow w d p wh with quantityAllocated := max (allocatedQuantity w p wh) 0 }

/-- The pass leaves `row` for every active pair, and nothing else changes. -/
structure SnapshotsPairs (row : World → Date → String → String → InventorySnapshot) (env : TickEnv) (d : Date)
    (w : World) : Prop where
  pairs : ∀ p wh, ActivePair w.master p wh →
    (snapshotsAfter env d w).filter (InventorySnapshot.grain · = (d, p, wh)) = [row w d p wh]
  others : (snapshotsAfter env d w).filter (¬ Refreshed w.master d ·) =
    w.inventorySnapshot.filter (¬ Refreshed w.master d ·)
  /-- A second pass, whatever the tables have become, does what one pass would have done. -/
  again : ∀ env' w', w'.master = w.master → w'.inventorySnapshot = snapshotsAfter env d w →
    (snapshotsAfter env' d w').Perm
      (snapshotsAfter env' d { w' with inventorySnapshot := w.inventorySnapshot })

/-! ## The grouped queries -/

/-- The lines of one order, joined with its warehouse. -/
theorem sumWhere_orderLines (p wh : String) (so : SalesOrder) :
    sumWhere (fun r => (r.1.productId, r.2) = (p, wh)) (fun r => r.1.quantityOrdered - r.1.quantityShipped)
      (so.lines.map fun l => (l, so.warehouseId)) =
    if so.warehouseId = wh then openQuantity p so else 0 := by
  rw [sumWhere_eq_sum, List.map_map]
  by_cases here : so.warehouseId = wh
  · rw [if_pos here, openQuantity, sumWhere_eq_sum]
    simp [Function.comp_def, here]
  · rw [if_neg here]
    simp [Function.comp_def, here]

/-- The grouped query and the per-pair query read the same allocation. -/
theorem allocatedByKey_eq (w : World) (p wh : String) :
    (allocatedByKey w).getD (p, wh) 0 = allocatedQuantity w p wh := by
  rw [allocatedByKey, Dict.getD_groupSum, allocatedLines, allocatedQuantity]
  induction w.salesOrder with
  | nil => rfl
  | cons so orders ih =>
    rw [sumWhere_cons, ← ih, List.filter_cons]
    by_cases allocated : so.status.isAllocated = true
    · rw [if_pos allocated, List.flatMap_cons, sumWhere_append, sumWhere_orderLines]
      simp only [allocated, and_true]
    · rw [if_neg allocated, if_neg (fun both => allocated both.2), zero_add]

theorem snapshotRow_eq {w : World} {p wh : String} (nonneg : 0 ≤ currentInventoryPosition w p wh) (d : Date) :
    snapshotRow w d p wh = clampedPairRow w d p wh := by
  rw [snapshotRow, positionByKey_eq, allocatedByKey_eq, max_eq_left nonneg]
  rfl

/-! ## The rows -/

/-- Only rows of the day's active pairs are written. -/
theorem filter_snapshotsAfter (env : TickEnv) (d : Date) (w : World) :
    (snapshotsAfter env d w).filter (¬ Refreshed w.master d ·) =
      w.inventorySnapshot.filter (¬ Refreshed w.master d ·) := by
  rw [snapshotsAfter, snapshotInventoryPositions, endState_ok, upsertSnapshot_eq_upsert]
  refine filter_upsertAll_of_not fun v value s same => ?_
  simp only [List.mem_flatMap, List.mem_map, RowOrder.mem_rows, List.mem_filter] at value
  obtain ⟨_, ⟨a, ⟨product, active⟩, rfl⟩, _, ⟨b, ⟨warehouse, active'⟩, rfl⟩, rfl⟩ := value
  simp only [InventorySnapshot.grain, snapshotRow, Prod.mk.injEq] at same
  obtain ⟨day, productId, warehouseId⟩ := same
  have written : Refreshed w.master d s := by
    refine ⟨day, ⟨a, product, active, productId.symm⟩, ⟨b, warehouse, active', warehouseId.symm⟩⟩
  simp [written]

/-- The rows of the day's active pairs are those of the pass, and the others stay. -/
theorem mem_snapshotsAfter (env : TickEnv) (d : Date) (w : World) {s : InventorySnapshot} :
    s ∈ snapshotsAfter env d w ↔
      if Refreshed w.master d s then s = snapshotRow w d s.productId s.warehouseId
      else s ∈ w.inventorySnapshot := by
  split
  · rename_i written
    obtain ⟨day, product, warehouse⟩ := written
    obtain ⟨mem, only⟩ := snapshotInventoryPositions_recorded env d w product warehouse
    constructor
    · intro here
      apply only s here
      rw [InventorySnapshot.grain, day]
      rfl
    · intro same
      rw [same]
      exact mem
  · rename_i other
    have same : s ∈ (snapshotsAfter env d w).filter (¬ Refreshed w.master d ·) ↔
        s ∈ w.inventorySnapshot.filter (¬ Refreshed w.master d ·) := by
      rw [filter_snapshotsAfter]
    simpa [other] using same

theorem keyed_snapshotsAfter (env : TickEnv) (d : Date) {w : World}
    (keyed : Keyed InventorySnapshot.grain w.inventorySnapshot) :
    Keyed InventorySnapshot.grain (snapshotsAfter env d w) := by
  rw [snapshotsAfter, snapshotInventoryPositions, endState_ok, upsertSnapshot_eq_upsert]
  exact keyed.upsertAll

/-- What a pass leaves depends on the old rows of the other days and pairs only. -/
theorem snapshotsAfter_perm {env env' : TickEnv} {d : Date} {w : World} {rows : List InventorySnapshot}
    (keyed : Keyed InventorySnapshot.grain w.inventorySnapshot) (keyed' : Keyed InventorySnapshot.grain rows)
    (others : ∀ s, ¬ Refreshed w.master d s → (s ∈ w.inventorySnapshot ↔ s ∈ rows)) :
    (snapshotsAfter env d w).Perm (snapshotsAfter env' d { w with inventorySnapshot := rows }) := by
  have nodup := (keyed_snapshotsAfter env d keyed).of_map
  have nodup' := (keyed_snapshotsAfter env' d (w := { w with inventorySnapshot := rows }) keyed').of_map
  rw [List.perm_ext_iff_of_nodup nodup nodup']
  intro s
  rw [mem_snapshotsAfter, mem_snapshotsAfter]
  split
  · exact Iff.rfl
  · rename_i other
    exact others s other

/-- The row of the pass is the per-pair one, except that an allocation below zero is written as zero. -/
theorem snapshots_match_pairs {env : TickEnv} {d : Date} {w : World}
    (keyed : Keyed InventorySnapshot.grain w.inventorySnapshot)
    (stock : ∀ p wh, 0 ≤ currentInventoryPosition w p wh) : SnapshotsPairs clampedPairRow env d w := by
  constructor
  case pairs =>
    intro p wh active
    have mem := (snapshotInventoryPositions_recorded env d w active.1 active.2).1
    rw [← snapshotRow_eq (stock p wh)]
    exact (keyed_snapshotsAfter env d keyed).filter_key mem
  case others => exact filter_snapshotsAfter env d w
  case again =>
    intro env' w' master snapshots
    refine snapshotsAfter_perm (snapshots ▸ keyed_snapshotsAfter env d keyed) keyed fun s other => ?_
    rw [master] at other
    rw [snapshots, mem_snapshotsAfter, if_neg other]

/-- An order for five boxes of which eight are shipped, with ten boxes in stock; `"attic"` is closed. -/
def overshippedWorld : World :=
  { World.empty ⟨[⟨"boxes", .corrugatedPackaging, true⟩], [⟨"main", true⟩, ⟨"attic", false⟩], [], [], []⟩ with
    salesOrder := [⟨1, "SO", "shop", "main", 1, 3, none, .allocated, [⟨"boxes", 5, 8⟩]⟩]
    inventoryTransaction := [⟨simDatetime 1, "boxes", "main", .receipt, 10, none, none⟩]
    inventorySnapshot := [⟨1, "boxes", "main", 10, 0⟩, ⟨2, "boxes", "attic", 4, 0⟩] }

theorem overshippedWorld_stock (p wh : String) : 0 ≤ currentInventoryPosition overshippedWorld p wh := by
  apply sumWhere_nonneg
  intro t mem _
  obtain rfl := List.mem_singleton.1 mem
  decide

theorem snapshots_match_pairs_overshipped :
    SnapshotsPairs clampedPairRow (.inOrder fun _ _ => Rng.least) 2 overshippedWorld :=
  snapshots_match_pairs (show (overshippedWorld.inventorySnapshot.map InventorySnapshot.grain).Nodup by decide)
    overshippedWorld_stock

/-- The query of the pair gives minus three, and the snapshot has zero. -/
theorem overshipped_snapshot_clamped :
    (∀ p wh, 0 ≤ currentInventoryPosition overshippedWorld p wh) ∧
      ¬ SnapshotsPairs pairRow (.inOrder fun _ _ => Rng.least) 2 overshippedWorld := by
  refine ⟨overshippedWorld_stock, fun same => ?_⟩
  have row := same.pairs "boxes" "main" (by decide)
  exact absurd row (by decide +kernel)

end MeadowOps.Flow
