import MeadowOps.Flow.Passes
import MeadowOps.Lib.Binary64

/-!
# Planned transfers

`_create_warehouse_transfers_if_needed` for one product: the recipients in the order of their ids, each from the
donor with the greatest surplus, whose position is debited for those that follow. The loop is stated for any
arithmetic of the averages: the exact one of the pass over the tables, and the floats of the code.
-/

namespace MeadowOps.Flow

open Db Lib

/-! ## The decisions in floats -/

namespace Binary64

/-- `_avg_daily_shipped_demand`, of the total shipped. -/
def avgDailyShippedDemand (totalShipped : ℤ) : ℚ :=
  toBinary64 (toBinary64 totalShipped / demandLookbackDays)

/-- `_reorder_threshold`. The floor is an int, and `max` returns it where it is the greater. -/
def reorderThreshold (avgDailyDemand : ℚ) : PyNumber :=
  let product := toBinary64 (avgDailyDemand * toBinary64 reorderSafetyDays)
  if product < bootstrapReorderThreshold then .int 10 else .float product

/-- `warehouse_deficit`. -/
def warehouseDeficit (position : ℤ) (avgDailyDemand : ℚ) : ℤ :=
  max 0 ((reorderThreshold avgDailyDemand).sub (.int position)).ceil

/-- `transferable_surplus`. -/
def transferableSurplus (position allocated : ℤ) (avgDailyDemand : ℚ) : ℤ :=
  max 0 ((PyNumber.int (position - allocated)).sub (reorderThreshold avgDailyDemand)).floor

theorem reorderThreshold_fits (demand : ℚ) : (reorderThreshold demand).Fits := by
  unfold reorderThreshold
  dsimp only
  split
  · exact PyNumber.fits_int (by decide)
  · exact PyNumber.fits_float _

theorem reorderThreshold_nonneg (demand : ℚ) : 0 ≤ (reorderThreshold demand).value := by
  unfold reorderThreshold
  dsimp only
  split
  · simp [PyNumber.value]
  · rename_i atLeast
    have floor : (0 : ℚ) ≤ bootstrapReorderThreshold := by decide +kernel
    exact floor.trans (not_lt.1 atLeast)

/-- Between ints nothing is rounded: a donor with little demand is credited with what it can spare. -/
theorem transferableSurplus_of_bootstrap {position allocated : ℤ} {demand : ℚ}
    (little : reorderThreshold demand = .int 10) (pos : 0 < transferableSurplus position allocated demand) :
    transferableSurplus position allocated demand = position - allocated - 10 := by
  have value : ((PyNumber.int (position - allocated)).sub (.int 10)).floor = position - allocated - 10 :=
    Int.floor_intCast _
  rw [transferableSurplus, little, value] at pos ⊢
  omega

end Binary64

/-! ## The arithmetic of a plan -/

/-- How the loop computes thresholds, deficits and surpluses. It is right about stocks that fit at the
threshold itself, and credits a donor with every whole unit that it can spare. -/
structure Arithmetic where
  threshold : ℚ → ℚ
  deficit : ℤ → ℚ → ℤ
  surplus : ℤ → ℤ → ℚ → ℤ
  Fits : ℤ → Prop
  fits_between : ∀ m n, 0 ≤ m → m ≤ n → Fits n → Fits m
  threshold_nonneg : ∀ demand, 0 ≤ threshold demand
  deficit_eq_zero : ∀ (position : ℤ) demand, Fits position → threshold demand ≤ position →
    deficit position demand = 0
  surplus_eq_zero : ∀ (position allocated : ℤ) demand, Fits (position - allocated) →
    ((position - allocated : ℤ) : ℚ) ≤ threshold demand → surplus position allocated demand = 0
  le_surplus : ∀ (position allocated : ℤ) demand (quantity : ℤ), Fits (position - allocated) → 0 ≤ quantity →
    (quantity : ℚ) ≤ (position - allocated : ℤ) - threshold demand →
    quantity ≤ surplus position allocated demand

/-- Exact numbers, as in `warehouseDeficit` and `transferableSurplus`. -/
def Arithmetic.exact : Arithmetic where
  threshold demand := reorderThreshold demand reorderSafetyDays
  deficit position demand := warehouseDeficit position demand reorderSafetyDays
  surplus position allocated demand := transferableSurplus position allocated demand reorderSafetyDays
  Fits _ := True
  fits_between _ _ _ _ _ := trivial
  threshold_nonneg demand := le_trans (by decide) (reorderThreshold_ge demand _)
  deficit_eq_zero position demand _ le := by
    rw [warehouseDeficit, max_eq_left]
    exact Int.ceil_le.2 (by push_cast; linarith)
  surplus_eq_zero position allocated demand _ le := by
    rw [transferableSurplus, max_eq_left]
    push_cast at le
    exact Int.cast_nonpos.1 ((Int.floor_le _).trans (by linarith))
  le_surplus position allocated demand quantity _ _ le := by
    push_cast at le
    exact (Int.le_floor.2 le).trans (le_max_right _ _)

/-- What the code computes with. -/
def Arithmetic.binary64 : Arithmetic where
  threshold demand := (Binary64.reorderThreshold demand).value
  deficit := Binary64.warehouseDeficit
  surplus := Binary64.transferableSurplus
  Fits n := |n| ≤ 2 ^ 53
  fits_between m n nonneg le fits := by
    rw [abs_of_nonneg nonneg]
    exact le.trans ((le_abs_self n).trans fits)
  threshold_nonneg := Binary64.reorderThreshold_nonneg
  deficit_eq_zero position demand fits le := by
    rw [Binary64.warehouseDeficit, max_eq_left]
    refine Int.ceil_le.2 (PyNumber.sub_le (Binary64.reorderThreshold_fits demand) (PyNumber.fits_int fits)
      (by decide) ?_)
    push_cast
    exact sub_nonpos.2 le
  surplus_eq_zero position allocated demand fits le := by
    rw [Binary64.transferableSurplus, max_eq_left]
    have below := PyNumber.sub_le (PyNumber.fits_int fits) (Binary64.reorderThreshold_fits demand) (m := 0)
      (by decide) (by push_cast; exact sub_nonpos.2 (by exact_mod_cast le))
    exact Int.cast_nonpos.1 ((Int.floor_le _).trans (by exact_mod_cast below))
  le_surplus position allocated demand quantity fits nonneg le := by
    have small : |quantity| ≤ 2 ^ 53 := by
      have nonneg' := Binary64.reorderThreshold_nonneg demand
      have stock : (quantity : ℚ) ≤ (position - allocated : ℤ) := by linarith
      rw [abs_of_nonneg nonneg]
      exact (Int.cast_le.1 stock).trans ((le_abs_self _).trans fits)
    refine (Int.le_floor.2 ?_).trans (le_max_right _ _)
    exact PyNumber.le_sub (PyNumber.fits_int fits) (Binary64.reorderThreshold_fits demand) small le

/-! ## The loop over the recipients -/

/-- What the loop over the recipients of a product reads. -/
structure TransferInput where
  /-- The active warehouses, ordered by id. -/
  warehouses : List String
  nodup : warehouses.Nodup
  position : String → ℤ
  allocated : String → ℤ
  allocated_nonneg : ∀ w, 0 ≤ allocated w
  demand : String → ℚ
  /-- There is an open purchase order or an inbound transfer. -/
  isOpen : String → Bool

structure PlannedTransfer where
  fromWarehouseId : String
  toWarehouseId : String
  quantity : ℤ
  deriving DecidableEq, Repr

structure TransferPlan where
  positions : String → ℤ
  transfers : List PlannedTransfer

/-- The plan with one more transfer. -/
def TransferPlan.add (plan : TransferPlan) (t : PlannedTransfer) : TransferPlan where
  positions := fun w => if w = t.fromWarehouseId then plan.positions w - t.quantity else plan.positions w
  transfers := plan.transfers ++ [t]

/-- The sum of what a warehouse gives. -/
def given (transfers : List PlannedTransfer) (w : String) : ℤ :=
  ((transfers.filter fun t => t.fromWarehouseId = w).map (·.quantity)).sum

namespace Arithmetic

variable (A : Arithmetic) (input : TransferInput)

def candidates (positions : String → ℤ) (recipient : String) : List (String × ℤ) :=
  (input.warehouses.filter fun donor => donor ≠ recipient).map fun donor =>
    (donor, A.surplus (positions donor) (input.allocated donor) (input.demand donor))

/-- One recipient. -/
def serve (plan : TransferPlan) (warehouse : String) : TransferPlan :=
  if input.isOpen warehouse then plan
  else
    let deficit := A.deficit (plan.positions warehouse) (input.demand warehouse)
    if deficit ≤ 0 then plan
    else
      match pickTransferDonor (A.candidates input plan.positions warehouse) with
      | none => plan
      | some (donorId, donorSurplus) =>
        let quantity := min deficit donorSurplus
        if quantity ≤ 0 then plan
        else
          { positions := fun w => if w = donorId then plan.positions donorId - quantity else plan.positions w
            transfers := plan.transfers ++ [⟨donorId, warehouse, quantity⟩] }

/-- The plan when some recipients have been served. -/
def planOf (served : List String) : TransferPlan := served.foldl (A.serve input) ⟨input.position, []⟩

def plan : TransferPlan := A.planOf input input.warehouses

/-! ### One step -/

/-- A transfer that a step creates. -/
structure Created (plan : TransferPlan) (t : PlannedTransfer) (surplus : ℤ) : Prop where
  closed : input.isOpen t.toWarehouseId = false
  lacks : 0 < A.deficit (plan.positions t.toWarehouseId) (input.demand t.toWarehouseId)
  picked : pickTransferDonor (A.candidates input plan.positions t.toWarehouseId) =
    some (t.fromWarehouseId, surplus)
  donor : t.fromWarehouseId ∈ input.warehouses
  other : t.fromWarehouseId ≠ t.toWarehouseId
  credited : surplus = A.surplus (plan.positions t.fromWarehouseId) (input.allocated t.fromWarehouseId)
    (input.demand t.fromWarehouseId)
  surplus_pos : 0 < surplus
  quantity : t.quantity =
    min (A.deficit (plan.positions t.toWarehouseId) (input.demand t.toWarehouseId)) surplus

variable {A input}

/-- The transfer to a recipient whose donor is picked. -/
theorem created_of_picked {plan : TransferPlan} {warehouse donor : String} {surplus : ℤ}
    (closed : input.isOpen warehouse = false)
    (lacks : 0 < A.deficit (plan.positions warehouse) (input.demand warehouse))
    (picked : pickTransferDonor (A.candidates input plan.positions warehouse) = some (donor, surplus)) :
    A.Created input plan ⟨donor, warehouse,
      min (A.deficit (plan.positions warehouse) (input.demand warehouse)) surplus⟩ surplus := by
  obtain ⟨mem, pos⟩ := pickTransferDonor_mem picked
  obtain ⟨d, kept, same⟩ := List.mem_map.1 mem
  obtain ⟨rfl, rfl⟩ := Prod.mk.inj same
  obtain ⟨active, other⟩ := List.mem_filter.1 kept
  exact ⟨closed, lacks, picked, active, of_decide_eq_true other, rfl, pos, rfl⟩

theorem Created.quantity_pos {plan : TransferPlan} {t : PlannedTransfer} {surplus : ℤ}
    (h : A.Created input plan t surplus) : 0 < t.quantity := by
  rw [h.quantity]
  exact lt_min h.lacks h.surplus_pos

theorem Created.serve {plan : TransferPlan} {t : PlannedTransfer} {surplus : ℤ}
    (h : A.Created input plan t surplus) : A.serve input plan t.toWarehouseId = plan.add t := by
  have pos := h.quantity_pos
  rw [h.quantity] at pos
  unfold Arithmetic.serve
  rw [if_neg (by simp [h.closed])]
  dsimp only
  rw [if_neg (not_le.2 h.lacks), h.picked]
  dsimp only
  rw [if_neg (not_le.2 pos), ← h.quantity, TransferPlan.add]
  congr 1
  funext w
  by_cases here : w = t.fromWarehouseId
  · simp [here]
  · simp [here]

variable (A input) in
/-- A warehouse gets nothing, or one transfer from the donor that is picked for it. -/
theorem serve_cases (plan : TransferPlan) (warehouse : String) : A.serve input plan warehouse = plan ∨
    ∃ t surplus, t.toWarehouseId = warehouse ∧ A.Created input plan t surplus ∧
      A.serve input plan warehouse = plan.add t := by
  by_cases closed : input.isOpen warehouse = true
  · exact .inl (if_pos closed)
  rw [Bool.not_eq_true] at closed
  by_cases lacks : A.deficit (plan.positions warehouse) (input.demand warehouse) ≤ 0
  · left
    unfold serve
    rw [if_neg (by simp [closed])]
    exact if_pos lacks
  cases picked : pickTransferDonor (A.candidates input plan.positions warehouse) with
  | none =>
    left
    unfold serve
    rw [if_neg (by simp [closed])]
    dsimp only
    rw [if_neg lacks, picked]
  | some found =>
    have created := created_of_picked closed (not_le.1 lacks) picked
    exact .inr ⟨_, found.2, rfl, created, created.serve⟩

theorem given_append (transfers : List PlannedTransfer) (t : PlannedTransfer) (w : String) :
    given (transfers ++ [t]) w = given transfers w + if t.fromWarehouseId = w then t.quantity else 0 := by
  unfold given
  rw [List.filter_append, List.map_append, List.sum_append]
  by_cases here : t.fromWarehouseId = w
  · simp [here]
  · simp [here]

/-! ### Every run -/

theorem add_positions (plan : TransferPlan) (t : PlannedTransfer) (w : String) :
    (plan.add t).positions w = plan.positions w - if t.fromWarehouseId = w then t.quantity else 0 := by
  rw [TransferPlan.add]
  by_cases here : w = t.fromWarehouseId
  · simp [here]
  · simp [here, Ne.symm here]

theorem planOf_append (served : List String) (w : String) :
    A.planOf input (served ++ [w]) = A.serve input (A.planOf input served) w := by
  rw [planOf, List.foldl_append]
  rfl

/-- The books of a plan: the positions are the ones read less what was given, and each recipient that was served
has one transfer at most. -/
structure Accounts (input : TransferInput) (served : List String) (plan : TransferPlan) : Prop where
  positions : ∀ w, plan.positions w = input.position w - given plan.transfers w
  recipients : (plan.transfers.map (·.toWarehouseId)).Sublist served

theorem Accounts.add {served : List String} {plan : TransferPlan} (accounts : Accounts input served plan)
    (t : PlannedTransfer) : Accounts input (served ++ [t.toWarehouseId]) (plan.add t) where
  positions w := by
    rw [add_positions, accounts.positions, TransferPlan.add, given_append]
    ring
  recipients := by
    rw [TransferPlan.add, List.map_append]
    exact accounts.recipients.append (List.Sublist.refl _)

/-- A warehouse that has given nothing. -/
theorem Accounts.position_eq {served : List String} {plan : TransferPlan} (accounts : Accounts input served plan)
    {w : String} (gaveNot : ∀ u ∈ plan.transfers, u.fromWarehouseId ≠ w) :
    plan.positions w = input.position w := by
  have none : plan.transfers.filter (fun u => u.fromWarehouseId = w) = [] := by
    refine List.filter_eq_nil_iff.2 fun u mem => ?_
    simpa using gaveNot u mem
  rw [accounts.positions, given, none]
  simp

theorem accounts_planOf (A : Arithmetic) (input : TransferInput) (served : List String) :
    Accounts input served (A.planOf input served) := by
  induction served using List.reverseRecOn with
  | nil => exact ⟨by simp [planOf, given], by simp [planOf]⟩
  | append_singleton served r ih =>
    rw [planOf_append]
    rcases A.serve_cases input (A.planOf input served) r with same | ⟨t, surplus, rfl, -, same⟩
    · rw [same]
      exact ⟨ih.positions, ih.recipients.trans (List.sublist_append_left _ _)⟩
    · rw [same]
      exact ih.add t

/-- Transfers are only added, and what a warehouse has given only grows. -/
theorem given_planOf_le (A : Arithmetic) (input : TransferInput) (served rest : List String) (w : String) :
    (∀ t ∈ (A.planOf input served).transfers, t ∈ (A.planOf input (served ++ rest)).transfers) ∧
      given (A.planOf input served).transfers w ≤ given (A.planOf input (served ++ rest)).transfers w := by
  induction rest using List.reverseRecOn with
  | nil => simp
  | append_singleton rest r ih =>
    rw [← List.append_assoc, planOf_append]
    rcases A.serve_cases input (A.planOf input (served ++ rest)) r with
      same | ⟨t, surplus, -, created, same⟩
    · rw [same]
      exact ih
    · rw [same]
      refine ⟨fun u mem => List.mem_append_left _ (ih.1 u mem), ih.2.trans ?_⟩
      rw [TransferPlan.add, given_append]
      have pos := created.quantity_pos
      split <;> omega

end Arithmetic

/-! ## The pass

The pass over the tables, whose averages are exact, creates the transfers of the exact plan. -/

section Pass

variable {env : TickEnv} {d : Date} {product : Product} {warehouses : List Warehouse}

/-- The row of a planned transfer. -/
def PlannedTransfer.row (env : TickEnv) (d : Date) (product : Product) (t : PlannedTransfer) :
    WarehouseTransfer where
  id := env.transferId product.id t.toWarehouseId
  productId := product.id
  fromWarehouseId := t.fromWarehouseId
  toWarehouseId := t.toWarehouseId
  quantity := t.quantity
  transferDate := d
  status := .pending

/-- The input is what the loop of a product reads in `w`. -/
structure TransferInput.Reads (input : TransferInput) (d : Date) (product : Product) (warehouses : List Warehouse)
    (w : World) : Prop where
  warehouses : input.warehouses = warehouses.map (·.id)
  position : input.position = currentInventoryPosition w product.id
  allocated : input.allocated = allocatedQuantity w product.id
  demand : input.demand = fun wh => avgDailyShippedDemand w product.id wh d
  isOpen : input.isOpen = fun wh =>
    hasOpenPurchaseOrder w product.id wh || hasOpenInboundTransfer w product.id wh

/-- The pass has got as far as the plan. -/
structure TransferPlan.Written (env : TickEnv) (d : Date) (product : Product) (w₀ : World) (created : ℕ)
    (plan : TransferPlan) (pool : DonorPool) (w : World) : Prop where
  positions : pool.positions = plan.positions
  created : pool.created = created + plan.transfers.length
  transfers : w.warehouseTransfer = w₀.warehouseTransfer ++ plan.transfers.map (·.row env d product)
  orders : w.purchaseOrder = w₀.purchaseOrder

/-- A planned transfer opens an inbound transfer of its own recipient only. -/
theorem TransferPlan.Written.isOpen {input : TransferInput} {w₀ w : World} {created : ℕ} {plan : TransferPlan}
    {pool : DonorPool} {warehouse : String} (reads : input.Reads d product warehouses w₀)
    (written : plan.Written env d product w₀ created pool w)
    (notServed : ∀ t ∈ plan.transfers, t.toWarehouseId ≠ warehouse) :
    (hasOpenPurchaseOrder w product.id warehouse || hasOpenInboundTransfer w product.id warehouse) =
      input.isOpen warehouse := by
  have others : (plan.transfers.map (·.row env d product)).any
      (fun t => decide (t.productId = product.id ∧ t.toWarehouseId = warehouse) && t.status.inFlight) = false := by
    rw [List.any_map, List.any_eq_false]
    intro t mem
    simp [PlannedTransfer.row, notServed t mem]
  rw [reads.isOpen, hasOpenPurchaseOrder, hasOpenInboundTransfer, written.orders, written.transfers,
    List.any_append, others, Bool.or_false]
  rfl

theorem donorCandidates_eq {input : TransferInput} {w₀ : World} (reads : input.Reads d product warehouses w₀)
    (positions : String → ℤ) (recipient : String) :
    donorCandidates warehouses positions (allocatedQuantity w₀ product.id)
      (avgDailyShippedDemand w₀ product.id · d) recipient = Arithmetic.exact.candidates input positions recipient := by
  rw [donorCandidates, Arithmetic.candidates, reads.warehouses, reads.allocated, reads.demand, List.filter_map,
    List.map_map]
  rfl

/-- One recipient: the pass follows the plan. -/
theorem createWarehouseTransfer_plans {input : TransferInput} {w₀ w w' : World} {created : ℕ}
    {plan : TransferPlan} {pool pool' : DonorPool} {warehouse : Warehouse}
    (reads : input.Reads d product warehouses w₀) (written : plan.Written env d product w₀ created pool w)
    (notServed : ∀ t ∈ plan.transfers, t.toWarehouseId ≠ warehouse.id)
    (ran : createWarehouseTransfer env d product warehouses (allocatedQuantity w₀ product.id)
      (avgDailyShippedDemand w₀ product.id · d) pool warehouse w = .ok pool' w') :
    (Arithmetic.exact.serve input plan warehouse.id).Written env d product w₀ created pool' w' := by
  have deficit : warehouseDeficit (pool.positions warehouse.id)
      (avgDailyShippedDemand w₀ product.id warehouse.id d) reorderSafetyDays =
      Arithmetic.exact.deficit (plan.positions warehouse.id) (input.demand warehouse.id) := by
    rw [written.positions, reads.demand]
    rfl
  unfold createWarehouseTransfer at ran
  unfold Arithmetic.serve
  rw [written.isOpen reads notServed] at ran
  by_cases closed : input.isOpen warehouse.id = true
  · rw [if_pos closed] at ran ⊢
    cases ran
    exact written
  rw [if_neg closed] at ran ⊢
  dsimp only at ran ⊢
  rw [deficit, donorCandidates_eq reads, written.positions] at ran
  by_cases lacks : Arithmetic.exact.deficit (plan.positions warehouse.id) (input.demand warehouse.id) ≤ 0
  · rw [if_pos lacks] at ran ⊢
    cases ran
    exact written
  rw [if_neg lacks] at ran ⊢
  cases picked : pickTransferDonor (Arithmetic.exact.candidates input plan.positions warehouse.id) with
  | none =>
    rw [picked] at ran
    cases ran
    exact written
  | some found =>
    rw [picked] at ran
    dsimp only at ran ⊢
    by_cases nothing :
        min (Arithmetic.exact.deficit (plan.positions warehouse.id) (input.demand warehouse.id)) found.2 ≤ 0
    · rw [if_pos nothing] at ran ⊢
      cases ran
      exact written
    rw [if_neg nothing] at ran ⊢
    cases inserted : insert? (·.id) _ w.warehouseTransfer with
    | none =>
      rw [inserted] at ran
      cases ran
    | some transfers =>
      rw [inserted] at ran
      cases ran
      obtain ⟨rfl, -⟩ := insert?_eq_some inserted
      refine ⟨rfl, ?_, ?_, written.orders⟩
      · show pool.created + 1 = _
        rw [written.created, List.length_append]
        rfl
      · show w.warehouseTransfer ++ _ = _
        rw [written.transfers, List.map_append, List.append_assoc]
        rfl

/-- The recipients that are left. -/
theorem createWarehouseTransfers_plans {input : TransferInput} {w₀ : World} {created : ℕ}
    (reads : input.Reads d product warehouses w₀) (served rest : List Warehouse) (split : warehouses = served ++ rest)
    {pool pool' : DonorPool} {w w' : World}
    (written : (Arithmetic.exact.planOf input (served.map (·.id))).Written env d product w₀ created pool w)
    (ran : rest.foldlM (createWarehouseTransfer env d product warehouses (allocatedQuantity w₀ product.id)
      (avgDailyShippedDemand w₀ product.id · d)) pool w = .ok pool' w') :
    (Arithmetic.exact.plan input).Written env d product w₀ created pool' w' := by
  induction rest generalizing served pool w with
  | nil =>
    cases ran
    rw [Arithmetic.plan, reads.warehouses, split, List.append_nil]
    exact written
  | cons warehouse rest ih =>
    obtain ⟨mid, w₁, one, ran⟩ := bind_eq_ok ran
    have nodup := input.nodup
    rw [reads.warehouses, split, List.map_append, List.map_cons] at nodup
    have step := createWarehouseTransfer_plans reads written ?_ one
    · refine ih (served ++ [warehouse]) (by rw [split, List.append_assoc]; rfl) ?_ ran
      rw [List.map_append, List.map_singleton, Arithmetic.planOf_append]
      exact step
    · intro t mem same
      have listed := (Arithmetic.exact.accounts_planOf input (served.map (·.id))).recipients.subset
        (List.mem_map_of_mem mem)
      rw [same] at listed
      exact (List.disjoint_of_nodup_append nodup) listed List.mem_cons_self

/-- **The plan of a product.** When the loop of a product ends, it has created the planned transfers. -/
theorem createTransfersOfProduct_plans {input : TransferInput} {w w' : World} {created created' : ℕ}
    (reads : input.Reads d product warehouses w)
    (ran : createTransfersOfProduct env d warehouses created product w = .ok created' w') :
    w'.warehouseTransfer =
        w.warehouseTransfer ++ (Arithmetic.exact.plan input).transfers.map (·.row env d product) ∧
      created' = created + (Arithmetic.exact.plan input).transfers.length := by
  unfold createTransfersOfProduct at ran
  obtain ⟨_, _, read, ran⟩ := bind_eq_ok ran
  cases read
  obtain ⟨pool, w₁, loop, done⟩ := bind_eq_ok ran
  cases done
  have start : (Arithmetic.exact.planOf input []).Written env d product w created
      ⟨currentInventoryPosition w product.id, created⟩ w :=
    ⟨reads.position.symm, rfl, (List.append_nil _).symm, rfl⟩
  have written := createWarehouseTransfers_plans reads [] warehouses rfl start loop
  exact ⟨written.transfers, written.created⟩

end Pass

end MeadowOps.Flow
