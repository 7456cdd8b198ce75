import MeadowOps.Flow.TransferPlans

/-!
# Fairness to donors

A donor's surplus is floored, so that it keeps its threshold. The subtraction before the floor is one of floats and
may round up to the next unit: then a donor that gives its whole surplus is left below its threshold. A plan is fair
where no position that a donor may come to is rounded so (`RoundingSpares`), and it is unfair exactly where a step
does not spare the donor that it picks (`AllSpared`).
-/

namespace MeadowOps.Flow

open Db Lib

namespace Arithmetic

section

variable (A : Arithmetic) (input : TransferInput)

/-- What a donor can spare, exactly. -/
def spare (plan : TransferPlan) (donor : String) : ℚ :=
  (plan.positions donor - input.allocated donor : ℤ) - A.threshold (input.demand donor)

/-- The surplus credited to the donor that is picked is not more than it can spare, or what the recipient lacks
is not. -/
def Spared (plan : TransferPlan) (warehouse : String) : Prop :=
  ∀ donor surplus, input.isOpen warehouse = false →
    0 < A.deficit (plan.positions warehouse) (input.demand warehouse) →
    pickTransferDonor (A.candidates input plan.positions warehouse) = some (donor, surplus) →
    (surplus : ℚ) ≤ A.spare input plan donor ∨
      (A.deficit (plan.positions warehouse) (input.demand warehouse) : ℚ) ≤ A.spare input plan donor

/-- What is promised of the transfers. -/
structure Fair (transfers : List PlannedTransfer) : Prop where
  keeps : ∀ t ∈ transfers, A.threshold (input.demand t.fromWarehouseId) ≤
    (input.position t.fromWarehouseId - given transfers t.fromWarehouseId -
      input.allocated t.fromWarehouseId : ℤ)
  once : (transfers.map (·.toWarehouseId)).Nodup
  needed : ∀ t ∈ transfers, 0 < t.quantity ∧
    t.quantity ≤ A.deficit (input.position t.toWarehouseId) (input.demand t.toWarehouseId)
  apart : ∀ t ∈ transfers, ∀ u ∈ transfers, t.fromWarehouseId ≠ u.toWarehouseId
  total : ∀ t ∈ transfers, given transfers t.fromWarehouseId ≤
    A.surplus (input.position t.fromWarehouseId) (input.allocated t.fromWarehouseId)
      (input.demand t.fromWarehouseId)

/-- Every step spares the donor that it picks. -/
def AllSpared : Prop :=
  ∀ served warehouse rest, input.warehouses = served ++ warehouse :: rest →
    A.Spared input (A.planOf input served) warehouse

/-- At its own position and at every lower one a donor is credited with no more than it can spare there exactly,
unless the recipient lacks no more than that. -/
def RoundingSpares : Prop :=
  ∀ donor ∈ input.warehouses, ∀ recipient ∈ input.warehouses, donor ≠ recipient →
    input.isOpen recipient = false → 0 < A.deficit (input.position recipient) (input.demand recipient) →
    ∀ position ≤ input.position donor,
      0 < A.surplus position (input.allocated donor) (input.demand donor) →
      (A.surplus position (input.allocated donor) (input.demand donor) : ℚ) ≤
          (position - input.allocated donor : ℤ) - A.threshold (input.demand donor) ∨
        (A.deficit (input.position recipient) (input.demand recipient) : ℚ) ≤
          (position - input.allocated donor : ℤ) - A.threshold (input.demand donor)

end

variable {A : Arithmetic} {input : TransferInput}

/-! ### One step -/

/-- What holds of a plan whose steps have all spared their donors. -/
structure PlanInv (A : Arithmetic) (input : TransferInput) (served : List String) (plan : TransferPlan) : Prop
    extends Accounts input served plan where
  donors : ∀ t ∈ plan.transfers, t.fromWarehouseId ∈ input.warehouses ∧
    0 ≤ A.spare input plan t.fromWarehouseId
  needed : ∀ t ∈ plan.transfers, 0 < t.quantity ∧
    t.quantity ≤ A.deficit (input.position t.toWarehouseId) (input.demand t.toWarehouseId)
  apart : ∀ t ∈ plan.transfers, ∀ u ∈ plan.transfers, t.fromWarehouseId ≠ u.toWarehouseId
  fits : ∀ w ∈ input.warehouses, A.Fits (plan.positions w) ∧ A.Fits (plan.positions w - input.allocated w)

/-- Who gave is at its threshold or above and lacks nothing. -/
theorem PlanInv.donor_lacks_nothing {served : List String} {plan : TransferPlan}
    (inv : PlanInv A input served plan) {t : PlannedTransfer} (mem : t ∈ plan.transfers) :
    A.deficit (plan.positions t.fromWarehouseId) (input.demand t.fromWarehouseId) = 0 := by
  obtain ⟨active, spare⟩ := inv.donors t mem
  refine A.deficit_eq_zero _ _ (inv.fits _ active).1 ?_
  have nonneg : (0 : ℚ) ≤ input.allocated t.fromWarehouseId := by
    exact_mod_cast input.allocated_nonneg t.fromWarehouseId
  rw [Arithmetic.spare] at spare
  push_cast at spare
  linarith

/-- Who received had less than its threshold and can give nothing. -/
theorem PlanInv.recipient_spares_nothing {served : List String} {plan : TransferPlan}
    (inv : PlanInv A input served plan) {t : PlannedTransfer} (mem : t ∈ plan.transfers)
    (active : t.toWarehouseId ∈ input.warehouses) :
    A.surplus (plan.positions t.toWarehouseId) (input.allocated t.toWarehouseId)
      (input.demand t.toWarehouseId) = 0 := by
  have before := inv.position_eq fun u memU => inv.apart u memU t mem
  obtain ⟨fits, fits'⟩ := inv.fits _ active
  have below : (plan.positions t.toWarehouseId : ℚ) < A.threshold (input.demand t.toWarehouseId) := by
    by_contra enough
    have zero := A.deficit_eq_zero _ _ fits (not_lt.1 enough)
    obtain ⟨pos, le⟩ := inv.needed t mem
    rw [before] at zero
    omega
  have nonneg : (0 : ℚ) ≤ input.allocated t.toWarehouseId := by
    exact_mod_cast input.allocated_nonneg t.toWarehouseId
  refine A.surplus_eq_zero _ _ _ fits' ?_
  push_cast
  linarith

/-- Who lacks something has given nothing. -/
theorem PlanInv.gave_nothing {served : List String} {plan : TransferPlan} (inv : PlanInv A input served plan)
    {warehouse : String} (lacks : 0 < A.deficit (plan.positions warehouse) (input.demand warehouse)) :
    ∀ u ∈ plan.transfers, u.fromWarehouseId ≠ warehouse := by
  intro u mem same
  have none := inv.donor_lacks_nothing mem
  rw [same] at none
  exact absurd none lacks.ne'

theorem PlanInv.given_nonneg {served : List String} {plan : TransferPlan} (inv : PlanInv A input served plan)
    (w : String) : 0 ≤ given plan.transfers w := by
  refine List.sum_nonneg fun q gave => ?_
  obtain ⟨u, kept, rfl⟩ := List.mem_map.1 gave
  exact (inv.needed u (List.mem_filter.1 kept).1).1.le

/-- Where the rounding spares the donors, so does a step: its recipient is at the position that was read, its donor
at that one or a lower one. -/
theorem PlanInv.spared {served : List String} {plan : TransferPlan} (inv : PlanInv A input served plan)
    (rounding : A.RoundingSpares input) {warehouse : String} (active : warehouse ∈ input.warehouses) :
    A.Spared input plan warehouse := by
  intro donor surplus closed lacks picked
  have created := created_of_picked closed lacks picked
  have read := inv.position_eq (inv.gave_nothing lacks)
  have lower : plan.positions donor ≤ input.position donor := by
    have nonneg := inv.given_nonneg donor
    rw [inv.positions]
    omega
  have credited : surplus = A.surplus (plan.positions donor) (input.allocated donor) (input.demand donor) :=
    created.credited
  rw [read] at lacks
  have spares := rounding donor created.donor warehouse active created.other closed lacks
    (plan.positions donor) lower (credited ▸ created.surplus_pos)
  rw [← credited] at spares
  rw [read]
  exact spares

/-- A donor that is spared is left with its threshold and its allocation. -/
theorem spare_add {plan : TransferPlan} {t : PlannedTransfer}
    (spared : (t.quantity : ℚ) ≤ A.spare input plan t.fromWarehouseId) {w : String}
    (kept : 0 ≤ A.spare input plan w) : 0 ≤ A.spare input (plan.add t) w := by
  rw [spare] at kept spared ⊢
  rw [add_positions]
  split
  · rename_i here
    subst here
    push_cast at spared ⊢
    linarith
  · rw [sub_zero]
    exact kept

theorem PlanInv.add {served : List String} {plan : TransferPlan} (inv : PlanInv A input served plan)
    {t : PlannedTransfer} {surplus : ℤ} (created : A.Created input plan t surplus)
    (listed : ∀ w ∈ served, w ∈ input.warehouses)
    (spared : (t.quantity : ℚ) ≤ A.spare input plan t.fromWarehouseId) :
    PlanInv A input (served ++ [t.toWarehouseId]) (plan.add t) := by
  have gaveNot := inv.gave_nothing created.lacks
  have gotNot : ∀ u ∈ plan.transfers, t.fromWarehouseId ≠ u.toWarehouseId := by
    intro u mem same
    have active := listed _ (inv.recipients.subset (List.mem_map_of_mem mem))
    have none := inv.recipient_spares_nothing mem active
    rw [← same, ← created.credited] at none
    exact absurd none created.surplus_pos.ne'
  have before := inv.position_eq gaveNot
  have left : 0 ≤ A.spare input (plan.add t) t.fromWarehouseId := by
    rw [spare] at spared ⊢
    rw [add_positions, if_pos rfl]
    push_cast at spared ⊢
    linarith
  refine { inv.toAccounts.add t with donors := ?donors, needed := ?needed, apart := ?apart, fits := ?fits }
  case donors =>
    intro u mem
    rcases List.mem_append.1 mem with old | new
    · exact ⟨(inv.donors u old).1, spare_add spared (inv.donors u old).2⟩
    · rw [List.mem_singleton.1 new]
      exact ⟨created.donor, left⟩
  case needed =>
    intro u mem
    rcases List.mem_append.1 mem with old | new
    · exact inv.needed u old
    · rw [List.mem_singleton.1 new, ← before]
      exact ⟨created.quantity_pos, created.quantity.trans_le (min_le_left _ _)⟩
  case apart =>
    intro u mem v mem'
    rcases List.mem_append.1 mem with old | new
    · rcases List.mem_append.1 mem' with old' | new'
      · exact inv.apart u old v old'
      · rw [List.mem_singleton.1 new']
        exact gaveNot u old
    · rw [List.mem_singleton.1 new]
      rcases List.mem_append.1 mem' with old' | new'
      · exact gotNot v old'
      · rw [List.mem_singleton.1 new']
        exact created.other
  case fits =>
    intro w active
    obtain ⟨fits, fits'⟩ := inv.fits w active
    rw [add_positions]
    split
    · rename_i here
      subst here
      -- What is left is at least the threshold and the allocation, neither of which is negative.
      have threshold := A.threshold_nonneg (input.demand t.fromWarehouseId)
      have allocated := input.allocated_nonneg t.fromWarehouseId
      have pos := created.quantity_pos
      rw [spare, add_positions, if_pos rfl] at left
      have stock : 0 ≤ plan.positions t.fromWarehouseId - t.quantity - input.allocated t.fromWarehouseId := by
        have cast : (0 : ℚ) ≤
            (plan.positions t.fromWarehouseId - t.quantity - input.allocated t.fromWarehouseId : ℤ) := by
          linarith
        exact_mod_cast cast
      exact ⟨A.fits_between _ _ (by omega) (by omega) fits, A.fits_between _ _ stock (by omega) fits'⟩
    · rw [sub_zero]
      exact ⟨fits, fits'⟩

/-! ### Every run -/

/-- The steps may use the invariant of the plan that they find. -/
theorem planInv_planOf (fits : ∀ w ∈ input.warehouses, A.Fits (input.position w) ∧
      A.Fits (input.position w - input.allocated w))
    (spared : ∀ served warehouse rest, input.warehouses = served ++ warehouse :: rest →
      PlanInv A input served (A.planOf input served) → A.Spared input (A.planOf input served) warehouse)
    (served rest : List String) (split : input.warehouses = served ++ rest) : PlanInv A input served (A.planOf input served) := by
  induction served using List.reverseRecOn generalizing rest with
  | nil =>
    have start : A.planOf input [] = ⟨input.position, []⟩ := rfl
    rw [start]
    exact { A.accounts_planOf input [] with
      donors := by simp
      needed := by simp
      apart := by simp
      fits := fits }
  | append_singleton served w ih =>
    rw [List.append_assoc, List.singleton_append] at split
    have inv := ih (w :: rest) split
    rw [planOf_append]
    rcases A.serve_cases input (A.planOf input served) w with
      same | ⟨t, surplus, rfl, created, same⟩
    · rw [same]
      exact { inv with recipients := inv.recipients.trans (List.sublist_append_left _ _) }
    · rw [same]
      refine inv.add created (fun v mem => split ▸ List.mem_append_left _ mem) ?_
      rw [created.quantity]
      push_cast
      rcases spared served _ rest split inv _ surplus created.closed created.lacks created.picked with le | le
      · exact (min_le_right _ _).trans le
      · exact (min_le_left _ _).trans le

/-- A plan that has served every warehouse is fair. -/
theorem fair_of_planInv (fits : ∀ w ∈ input.warehouses, A.Fits (input.position w) ∧
      A.Fits (input.position w - input.allocated w)) {plan : TransferPlan}
    (inv : PlanInv A input input.warehouses plan) : A.Fair input plan.transfers where
  keeps t mem := by
    have spare := (inv.donors t mem).2
    rw [Arithmetic.spare, inv.positions] at spare
    linarith
  once := inv.recipients.nodup input.nodup
  needed := inv.needed
  apart := inv.apart
  total t mem := by
    obtain ⟨active, spare⟩ := inv.donors t mem
    rw [Arithmetic.spare, inv.positions] at spare
    refine A.le_surplus _ _ _ _ (fits _ active).2 (inv.given_nonneg _) ?_
    push_cast at spare ⊢
    linarith

/-- A donor that was not spared is left below its threshold for good. -/
theorem spared_of_fair (fair : A.Fair input (A.plan input).transfers) : A.AllSpared input := by
  intro served warehouse rest split donor surplus closed lacks picked
  by_contra beyond
  rw [not_or, not_le, not_le] at beyond
  let before := A.planOf input served
  let t : PlannedTransfer := ⟨donor, warehouse,
    min (A.deficit (before.positions warehouse) (input.demand warehouse)) surplus⟩
  have created : A.Created input before t surplus := created_of_picked closed lacks picked
  have after : A.planOf input (served ++ [warehouse]) = before.add t := by
    rw [planOf_append]
    exact created.serve
  have whole : A.plan input = A.planOf input ((served ++ [warehouse]) ++ rest) := by
    rw [plan, split, List.append_assoc, List.singleton_append]
  obtain ⟨kept, grows⟩ := A.given_planOf_le input (served ++ [warehouse]) rest donor
  rw [← whole, after] at kept grows
  have gives : given (before.add t).transfers donor = given before.transfers donor + t.quantity := by
    rw [TransferPlan.add, given_append, if_pos rfl]
  have keeps := fair.keeps t (kept t (List.mem_append_right _ (List.mem_singleton_self t)))
  have takes : A.spare input before donor < t.quantity := by
    show _ < ((min _ surplus : ℤ) : ℚ)
    rw [Int.cast_min]
    exact lt_min beyond.2 beyond.1
  rw [spare, (A.accounts_planOf input served).positions] at takes
  rw [gives] at grows
  have grows' : (given before.transfers donor : ℚ) + t.quantity ≤ given (A.plan input).transfers donor := by
    exact_mod_cast grows
  push_cast at keeps takes
  linarith

/-- For stocks that fit the arithmetic. -/
theorem fair_iff_allSpared (fits : ∀ w ∈ input.warehouses, A.Fits (input.position w) ∧
      A.Fits (input.position w - input.allocated w)) :
    A.Fair input (A.plan input).transfers ↔ A.AllSpared input := by
  constructor
  · exact spared_of_fair
  · intro spared
    refine fair_of_planInv fits (planInv_planOf fits (fun served warehouse rest split _ => ?_) input.warehouses []
      (List.append_nil _).symm)
    exact spared served warehouse rest split

/-- For stocks that fit the arithmetic. -/
theorem fair_of_rounding (fits : ∀ w ∈ input.warehouses, A.Fits (input.position w) ∧
      A.Fits (input.position w - input.allocated w)) (rounding : A.RoundingSpares input) :
    A.Fair input (A.plan input).transfers := by
  refine fair_of_planInv fits (planInv_planOf fits (fun served warehouse rest split inv => ?_) input.warehouses []
    (List.append_nil _).symm)
  exact inv.spared rounding (split ▸ List.mem_append_right _ List.mem_cons_self)

/-! ### The exact plan and the float one -/

/-- In exact numbers every donor is spared. -/
theorem exact_plan_fair (input : TransferInput) : exact.Fair input (exact.plan input).transfers := by
  refine fair_of_rounding (fun _ _ => ⟨trivial, trivial⟩) ?_
  intro donor _ recipient _ _ _ _ position _ pos
  left
  have spec := transferableSurplus_spec pos
  push_cast
  exact spec

/-- **Fairness to donors.** With stocks that floats hold exactly, a plan is fair where the rounding of the float
surplus spares the donors. It is fair if and only if each donor picked can spare the surplus it is credited with or
what the recipient lacks. -/
theorem transfer_plan_fair_of_rounding (input : TransferInput) (small : ∀ w ∈ input.warehouses,
      |input.position w| ≤ 2 ^ 53 ∧ |input.position w - input.allocated w| ≤ 2 ^ 53) :
    (binary64.RoundingSpares input → binary64.Fair input (binary64.plan input).transfers) ∧
      (binary64.Fair input (binary64.plan input).transfers ↔ binary64.AllSpared input) :=
  ⟨fair_of_rounding small, fair_iff_allSpared small⟩

/-- Two recipients share the surplus of one donor. -/
def sharedDonor : TransferInput where
  warehouses := ["WH-CENTRAL", "WH-EAST", "WH-WEST"]
  nodup := by decide
  position w := if w = "WH-CENTRAL" then 25 else 0
  allocated _ := 0
  allocated_nonneg _ := le_rfl
  demand _ := 0
  isOpen _ := false

/-- Thresholds of ten are ints, and nothing is rounded. -/
theorem transfer_plan_fair_of_rounding_shared :
    (binary64.plan sharedDonor).transfers = [⟨"WH-CENTRAL", "WH-EAST", 10⟩, ⟨"WH-CENTRAL", "WH-WEST", 5⟩] ∧
      binary64.Fair sharedDonor (binary64.plan sharedDonor).transfers := by
  refine ⟨by decide +kernel, (transfer_plan_fair_of_rounding sharedDonor (by decide +kernel)).1 ?_⟩
  intro donor _ recipient _ _ _ _ position _ pos
  have little : Binary64.reorderThreshold 0 = .int 10 := by decide +kernel
  left
  have credited := Binary64.transferableSurplus_of_bootstrap little pos
  show (Binary64.transferableSurplus _ _ 0 : ℚ) ≤ _ - (Binary64.reorderThreshold 0).value
  rw [credited, little]
  push_cast
  exact le_rfl

/-- The donor `WH-B` has shipped 29: its threshold is a little above 29, and its surplus is rounded up to 33. -/
def roundedUp : TransferInput where
  warehouses := ["WH-A", "WH-B", "WH-C"]
  nodup := by decide
  position w := if w = "WH-A" then 9 else if w = "WH-B" then 62 else 20
  allocated _ := 0
  allocated_nonneg _ := le_rfl
  demand w := Binary64.avgDailyShippedDemand (if w = "WH-A" then 42 else if w = "WH-B" then 29 else 0)
  isOpen _ := false

/-- It gives 33, is left with 29 and is then sent one unit itself. -/
theorem rounded_up_donor_below_threshold :
    (binary64.plan roundedUp).transfers = [⟨"WH-B", "WH-A", 33⟩, ⟨"WH-C", "WH-B", 1⟩] ∧
      ¬ binary64.Fair roundedUp (binary64.plan roundedUp).transfers := by
  have transfers : (binary64.plan roundedUp).transfers = [⟨"WH-B", "WH-A", 33⟩, ⟨"WH-C", "WH-B", 1⟩] := by
    decide +kernel
  refine ⟨transfers, fun fair => ?_⟩
  rw [transfers] at fair
  have keeps := fair.keeps _ List.mem_cons_self
  revert keeps
  decide +kernel

end Arithmetic

end MeadowOps.Flow
