import MeadowOps.Flow.Shortages
import MeadowOps.Simulation.OfficeWorlds

/-!
# Every shortage is answered

What a tick leaves under way to a pair arrives, whatever the office does in between short of a rebuild. The
log of the ticks tells when: the first `SUCCESS` after the tick begins what is under way, and the next one
that is not dated before the day it is due brings it.
-/

namespace MeadowOps.Simulation

open Db Lib MeadowOps.Flow Scheduler

/-- The days of the `SUCCESS` rows of a log. -/
def successes (rows : List ScheduledTick) : List Date :=
  (rows.filter fun row => decide (row.status = .success)).map (·.simulationDate)

/-- The days of the ticks that have passed since `db`. -/
def passedSince (db db' : Database Office) : List Date :=
  successes (db'.scheduledTick.drop db.scheduledTick.length)

theorem successes_append (rows rows' : List ScheduledTick) :
    successes (rows ++ rows') = successes rows ++ successes rows' := by
  rw [successes, List.filter_append, List.map_append, successes, successes]

theorem successes_failed {rows : List ScheduledTick} (failed : ∀ row ∈ rows, row.status = .failed) :
    successes rows = [] := by
  rw [successes, List.map_eq_nil_iff, List.filter_eq_nil_iff]
  intro row mem
  rw [failed row mem]
  exact of_decide_eq_false rfl

/-- What was under way in `db` has arrived, or comes closer with the ticks that pass. -/
structure OnItsWay (db : Database Office) (p wh : String) (due : Date) (db' : Database Office) : Prop where
  reached : officeRuns.Reachable db'
  ledger : db.tables.platform.world.inventoryTransaction <+: db'.tables.platform.world.inventoryTransaction
  state : ∃ rows, db'.scheduledTick = db.scheduledTick ++ rows ∧
    (Arrived p wh db.tables.platform.world.inventoryTransaction
        db'.tables.platform.world.inventoryTransaction ∨
      Awaited db'.tables.platform.world p wh due (decide (successes rows ≠ [])) ∧
        ∀ d ∈ (successes rows).tail, d < due)

section

variable {db db' : Database Office} {p wh : String} {due : Date}

theorem OnItsWay.next {l : OfficeLabel} (h : OnItsWay db p wh due db') (other : l.isRebuild = false) :
    OnItsWay db p wh due (officeNext db' l) := by
  have inv := platformInv_of_run h.reached
  have told := statusesTold_of_run h.reached
  have reached : officeRuns.Reachable (officeNext db' l) := .next h.reached trivial rfl
  obtain ⟨rows, log, state⟩ := h.state
  rcases officeNext_world db' other with ⟨world, more, grown, failed⟩ | ⟨env, d, events, run, grown⟩
  · refine ⟨reached, by rw [world]; exact h.ledger, rows ++ more, by rw [grown, log, List.append_assoc], ?_⟩
    rw [world, successes_append, successes_failed failed, List.append_nil]
    exact state
  · have later := scheduledFlow_later inv.wf run
    refine ⟨reached, h.ledger.trans later.ledger, rows ++ [⟨d, events, .success⟩],
      by rw [grown, log, List.append_assoc], ?_⟩
    have passed : successes (rows ++ [⟨d, events, .success⟩]) = successes rows ++ [d] := successes_append _ _
    rw [passed]
    rcases state with arrived | ⟨awaited, early⟩
    · exact .inl (arrived.grown later.ledger)
    · rcases scheduledFlow_awaited inv.wf told run awaited with arrived | ⟨begun, first⟩
      · exact .inl (arrived.before h.ledger)
      · refine .inr ⟨?_, fun d' mem => ?_⟩
        · rw [decide_eq_true (List.append_ne_nil_of_right_ne_nil _ (List.cons_ne_nil _ _))]
          exact begun
        · cases before : successes rows with
          | nil =>
            rw [before] at mem
            cases mem
          | cons d₀ days =>
            rw [before] at mem early first
            rcases List.mem_append.1 mem with old | new
            · exact early d' old
            · rw [List.mem_singleton.1 new]
              exact first (decide_eq_true (List.cons_ne_nil _ _))

/-- What is under way arrives with the second of the ticks to come, or a later one, that is not before its
day. -/
theorem awaited_arrives (reached : officeRuns.Reachable db)
    (awaited : Awaited db.tables.platform.world p wh due false)
    (rest : (officeRuns.after db).Reach (fun _ l => l.isRebuild = false) db')
    (passed : ∃ d ∈ (passedSince db db').tail, due ≤ d) :
    Arrived p wh db.tables.platform.world.inventoryTransaction
      db'.tables.platform.world.inventoryTransaction := by
  have way : OnItsWay db p wh due db' := by
    refine rest.invariant (fun s start => ?_) fun s l s' _ way other step => ?_
    · obtain rfl : s = db := start
      exact ⟨reached, List.prefix_rfl, [], (List.append_nil _).symm, .inr ⟨awaited, fun _ mem => nomatch mem⟩⟩
    · obtain rfl : s' = officeNext s l := step
      exact way.next other
  obtain ⟨rows, log, state⟩ := way.state
  rcases state with arrived | ⟨-, early⟩
  · exact arrived
  · obtain ⟨d, mem, late⟩ := passed
    rw [passedSince, log, List.drop_left] at mem
    exact absurd late (not_le.2 (early d mem))

end

/-- After every tick that passes, an active pair is at its reorder point when the purchase pass ends, or
something is under way to it that arrives. -/
theorem shortages_are_answered {db db₁ : Database Office} (reached : officeRuns.Reachable db) (tick : OfficeTick)
    (next : db₁ = officeNext db (.tick tick)) (passed : passedSince db db₁ ≠ []) :
    ∃ passes : FlowPasses tick.day.tick (db.clock.simulationDate + 1) db.tables.platform.world
      db₁.tables.platform.world,
      ∀ product ∈ db.tables.platform.world.master.product, product.isActive = true →
      ∀ warehouse ∈ db.tables.platform.world.master.warehouse, warehouse.isActive = true →
        isBelowReorderPoint (currentInventoryPosition passes.reordered.2 product.id warehouse.id)
            (avgDailyShippedDemand passes.reordered.2 product.id warehouse.id (db.clock.simulationDate + 1))
            reorderSafetyDays = false ∨
          ∃ due, Awaited db₁.tables.platform.world product.id warehouse.id due false ∧
            ∀ db', (officeRuns.after db₁).Reach (fun _ l => l.isRebuild = false) db' →
              (∃ d ∈ (passedSince db₁ db').tail, due ≤ d) →
              Arrived product.id warehouse.id db₁.tables.platform.world.inventoryTransaction
                db'.tables.platform.world.inventoryTransaction := by
  have ran : ∃ events, scheduledFlow tick.day.tick (db.clock.simulationDate + 1) db.tables.platform.world =
      .ok events db₁.tables.platform.world := by
    rw [next] at passed ⊢
    rcases runTick_world tick db with ⟨-, rows, log, failed⟩ | ⟨events, run, -⟩
    · refine absurd ?_ passed
      rw [passedSince, show (officeNext db (.tick tick)).scheduledTick = _ from log, List.drop_left]
      exact successes_failed failed
    · exact ⟨events, run⟩
  obtain ⟨events, run⟩ := ran
  obtain ⟨passes⟩ := scheduledFlow_passes run
  refine ⟨passes, fun product hp activeProduct warehouse hwh activeWarehouse => ?_⟩
  rcases passes.answers product warehouse hp activeProduct hwh activeWarehouse with stocked | ⟨due, awaited⟩
  · exact .inl stocked
  · have reached₁ : officeRuns.Reachable db₁ := .next reached trivial next
    exact .inr ⟨due, awaited, fun db' rest passed => awaited_arrives reached₁ awaited rest passed⟩

/-- After the first tick the boxes are above their reorder point or awaited, and what is due within the next two ticks
has come in with them. -/
theorem shortages_are_answered_baseline :
    let db₁ := officeNext baselineOffice (.tick (leastTick 0))
    let db₂ := [OfficeLabel.tick (leastTick 10), .tick (leastTick 20)].foldl officeNext db₁
    (∃ passes : FlowPasses (leastTick 0).day.tick (baselineOffice.clock.simulationDate + 1)
        baselineOffice.tables.platform.world db₁.tables.platform.world,
      isBelowReorderPoint (currentInventoryPosition passes.reordered.2 "boxes" "main")
          (avgDailyShippedDemand passes.reordered.2 "boxes" "main" (baselineOffice.clock.simulationDate + 1))
          reorderSafetyDays = false ∨
        ∃ due, Awaited db₁.tables.platform.world "boxes" "main" due false ∧
          ((∃ d ∈ (passedSince db₁ db₂).tail, due ≤ d) →
            Arrived "boxes" "main" db₁.tables.platform.world.inventoryTransaction
              db₂.tables.platform.world.inventoryTransaction)) ∧
      passedSince db₁ db₂ = [739619, 739620] := by
  intro db₁ db₂
  refine ⟨?_, by decide +kernel⟩
  have rest : (officeRuns.after db₁).Reach (fun _ l => l.isRebuild = false) db₂ :=
    .next (l := .tick (leastTick 20)) (.next (l := .tick (leastTick 10)) (.start rfl) rfl rfl) rfl rfl
  have passed : passedSince baselineOffice db₁ = [739618] := by decide +kernel
  obtain ⟨passes, answered⟩ := shortages_are_answered (.start baselineOffice_seeded) (leastTick 0)
    (rfl : db₁ = _) (by rw [passed]; exact List.cons_ne_nil _ _)
  refine ⟨passes, ?_⟩
  rcases answered ⟨"boxes", .corrugatedPackaging, true⟩ (List.mem_singleton_self _) rfl ⟨"main", true⟩
      (List.mem_singleton_self _) rfl with stocked | ⟨due, awaited, arrives⟩
  · exact .inl stocked
  · exact .inr ⟨due, awaited, arrives db₂ rest⟩

end MeadowOps.Simulation
