import MeadowOps.Flow.Stock
import MeadowOps.Lib.Runs
import MeadowOps.Scheduler.Tick

/-!
# Runs of `run_scheduled_tick`

A run ticks a session on any days, commits or rolls back between ticks, and may edit the master
data. `flowRuns start` starts with committed tables that satisfy `start`. An invariant of the steps
of the flow holds of the committed and of the pending tables in every state of every run
(`flowRuns_invariant`).
-/

namespace MeadowOps.Flow

open Db Lib Scheduler

def FlowError.aborts : FlowError → Bool
  | .integrityError _ => true
  | _ => false

/-- `run_scheduled_tick(session, d)`. -/
def tick (env : TickEnv) (d : Date) : EStateM FlowError (Tx (Database World)) ScheduledTick :=
  runScheduledTick FlowError.aborts (scheduledFlow env d) d

inductive RunLabel where
  | tick (env : TickEnv) (d : Date)
  | commit
  | rollback
  | edit (m : Master)

/-- Replace the master data in the open transaction. -/
def editMaster (m : Master) (t : Tx (Database World)) : Tx (Database World) :=
  { t with pending := { t.pending with tables := { t.pending.tables with master := m } } }

def runStep (t : Tx (Database World)) : RunLabel → Tx (Database World)
  | .tick env d => endState (tick env d t)
  | .commit => t.commit
  | .rollback => t.rollback
  | .edit m => editMaster m t

def flowRuns (start : World → Prop) : System (Tx (Database World)) RunLabel where
  init t := ∃ db, t = Tx.start db ∧ start db.tables
  step t l t' := t' = runStep t l

/-- Following labels from a start is a run. -/
theorem flowRuns_follow {start : World → Prop} {db : Database World} (h : start db.tables)
    (labels : List RunLabel) : (flowRuns start).Reachable (labels.foldl runStep (Tx.start db)) := by
  have gen : ∀ (labels : List RunLabel) (t : Tx (Database World)), (flowRuns start).Reachable t →
      (flowRuns start).Reachable (labels.foldl runStep t) := by
    intro labels
    induction labels with
    | nil => exact fun t ht => ht
    | cons l labels ih => exact fun t ht => ih _ (.next ht trivial rfl)
  exact gen labels _ (.start ⟨db, rfl, h⟩)

/-- The tables have no operational row. -/
def EmptyWorld (w : World) : Prop := w = World.empty w.master

theorem emptyWorld (m : Master) : EmptyWorld (World.empty m) := rfl

theorem EmptyWorld.wf {w : World} (h : EmptyWorld w) : Wf w := by
  rw [h]
  exact ⟨List.nodup_nil, List.nodup_nil, List.nodup_nil, List.nodup_nil⟩

/-- An empty ledger and any master data. Of the other tables only what every run from an empty world keeps is
asked: distinct keys, no line shipped beyond its quantity, and transfers of something. The CHECK constraints say
the last, nothing in the schema says the second. -/
structure StockStart (w : World) : Prop where
  keys : Wf w
  ledger : w.inventoryTransaction = []
  lines : ∀ so ∈ w.salesOrder, ∀ l ∈ so.lines, l.quantityShipped ≤ l.quantityOrdered
  transfers : ∀ t ∈ w.warehouseTransfer, 0 < t.quantity

theorem EmptyWorld.stockStart {w : World} (h : EmptyWorld w) : StockStart w := by
  refine ⟨h.wf, ?_, ?_, ?_⟩ <;> rw [h] <;> simp [World.empty]

theorem StockStart.stocked {w : World} (h : StockStart w) : Stocked w :=
  ⟨neverNegative_iff_solvent.2 (h.ledger ▸ Solvent.nil), h.lines, h.transfers⟩

/-- What the flow of a tick and an edit keep, a step of a run keeps in both states. -/
theorem runStep_both {I : World → Prop} {t : Tx (Database World)} {l : RunLabel}
    (ht : t.Both fun db => Wf db.tables ∧ I db.tables)
    (flow : ∀ env d events w, l = .tick env d → scheduledFlow env d t.pending.tables = .ok events w → I w)
    (edit : ∀ m, I t.pending.tables → I { t.pending.tables with master := m }) :
    (runStep t l).Both fun db => Wf db.tables ∧ I db.tables := by
  cases l with
  | tick env d =>
    refine runScheduledTick_both (I := fun w => Wf w ∧ I w) ht fun events w run => ?_
    have steps := scheduledFlow_steps env d ht.2.1
    rw [run] at steps
    exact ⟨steps.wf ht.2.1, flow env d events w rfl run⟩
  | commit => exact Tx.Both.commit ht
  | rollback => exact Tx.Both.rollback ht
  | edit m => exact ⟨ht.1, { ht.2.1 with }, edit m ht.2.2⟩

/-- What the steps keep, under a condition on the ticks, holds in every state of a run. -/
theorem flowRuns_invariant {start I : World → Prop} {ok : Tx (Database World) → RunLabel → Prop}
    (wf : ∀ w, start w → Wf w) (init : ∀ w, start w → I w)
    (flow : ∀ t env d events w, (flowRuns start).Reach ok t → ok t (.tick env d) →
      Wf t.pending.tables → I t.pending.tables →
      scheduledFlow env d t.pending.tables = .ok events w → I w)
    (edit : ∀ w m, I w → I { w with master := m })
    {t : Tx (Database World)} (h : (flowRuns start).Reach ok t) :
    t.Both fun db => Wf db.tables ∧ I db.tables := by
  refine h.invariant ?_ fun t l t' reached ht hok hstep => ?_
  · rintro t ⟨db, rfl, hdb⟩
    exact ⟨⟨wf _ hdb, init _ hdb⟩, ⟨wf _ hdb, init _ hdb⟩⟩
  · subst hstep
    refine runStep_both ht (fun env d events w same run => ?_) fun m => edit _ m
    subst same
    exact flow t env d events w reached hok ht.2.1 ht.2.2 run

/-- The rule for an invariant that every single step keeps. -/
theorem flowRuns_step_invariant {start I : World → Prop} (wf : ∀ w, start w → Wf w)
    (init : ∀ w, start w → I w) (step : ∀ d w w', FlowStep AnyAllocation d w w' → Wf w → I w → I w')
    (edit : ∀ w m, I w → I { w with master := m }) {t : Tx (Database World)}
    (h : (flowRuns start).Reachable t) : t.Both fun db => Wf db.tables ∧ I db.tables := by
  refine flowRuns_invariant wf init (fun t env d events w _ _ hwf hI run => ?_) edit h
  have steps := scheduledFlow_steps env d hwf
  rw [run] at steps
  exact FlowSteps.invariant (step d) hwf hI steps

/-! ## A week -/

/-- A shop that orders boxes at one of three warehouses. -/
def shop : Master where
  product := [⟨"boxes", .corrugatedPackaging, true⟩]
  warehouse := [⟨"main", true⟩, ⟨"north", true⟩, ⟨"west", true⟩]
  supplier := [⟨"acme", "corrugated", 1, .low, true⟩]
  customer := [⟨"shop", "main", true⟩]
  carrier := [⟨"swift", 1, 1, .low, 100, true⟩]

/-- What the days draw: the shop orders twenty boxes on Monday, the warehouse `west` gets half of what it still
waits for each day, and all else arrives in full. -/
def weekRng (d : Date) (purpose : Purpose) : Rng :=
  if purpose = .demand "shop" ∧ d = monday then Rng.greatest 0 (by decide +kernel)
  else if purpose = .poPartialReceipt (textId "west") then Rng.least
  else Rng.greatest (9 / 10) (by decide +kernel)

/-- A tick that numbers its documents by the day. -/
def weekEnv (day : ℕ) : TickEnv :=
  { TickEnv.inOrder weekRng with
    purchaseOrderId := fun _ wh => 1000 * day + textId wh
    purchaseOrderHex := fun _ wh => wh ++ toString day
    transferId := fun _ _ => day }

/-- A tick and a commit on each day from Monday to Sunday. -/
def week : List RunLabel :=
  [.tick (weekEnv 0) monday, .commit, .tick (weekEnv 1) (monday + 1), .commit,
    .tick (weekEnv 2) (monday + 2), .commit, .tick (weekEnv 3) (monday + 3), .commit,
    .tick (weekEnv 4) (monday + 4), .commit, .tick (weekEnv 5) (monday + 5), .commit,
    .tick (weekEnv 6) (monday + 6), .commit]

def beforeMonday : Database World := ⟨⟨monday - 1, .running⟩, [], World.empty shop⟩

end MeadowOps.Flow
