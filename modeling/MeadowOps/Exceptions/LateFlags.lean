import MeadowOps.Exceptions.LateShipments
import MeadowOps.Lib.Runs

/-!
# The flags of late shipments over runs

Consecutive daily ticks, each followed by `evaluate_exceptions`. The carriers may be edited between two
days, but not those of a shipment in flight.
-/

namespace MeadowOps.Exceptions

open Db Lib MeadowOps.Flow

/-- The tables, and the day of the last tick. -/
structure DailyState where
  world : World
  flags : List ExceptionFlag
  day : Date

/-- What one call of `evaluate_exceptions` takes from outside: the calls for the other categories, and
for late shipments what `SyncCall` asks for. -/
structure EvaluationEnv where
  before : List SyncCall
  after : List SyncCall
  shipments : RowOrder Shipment
  rows : RowOrder ExceptionFlag
  now : Instant
  newId : EntityKey → Uuid
  refuses : ExceptionFlag → Bool

def lateShipmentCall (e : EvaluationEnv) (thresholdValue : ℚ) (d : Date) (w : World) : SyncCall where
  category := lateShipmentCategory
  simulationDate := d
  thresholdValue := thresholdValue
  evaluations := lateShipmentEvaluations e.shipments d (graceDays thresholdValue) w
  rows := e.rows
  now := e.now
  newId := e.newId
  refuses := e.refuses

/-- Calls one after another; `none` when one raises. -/
def syncAll (calls : List SyncCall) (flags : List ExceptionFlag) : Option (List ExceptionFlag) :=
  calls.foldlM (fun flags c => (c.syncFlags flags).map Prod.fst) flags

/-- `evaluate_exceptions`, with the rule for late shipments active. -/
def evaluateExceptions (e : EvaluationEnv) (thresholdValue : ℚ) (d : Date) (w : World)
    (flags : List ExceptionFlag) : Option (List ExceptionFlag) :=
  syncAll (e.before ++ lateShipmentCall e thresholdValue d w :: e.after) flags

/-- The tick of the next day and the evaluation after it, when both return. -/
def runDay (rng : Date → Purpose → Rng) (thresholdValue : ℚ) (env : TickEnv) (e : EvaluationEnv)
    (s : DailyState) : Option DailyState :=
  match scheduledFlow { env with rng := rng } (s.day + 1) s.world with
  | .error _ _ => none
  | .ok _ w => (evaluateExceptions e thresholdValue (s.day + 1) w s.flags).map fun flags =>
    ⟨w, flags, s.day + 1⟩

inductive DailyLabel where
  | edit (m : Master)
  | day (env : TickEnv) (e : EvaluationEnv)

def DailyStep (rng : Date → Purpose → Rng) (thresholdValue : ℚ) (s : DailyState) (l : DailyLabel)
    (s' : DailyState) : Prop :=
  match l with
  | .edit m => CarriersAdmitted m ∧
      (∀ sh ∈ s.world.shipment, sh.status.inFlight = true →
        lookup (·.id) sh.carrierId m.carrier = lookup (·.id) sh.carrierId s.world.master.carrier) ∧
      s' = { s with world := { s.world with master := m } }
  | .day env e => (∀ c ∈ e.before ++ e.after, c.category ≠ lateShipmentCategory) ∧
      runDay rng thresholdValue env e s = some s'

/-- No shipment yet, and no flag of the category. -/
structure DailyStart (s : DailyState) : Prop where
  wf : Wf s.world
  carriers : CarriersAdmitted s.world.master
  shipments : s.world.shipment = []
  coherent : Coherent s.flags
  flags : ∀ f ∈ s.flags, f.category ≠ lateShipmentCategory

def dailyRuns (rng : Date → Purpose → Rng) (thresholdValue : ℚ) : System DailyState DailyLabel :=
  ⟨DailyStart, DailyStep rng thresholdValue⟩

/-- No shipment leaves that was promised for the day it was shipped and is on time, unless there is a
grace. -/
def NoneSameDay (rng : Date → Purpose → Rng) (thresholdValue : ℚ) (s : DailyState) :
    DailyLabel → Prop
  | .edit _ => True
  | .day _ _ => ∀ sh ∈ s.world.shipment, sh.status = .pending →
      ¬ (graceDays thresholdValue = 0 ∧ promisedTransit sh = 0 ∧
        transitDays rng s.world.master.carrier sh = some 0)

/-! ## The other categories -/

def lateFlags (flags : List ExceptionFlag) : List ExceptionFlag :=
  flags.filter fun f => decide (f.category = lateShipmentCategory)

theorem mem_lateFlags {flags : List ExceptionFlag} {f : ExceptionFlag} :
    f ∈ lateFlags flags ↔ f ∈ flags ∧ f.category = lateShipmentCategory := by
  rw [lateFlags, List.mem_filter, decide_eq_true_iff]

/-- Calls for other categories leave the flags of late shipments alone. -/
theorem syncAll_other {calls : List SyncCall} {flags flags' : List ExceptionFlag}
    (other : ∀ c ∈ calls, c.category ≠ lateShipmentCategory) (h : Coherent flags)
    (ok : syncAll calls flags = some flags') :
    Coherent flags' ∧ lateFlags flags' = lateFlags flags := by
  induction calls generalizing flags with
  | nil =>
    cases ok
    exact ⟨h, rfl⟩
  | cons c calls ih =>
    obtain ⟨here, rest⟩ := List.forall_mem_cons.1 other
    rw [syncAll, List.foldlM_cons] at ok
    obtain ⟨mid, first, later⟩ := Option.bind_eq_some_iff.1 ok
    obtain ⟨⟨rows, opened, resolved⟩, call, rfl⟩ := Option.map_eq_some_iff.1 first
    have coherent := (c.syncFlags_some h call).2.2.2
    obtain ⟨coherent', same⟩ := ih rest coherent later
    refine ⟨coherent', same.trans ?_⟩
    have others := (c.syncLaw h call).otherCategories
    have narrowed := congrArg lateFlags others
    rw [lateFlags, lateFlags, List.filter_filter, List.filter_filter] at narrowed
    have all : ∀ rows : List ExceptionFlag, rows.filter (fun f =>
        decide (f.category = lateShipmentCategory) && decide (f.category ≠ c.category)) =
          lateFlags rows := by
      intro rows
      apply List.filter_congr
      intro f _
      by_cases late : f.category = lateShipmentCategory
      · simp [late, Ne.symm here]
      · simp [late]
    rwa [all, all] at narrowed

theorem evaluateExceptions_some {e : EvaluationEnv} {thresholdValue : ℚ} {d : Date} {w : World}
    {flags flags' : List ExceptionFlag}
    (ok : evaluateExceptions e thresholdValue d w flags = some flags') :
    ∃ flags₁ flags₂ opened resolved, syncAll e.before flags = some flags₁ ∧
      (lateShipmentCall e thresholdValue d w).syncFlags flags₁ = some (flags₂, opened, resolved) ∧
      syncAll e.after flags₂ = some flags' := by
  rw [evaluateExceptions, syncAll, List.foldlM_append] at ok
  obtain ⟨flags₁, before, rest⟩ := Option.bind_eq_some_iff.1 ok
  rw [List.foldlM_cons] at rest
  obtain ⟨flags₂, late, after⟩ := Option.bind_eq_some_iff.1 rest
  obtain ⟨⟨rows, opened, resolved⟩, call, rfl⟩ := Option.map_eq_some_iff.1 late
  exact ⟨flags₁, rows, opened, resolved, before, call, after⟩

/-! ## One day -/

/-- What is flagged late stays flagged. -/
def StillFlagged (s s' : DailyState) : Prop :=
  ∀ key, OpenAt s.flags lateShipmentCategory key → OpenAt s'.flags lateShipmentCategory key

/-- Late by more than the grace, which is over. -/
def Overdue (g : ℤ) (d : Date) (sh : Shipment) (a : ℤ) : Prop :=
  g < a - promisedTransit sh ∧ sh.promisedDeliveryDate + g < d

/-- What holds after every day. -/
structure LateInv (rng : Date → Purpose → Rng) (thresholdValue : ℚ) (s : DailyState) : Prop where
  wf : Wf s.world
  carriers : CarriersAdmitted s.world.master
  shipments : ∀ sh ∈ s.world.shipment, ∃ a, ShipmentAt rng s.world.master.carrier s.day sh a
  coherent : Coherent s.flags
  flagged : ∀ f ∈ lateFlags s.flags, f.isOpen = true ∧ ∃ sh ∈ s.world.shipment, ∃ a,
    f.entityKey = shipmentKey sh.id ∧ ShipmentAt rng s.world.master.carrier s.day sh a ∧
      Overdue (graceDays thresholdValue) s.day sh a
  isOpen : ∀ sh ∈ s.world.shipment, ∀ a, ShipmentAt rng s.world.master.carrier s.day sh a →
    Overdue (graceDays thresholdValue) s.day sh a →
      OpenAt s.flags lateShipmentCategory (shipmentKey sh.id)

variable {rng : Date → Purpose → Rng} {thresholdValue : ℚ}

theorem ShipmentAt.unique {carriers : List Carrier} {d : Date} {sh : Shipment} {a a' : ℤ}
    (h : ShipmentAt rng carriers d sh a) (h' : ShipmentAt rng carriers d sh a') : a = a' :=
  Option.some.inj (h.actual.symm.trans h'.actual)

/-- The shipments after the tick, and the verdict on each. -/
theorem tick_verdicts {s : DailyState} {w : World} {env : TickEnv} {e : EvaluationEnv}
    (tick : ShipmentTick rng (s.day + 1) s.world w) (inv : LateInv rng thresholdValue s)
    (grace : 0 ≤ graceDays thresholdValue) (ok : NoneSameDay rng thresholdValue s (.day env e)) :
    ∀ sh ∈ w.shipment, ∃ a, ShipmentAt rng w.master.carrier (s.day + 1) sh a ∧
      (evaluateLateShipment sh.promisedDeliveryDate sh.actualDeliveryDate (s.day + 1)
        (graceDays thresholdValue) sh.status = true ↔
          Overdue (graceDays thresholdValue) (s.day + 1) sh a) := by
  obtain ⟨new, rows, created⟩ := tick.shipments
  intro sh mem
  rw [tick.master]
  rw [rows, List.mem_append] at mem
  rcases mem with mem | mem
  · obtain ⟨sh₀, mem₀, rfl⟩ := List.mem_map.1 mem
    obtain ⟨a, now⟩ := inv.shipments sh₀ mem₀
    refine ⟨a, now.advance, now.advance.verdict grace ?_⟩
    rintro status yesterday ⟨noGrace, promised, onTime⟩
    obtain ⟨-, shipDate, promisedDate, -⟩ :=
      @advanceShipment_agreed rng s.world.master.carrier (s.day + 1) sh₀
    rw [shipDate] at yesterday
    cases now.stage with
    | pending pending undelivered today =>
      refine ok sh₀ mem₀ pending ⟨noGrace, ?_, ?_⟩
      · rwa [promisedTransit, shipDate, promisedDate] at promised
      · rw [← actualTransit_undelivered undelivered, now.actual, onTime]
    | inTransit _ _ left _ =>
      unfold Date at *
      omega
    | delivered _ _ left _ =>
      unfold Date at *
      omega
  · obtain ⟨a, now⟩ := shipmentAt_new rng (created sh mem) inv.carriers
    refine ⟨a, now, now.verdict grace fun status => ?_⟩
    rw [(created sh mem).status] at status
    cases status

/-- The verdict of the call on a shipment. -/
theorem lateShipmentCall_verdict {e : EvaluationEnv} {d : Date} {w : World}
    (keyed : Keyed (·.id) w.shipment) {sh : Shipment} (mem : sh ∈ w.shipment) :
    (lateShipmentCall e thresholdValue d w).verdict (shipmentKey sh.id) =
      some (evaluateLateShipment sh.promisedDeliveryDate sh.actualDeliveryDate d
        (graceDays thresholdValue) sh.status) := by
  have found : (lateShipmentEvaluations e.shipments d (graceDays thresholdValue) w).get?
      (shipmentKey sh.id) = some (lateShipmentEvaluation d (graceDays thresholdValue) sh) :=
    (lateShipmentEvaluations_get? keyed).2 ⟨sh, mem, rfl, rfl⟩
  simp only [SyncCall.verdict, SyncCall.evaluation, Dict.getD, lateShipmentCall, found]
  rfl

/-- A shipment of yesterday is there today, as late as it was. -/
theorem tick_overdue {s : DailyState} {w : World} {g : ℤ} (tick : ShipmentTick rng (s.day + 1) s.world w)
    {sh : Shipment} (mem : sh ∈ s.world.shipment) {a : ℤ}
    (now : ShipmentAt rng s.world.master.carrier s.day sh a) (overdue : Overdue g s.day sh a) :
    ∃ sh' ∈ w.shipment, sh'.id = sh.id ∧ ShipmentAt rng w.master.carrier (s.day + 1) sh' a ∧
      Overdue g (s.day + 1) sh' a := by
  obtain ⟨new, rows, -⟩ := tick.shipments
  obtain ⟨id, shipDate, promised, -⟩ :=
    @advanceShipment_agreed rng s.world.master.carrier (s.day + 1) sh
  refine ⟨_, ?_, id, ?_, ?_⟩
  · rw [rows]
    exact List.mem_append_left _ (List.mem_map_of_mem mem)
  · rw [tick.master]
    exact now.advance
  · rw [Overdue, promisedTransit, promised, shipDate]
    exact ⟨overdue.1, overdue.2.trans (lt_add_one _)⟩

/-- The call for late shipments, on flags that were right yesterday. -/
theorem lateShipmentCall_inv {s : DailyState} {w : World} {env : TickEnv} {e : EvaluationEnv}
    {flags₁ flags₂ : List ExceptionFlag} {opened resolved : ℕ} (inv : LateInv rng thresholdValue s)
    (grace : 0 ≤ graceDays thresholdValue) (ok : NoneSameDay rng thresholdValue s (.day env e))
    (tick : ShipmentTick rng (s.day + 1) s.world w) (coherent : Coherent flags₁)
    (same : lateFlags flags₁ = lateFlags s.flags)
    (call : (lateShipmentCall e thresholdValue (s.day + 1) w).syncFlags flags₁ =
      some (flags₂, opened, resolved)) :
    (∀ f ∈ lateFlags flags₂, f.isOpen = true ∧ ∃ sh ∈ w.shipment, ∃ a,
      f.entityKey = shipmentKey sh.id ∧ ShipmentAt rng w.master.carrier (s.day + 1) sh a ∧
        Overdue (graceDays thresholdValue) (s.day + 1) sh a) ∧
    ∀ sh ∈ w.shipment, ∀ a, ShipmentAt rng w.master.carrier (s.day + 1) sh a →
      Overdue (graceDays thresholdValue) (s.day + 1) sh a →
        OpenAt flags₂ lateShipmentCategory (shipmentKey sh.id) := by
  have verdicts := tick_verdicts tick inv grace ok
  generalize hc : lateShipmentCall e thresholdValue (s.day + 1) w = c at call
  have category : c.category = lateShipmentCategory := by rw [← hc]; rfl
  have flagged : ∀ sh ∈ w.shipment, ∀ a, ShipmentAt rng w.master.carrier (s.day + 1) sh a →
      Overdue (graceDays thresholdValue) (s.day + 1) sh a →
        c.verdict (shipmentKey sh.id) = some true := by
    intro sh mem a now overdue
    obtain ⟨a', now', iff⟩ := verdicts sh mem
    obtain rfl := now.unique now'
    rw [← hc, lateShipmentCall_verdict tick.keyed mem, iff.2 overdue]
  obtain ⟨rfl, -, -, -⟩ := c.syncFlags_some coherent call
  constructor
  · intro f hf
    obtain ⟨mem, late⟩ := mem_lateFlags.1 hf
    rcases List.mem_append.1 mem with old | new
    · obtain ⟨f₀, mem₀, rfl⟩ := List.mem_map.1 old
      have frozen := c.updated_frozen f₀
      have wasFlagged : f₀ ∈ lateFlags s.flags := by
        rw [← same, mem_lateFlags]
        exact ⟨mem₀, frozen.category.symm.trans late⟩
      obtain ⟨wasOpen, sh, shMem, a, key, now, overdue⟩ := inv.flagged f₀ wasFlagged
      obtain ⟨sh', mem', id, now', overdue'⟩ := tick_overdue tick shMem now overdue
      have yes := flagged sh' mem' a now' overdue'
      rw [id, ← key] at yes
      refine ⟨?_, sh', mem', a, ?_, now', overdue'⟩
      · rw [c.updated_isOpen, yes]
        exact ⟨wasOpen, fun no => by cases no.2⟩
      · rw [frozen.entityKey, key, id]
    · obtain ⟨key, ev, get, isFlagged, -, rfl⟩ := c.mem_added.1 new
      refine ⟨rfl, ?_⟩
      rw [← hc] at get
      obtain ⟨sh, shMem, rfl, rfl⟩ := (lateShipmentEvaluations_get? tick.keyed).1 get
      obtain ⟨a, now, iff⟩ := verdicts sh shMem
      exact ⟨sh, shMem, a, rfl, now, iff.1 (Option.some.inj isFlagged)⟩
  · intro sh mem a now overdue
    rw [← category, c.openEntities_after]
    exact .inl (flagged sh mem a now overdue)

/-! ## Runs -/

theorem DailyStart.inv {s : DailyState} (h : DailyStart s) : LateInv rng thresholdValue s where
  wf := h.wf
  carriers := h.carriers
  shipments sh mem := by
    rw [h.shipments] at mem
    cases mem
  coherent := h.coherent
  flagged f mem := absurd (mem_lateFlags.1 mem).2 (h.flags f (mem_lateFlags.1 mem).1)
  isOpen sh mem := by
    rw [h.shipments] at mem
    cases mem

theorem LateInv.edit {s : DailyState} {m : Master} (h : LateInv rng thresholdValue s)
    (admitted : CarriersAdmitted m)
    (same : ∀ sh ∈ s.world.shipment, sh.status.inFlight = true →
      lookup (·.id) sh.carrierId m.carrier = lookup (·.id) sh.carrierId s.world.master.carrier) :
    LateInv rng thresholdValue { s with world := { s.world with master := m } } where
  wf := { h.wf with }
  carriers := admitted
  shipments sh mem := by
    obtain ⟨a, now⟩ := h.shipments sh mem
    exact ⟨a, now.edit (same sh mem)⟩
  coherent := h.coherent
  flagged f mem := by
    obtain ⟨open_, sh, shMem, a, key, now, overdue⟩ := h.flagged f mem
    exact ⟨open_, sh, shMem, a, key, now.edit (same sh shMem), overdue⟩
  isOpen sh mem a now overdue :=
    h.isOpen sh mem a (now.edit fun inFlight => (same sh mem inFlight).symm) overdue

theorem LateInv.day {s s' : DailyState} {env : TickEnv} {e : EvaluationEnv}
    (h : LateInv rng thresholdValue s) (grace : 0 ≤ graceDays thresholdValue)
    (ok : NoneSameDay rng thresholdValue s (.day env e))
    (other : ∀ c ∈ e.before ++ e.after, c.category ≠ lateShipmentCategory)
    (run : runDay rng thresholdValue env e s = some s') :
    LateInv rng thresholdValue s' ∧ StillFlagged s s' := by
  rw [runDay] at run
  split at run
  · cases run
  · rename_i events w ticked
    obtain ⟨flags', evaluated, rfl⟩ := Option.map_eq_some_iff.1 run
    have tick := scheduledFlow_shipments { env with rng := rng } h.wf ticked
    have steps := scheduledFlow_steps { env with rng := rng } (s.day + 1) h.wf
    rw [ticked] at steps
    obtain ⟨flags₁, flags₂, opened, resolved, before, call, after⟩ := evaluateExceptions_some evaluated
    obtain ⟨coherent₁, same₁⟩ :=
      syncAll_other (fun c mem => other c (List.mem_append_left _ mem)) h.coherent before
    obtain ⟨flagged, isOpen⟩ := lateShipmentCall_inv h grace ok tick coherent₁ same₁ call
    obtain ⟨coherent', same'⟩ := syncAll_other (fun c mem => other c (List.mem_append_right _ mem))
      (SyncCall.syncFlags_some _ coherent₁ call).2.2.2 after
    have isOpen' : ∀ sh ∈ w.shipment, ∀ a, ShipmentAt rng w.master.carrier (s.day + 1) sh a →
        Overdue (graceDays thresholdValue) (s.day + 1) sh a →
          OpenAt flags' lateShipmentCategory (shipmentKey sh.id) := by
      intro sh mem a now overdue
      obtain ⟨f, hf, still, late, key⟩ := isOpen sh mem a now overdue
      have kept : f ∈ lateFlags flags' := by
        rw [same', mem_lateFlags]
        exact ⟨hf, late⟩
      exact ⟨f, (mem_lateFlags.1 kept).1, still, late, key⟩
    refine ⟨?_, ?later⟩
    case later =>
      rintro key ⟨f, hf, -, late, rfl⟩
      obtain ⟨-, sh, mem, a, key, now, overdue⟩ := h.flagged f (mem_lateFlags.2 ⟨hf, late⟩)
      obtain ⟨sh', mem', id, now', overdue'⟩ := tick_overdue tick mem now overdue
      rw [key, ← id]
      exact isOpen' sh' mem' a now' overdue'
    constructor
    case wf => exact steps.wf h.wf
    case carriers =>
      rw [tick.master]
      exact h.carriers
    case shipments =>
      intro sh mem
      obtain ⟨a, now, -⟩ := tick_verdicts tick h grace ok sh mem
      exact ⟨a, now⟩
    case coherent => exact coherent'
    case flagged =>
      intro f mem
      rw [same'] at mem
      exact flagged f mem
    case isOpen => exact isOpen'

/-- What the claim of lateness is worth in a state of a run. -/
structure LateFlagLaw (rng : Date → Purpose → Rng) (thresholdValue : ℚ) (s : DailyState) : Prop where
  /-- A shipment that takes as long as promised has no flag, open or resolved. -/
  onTime : ∀ sh ∈ s.world.shipment,
    actualTransit rng s.world.master.carrier sh = some (promisedTransit sh) →
      ∀ f ∈ s.flags, f.category = lateShipmentCategory → f.entityKey ≠ shipmentKey sh.id
  /-- No flag of the category has been resolved. -/
  kept : ∀ f ∈ s.flags, f.category = lateShipmentCategory → f.isOpen = true
  /-- A shipment that takes more than the grace longer than promised has an open flag once the grace is
  over. -/
  late : ∀ sh ∈ s.world.shipment, ∀ a, actualTransit rng s.world.master.carrier sh = some a →
    sh.promisedDeliveryDate + graceDays thresholdValue < sh.shipDate + a →
      sh.promisedDeliveryDate + graceDays thresholdValue < s.day →
        OpenAt s.flags lateShipmentCategory (shipmentKey sh.id)

theorem LateInv.law {s : DailyState} (h : LateInv rng thresholdValue s)
    (grace : 0 ≤ graceDays thresholdValue) : LateFlagLaw rng thresholdValue s where
  onTime sh mem onTime f hf late key := by
    obtain ⟨-, sh', mem', a, key', now, overdue, -⟩ := h.flagged f (mem_lateFlags.2 ⟨hf, late⟩)
    have id : sh'.id = sh.id := shipmentKey_inj (key'.symm.trans key)
    obtain rfl := List.inj_on_of_nodup_map h.wf.shipment mem' mem id
    rw [now.actual] at onTime
    cases onTime
    omega
  kept f hf late := (h.flagged f (mem_lateFlags.2 ⟨hf, late⟩)).1
  late sh mem a takes long ended := by
    obtain ⟨a', now⟩ := h.shipments sh mem
    obtain rfl : a = a' := Option.some.inj (takes.symm.trans now.actual)
    refine h.isOpen sh mem a now ⟨?_, ended⟩
    rw [promisedTransit]
    unfold Date at *
    omega

/-- A day keeps the flags in agreement with the shipments, unless a same-day shipment waits. -/
theorem LateInv.step {s s' : DailyState} {l : DailyLabel} (h : LateInv rng thresholdValue s)
    (grace : 0 ≤ graceDays thresholdValue) (ok : NoneSameDay rng thresholdValue s l)
    (step : DailyStep rng thresholdValue s l s') :
    LateInv rng thresholdValue s' ∧ StillFlagged s s' := by
  cases l with
  | edit m =>
    obtain ⟨admitted, same, rfl⟩ := step
    exact ⟨h.edit admitted same, fun _ was => was⟩
  | day env e => exact h.day grace ok step.1 step.2

/-- By induction over the days. -/
theorem lateInv_of_run {s : DailyState} (grace : 0 ≤ graceDays thresholdValue)
    (h : (dailyRuns rng thresholdValue).Reach (NoneSameDay rng thresholdValue) s) :
    LateInv rng thresholdValue s := by
  refine h.invariant (fun s start => ?_) (fun s l s' _ inv ok step => (inv.step grace ok step).1)
  exact DailyStart.inv start

/-- In a run in which no shipment on time leaves for the same day without a grace, the flags agree with
the lateness, and no later day takes a flag back. -/
theorem late_flags_agree (rng : Date → Purpose → Rng) (thresholdValue : ℚ)
    (grace : 0 ≤ graceDays thresholdValue) {s : DailyState}
    (h : (dailyRuns rng thresholdValue).Reach (NoneSameDay rng thresholdValue) s) :
    LateFlagLaw rng thresholdValue s ∧
      ∀ s', ((dailyRuns rng thresholdValue).after s).Reach (NoneSameDay rng thresholdValue) s' →
        StillFlagged s s' := by
  refine ⟨(lateInv_of_run grace h).law grace, fun s' later => ?_⟩
  refine (System.Reach.later (R := StillFlagged) (fun _ _ was => was) (fun s₁ s₂ s₃ first second => ?_)
    (fun s l s' reached ok step => ?_) h later).2
  · exact fun key was => second key (first key was)
  exact ((lateInv_of_run grace reached).step grace ok step).2

/-! ## A carrier that promises the same day -/

/-- An order that is allocated and covered by the stock, and one carrier. -/
def oneOrder (transitDays reliabilityPct : ℚ) : DailyState where
  world := { World.empty ⟨[], [], [], [],
      [⟨"express", transitDays, transitDays, .low, reliabilityPct, true⟩]⟩ with
    salesOrder := [⟨1, "SO-1", "shop", "main", monday - 1, monday, some (monday + 1), .allocated, [⟨"boxes", 5, 0⟩]⟩]
    inventoryTransaction := [⟨simDatetime (monday - 1), "boxes", "main", .receipt, 5, none, none⟩] }
  flags := []
  day := monday - 1

theorem oneOrder_start {transitDays reliabilityPct : ℚ} (nonneg : 0 ≤ transitDays) :
    DailyStart (oneOrder transitDays reliabilityPct) where
  wf := ⟨List.nodup_nil, List.nodup_singleton _, List.nodup_nil, List.nodup_nil⟩
  carriers c mem := by
    rw [List.mem_singleton.1 mem]
    exact ⟨nonneg, nonneg⟩
  shipments := rfl
  coherent := ⟨List.nodup_nil, fun _ mem => absurd mem List.not_mem_nil⟩
  flags _ mem := absurd mem List.not_mem_nil

/-- An evaluation of late shipments only. -/
def lateOnly : EvaluationEnv where
  before := []
  after := []
  shipments := .inserted
  rows := .inserted
  now := 0
  newId _ := 1
  refuses _ := false

/-- A day on which every generator draws the least value and no shipment has a grace. -/
def leastDay (s : DailyState) : Option DailyState :=
  runDay (fun _ _ => Rng.least) 0 (TickEnv.inOrder fun _ _ => Rng.least) lateOnly s

/-- The label of such a day. -/
def leastDayLabel : DailyLabel := .day (TickEnv.inOrder fun _ _ => Rng.least) lateOnly

theorem reach_leastDay {ok : DailyState → DailyLabel → Prop} {s s' : DailyState}
    (h : (dailyRuns (fun _ _ => Rng.least) 0).Reach ok s) (meets : ok s leastDayLabel)
    (run : leastDay s = some s') : (dailyRuns (fun _ _ => Rng.least) 0).Reach ok s' :=
  h.next meets ⟨fun _ mem => absurd mem List.not_mem_nil, run⟩

/-- The shipment of `oneOrder`, in transit. -/
def expressShipment : Shipment := ⟨1, 1, "express", "main", monday, monday, none, .inTransit⟩

/-- A shipment that takes zero days, as promised, is flagged on the day after it leaves. -/
theorem on_time_shipment_flagged :
    ¬ ∀ (rng : Date → Purpose → Rng) (thresholdValue : ℚ), 0 ≤ graceDays thresholdValue →
      ∀ s, (dailyRuns rng thresholdValue).Reachable s → LateFlagLaw rng thresholdValue s := by
  intro claim
  have flagged : ((leastDay (oneOrder 0 100)).bind leastDay).any (fun s =>
      decide (expressShipment ∈ s.world.shipment) &&
      decide (actualTransit (fun _ _ => Rng.least) s.world.master.carrier expressShipment = some 0) &&
      s.flags.any fun f => decide (f.category = lateShipmentCategory) &&
        decide (f.entityKey = shipmentKey 1)) = true := by decide +kernel
  obtain ⟨s₂, days, flagged⟩ := (Option.any_eq_true _ _).1 flagged
  obtain ⟨s₁, first, second⟩ := Option.bind_eq_some_iff.1 days
  rw [Bool.and_eq_true, Bool.and_eq_true, decide_eq_true_iff, decide_eq_true_iff,
    List.any_eq_true] at flagged
  obtain ⟨⟨mem, takes⟩, f, hf, late⟩ := flagged
  rw [Bool.and_eq_true, decide_eq_true_iff, decide_eq_true_iff] at late
  have start : (dailyRuns (fun _ _ => Rng.least) 0).Reachable (oneOrder 0 100) :=
    .start (oneOrder_start (by decide +kernel))
  have reached := reach_leastDay (reach_leastDay start trivial first) trivial second
  have law := claim (fun _ _ => Rng.least) 0 (by decide +kernel) s₂ reached
  exact law.onTime expressShipment mem takes f hf late.1 late.2

instance (rng : Date → Purpose → Rng) (thresholdValue : ℚ) (s : DailyState) :
    Decidable (NoneSameDay rng thresholdValue s leastDayLabel) :=
  inferInstanceAs (Decidable (∀ sh ∈ s.world.shipment, sh.status = .pending →
    ¬ (graceDays thresholdValue = 0 ∧ promisedTransit sh = 0 ∧
      transitDays rng s.world.master.carrier sh = some 0)))

/-- `n` days, as long as the condition is met. -/
def leastDays : ℕ → DailyState → Option DailyState
  | 0, s => some s
  | n + 1, s =>
    if NoneSameDay (fun _ _ => Rng.least) 0 s leastDayLabel then (leastDay s).bind (leastDays n)
    else none

theorem reach_leastDays {n : ℕ} {s s' : DailyState}
    (h : (dailyRuns (fun _ _ => Rng.least) 0).Reach (NoneSameDay (fun _ _ => Rng.least) 0) s)
    (run : leastDays n s = some s') :
    (dailyRuns (fun _ _ => Rng.least) 0).Reach (NoneSameDay (fun _ _ => Rng.least) 0) s' := by
  induction n generalizing s with
  | zero =>
    cases run
    exact h
  | succ n ih =>
    rw [leastDays] at run
    split at run
    · obtain ⟨mid, first, rest⟩ := Option.bind_eq_some_iff.1 run
      exact ih (reach_leastDay h ‹_› first) rest
    · cases run

/-- A shipment promised for the next day that takes one day longer is flagged on the third day. -/
theorem late_flags_agree_threeDays :
    ∃ s, leastDays 3 (oneOrder 1 0) = some s ∧ LateFlagLaw (fun _ _ => Rng.least) 0 s ∧
      (∀ s', ((dailyRuns (fun _ _ => Rng.least) 0).after s).Reach
        (NoneSameDay (fun _ _ => Rng.least) 0) s' → StillFlagged s s') ∧
      s.flags.map (fun f => (f.shipmentId, f.firstDetectedSimulationDate)) = [(some 1, monday + 2)] := by
  have flagged : (leastDays 3 (oneOrder 1 0)).any (fun s =>
      decide (s.flags.map (fun f => (f.shipmentId, f.firstDetectedSimulationDate)) =
        [(some 1, monday + 2)])) = true := by decide +kernel
  obtain ⟨s, run, flagged⟩ := (Option.any_eq_true _ _).1 flagged
  have reached := reach_leastDays (.start (oneOrder_start (by decide +kernel))) run
  obtain ⟨law, later⟩ := late_flags_agree (fun _ _ => Rng.least) 0 (by decide +kernel) reached
  exact ⟨s, run, law, later, of_decide_eq_true flagged⟩

end MeadowOps.Exceptions
