import MeadowOps.Flow.Stock
import MeadowOps.Lib.Permuted
import MeadowOps.Lib.Triple
import Mathlib.Data.Nat.Log

/-!
# Purchase orders are received

Each tick on which an order is due brings at least half of what a line still waits for, so the remainders
are halved from tick to tick.
-/

namespace MeadowOps.Flow

open Db Lib

/-- What a tick brings to one order: the roll, and the order in which the lines come. -/
structure OrderTick where
  day : Date
  fraction : Option ℚ
  lines : RowOrder PurchaseOrderLine

/-- `None`, or a fraction between a half and nine tenths. -/
def OrderTick.Legal (t : OrderTick) : Prop := ∀ f ∈ t.fraction, 1 / 2 ≤ f ∧ f ≤ 9 / 10

/-- The tick receives goods for the order. -/
def OrderTick.receives (t : OrderTick) (po : PurchaseOrder) : Bool :=
  decide (po.status = .confirmed ∨ po.status = .partiallyReceived) && decide (po.expectedDeliveryDate ≤ t.day)

/-- The loop body of `_progress_purchase_orders`; only open orders are loaded. -/
def tickOrder (t : OrderTick) (po : PurchaseOrder) : PurchaseOrder :=
  if po.status.isOpen then
    if po.status = .submitted then { po with status := .confirmed }
    else if po.expectedDeliveryDate ≤ t.day then receivedOrder t.fraction (t.lines.rows po.lines) po
    else po
  else po

def orderAfter (po : PurchaseOrder) (ticks : List OrderTick) : PurchaseOrder :=
  ticks.foldl (fun po t => tickOrder t po) po

/-- The number of ticks that receive goods for the order. -/
def receivingTicks (po : PurchaseOrder) : List OrderTick → ℕ
  | [] => 0
  | t :: ticks => (if t.receives po then 1 else 0) + receivingTicks (tickOrder t po) ticks

/-- The largest remainder of a line. -/
def maxRemaining (po : PurchaseOrder) : ℕ :=
  (po.lines.map fun l => (PurchaseOrderLine.remaining l).toNat).foldr max 0

/-- What a receiving tick makes of a line. -/
structure LineReceives (l l' : PurchaseOrderLine) : Prop where
  product : l'.productId = l.productId
  ordered : l'.quantityOrdered = l.quantityOrdered
  finished : PurchaseOrderLine.remaining l ≤ 0 → l' = l
  halved : 0 < PurchaseOrderLine.remaining l → 0 ≤ PurchaseOrderLine.remaining l' ∧
    PurchaseOrderLine.remaining l' < PurchaseOrderLine.remaining l ∧
    PurchaseOrderLine.remaining l' ≤ ⌈(PurchaseOrderLine.remaining l : ℚ) / 2⌉

/-- What a receiving tick makes of an order. -/
structure OrderReceives (po po' : PurchaseOrder) : Prop where
  lines : ∃ rows, rows.Perm po.lines ∧ List.Forall₂ LineReceives rows po'.lines
  received : po'.status = .received ↔ ∀ l ∈ po'.lines, PurchaseOrderLine.remaining l ≤ 0
  status : po'.status = .received ∨ po'.status = .partiallyReceived

/-- What holds of an order that is ticked on. -/
structure CompletesIn (po : PurchaseOrder) (ticks : List OrderTick) : Prop where
  receives : ∀ before t after, ticks = before ++ t :: after → t.receives (orderAfter po before) = true →
    OrderReceives (orderAfter po before) (tickOrder t (orderAfter po before))
  /-- No other tick touches the lines or ends the order. -/
  waits : ∀ before t after, ticks = before ++ t :: after → t.receives (orderAfter po before) = false →
    (tickOrder t (orderAfter po before)).lines = (orderAfter po before).lines ∧
      ((tickOrder t (orderAfter po before)).status = .received ↔
        (orderAfter po before).status = .received)
  atMost : receivingTicks po ticks ≤ Nat.clog 2 (maxRemaining po) + 1
  completed : receivingTicks po ticks = Nat.clog 2 (maxRemaining po) + 1 →
    (orderAfter po ticks).status = .received
  /-- One tick may go to the confirmation. -/
  due : Nat.clog 2 (maxRemaining po) + 2 ≤ ticks.countP (fun t => po.expectedDeliveryDate ≤ t.day) →
    (orderAfter po ticks).status = .received

/-! ## A line -/

theorem receiveQuantity_half {fraction : Option ℚ} (legal : ∀ f ∈ fraction, 1 / 2 ≤ f ∧ f ≤ 9 / 10) {r : ℤ}
    (pos : 0 < r) : r - receiveQuantity fraction r ≤ (r + 1) / 2 := by
  unfold receiveQuantity
  cases fraction with
  | none =>
    dsimp only
    omega
  | some f =>
    have half := (legal f rfl).1
    have posQ : (0 : ℚ) < r := by exact_mod_cast pos
    have enough : r / 2 ≤ pyInt (r * f) := by
      rw [pyInt, if_pos (by positivity), Int.le_floor]
      have floor : ((r / 2 : ℤ) : ℚ) ≤ (r : ℚ) / 2 := by
        rw [le_div_iff₀ (by norm_num)]
        exact_mod_cast Int.ediv_mul_le r (by norm_num)
      nlinarith
    dsimp only
    omega

theorem ceil_half (r : ℤ) : ⌈(r : ℚ) / 2⌉ = (r + 1) / 2 := by
  have least : r ≤ 2 * ((r + 1) / 2) := by omega
  have less : 2 * ((r + 1) / 2) ≤ r + 1 := by omega
  generalize (r + 1) / 2 = k at least less
  have leastQ : (r : ℚ) ≤ 2 * k := by exact_mod_cast least
  have lessQ : 2 * (k : ℚ) ≤ r + 1 := by exact_mod_cast less
  rw [Int.ceil_eq_iff]
  constructor <;> linarith

theorem lineReceives_of_legal {fraction : Option ℚ} (legal : ∀ f ∈ fraction, 1 / 2 ≤ f ∧ f ≤ 9 / 10)
    (l : PurchaseOrderLine) : LineReceives l (receiveLine fraction l) := by
  unfold receiveLine
  dsimp only
  split
  · rename_i finished
    exact ⟨rfl, rfl, fun _ => rfl, fun pos => absurd finished (not_le.2 pos)⟩
  · rename_i waiting
    have pos := not_le.1 waiting
    obtain ⟨some', most⟩ := receiveQuantity_bounds fraction pos
    have half := receiveQuantity_half legal pos
    refine ⟨rfl, rfl, fun finished => absurd finished waiting, fun _ => ?_⟩
    have left : PurchaseOrderLine.remaining { l with
        quantityReceived := l.quantityReceived + receiveQuantity fraction (PurchaseOrderLine.remaining l) } =
        PurchaseOrderLine.remaining l - receiveQuantity fraction (PurchaseOrderLine.remaining l) := by
      simp only [PurchaseOrderLine.remaining]
      omega
    rw [left]
    rw [ceil_half]
    exact ⟨by omega, by omega, half⟩

/-- The flag of the loop says that the line has no remainder afterwards. -/
theorem fullyReceives_iff (fraction : Option ℚ) (l : PurchaseOrderLine) :
    fullyReceives fraction l = true ↔ PurchaseOrderLine.remaining (receiveLine fraction l) ≤ 0 := by
  rw [fullyReceives, Bool.or_eq_true, decide_eq_true_iff, decide_eq_true_iff, receiveLine]
  by_cases finished : PurchaseOrderLine.remaining l ≤ 0
  · rw [if_pos finished]
    exact ⟨fun _ => finished, .inl⟩
  · rw [if_neg finished]
    simp only [PurchaseOrderLine.remaining] at finished ⊢
    omega

/-! ## An order -/

theorem orderReceives_of_legal {t : OrderTick} (legal : t.Legal) (po : PurchaseOrder) :
    OrderReceives po (receivedOrder t.fraction (t.lines.rows po.lines) po) := by
  have done : (t.lines.rows po.lines).all (fullyReceives t.fraction) = true ↔
      ∀ l ∈ (t.lines.rows po.lines).map (receiveLine t.fraction), PurchaseOrderLine.remaining l ≤ 0 := by
    simp only [List.all_eq_true, List.forall_mem_map, fullyReceives_iff]
  refine ⟨⟨_, t.lines.perm po.lines, ?_⟩, ?_, ?_⟩
  · exact List.forall₂_map_right_iff.2 (List.forall₂_same.2 fun l _ => lineReceives_of_legal legal l)
  · rw [receivedOrder]
    dsimp only
    rw [← done]
    split <;> simp [*]
  · rw [receivedOrder]
    dsimp only
    split
    · exact .inl rfl
    · exact .inr rfl

theorem tickOrder_of_receives {t : OrderTick} {po : PurchaseOrder} (h : t.receives po = true) :
    tickOrder t po = receivedOrder t.fraction (t.lines.rows po.lines) po := by
  obtain ⟨status, due⟩ := Bool.and_eq_true_iff.1 h
  rw [tickOrder]
  rcases of_decide_eq_true status with status | status <;>
    rw [if_pos (by rw [status]; rfl), if_neg (by rw [status]; exact nofun), if_pos (of_decide_eq_true due)]

theorem orderReceives_of_receives {t : OrderTick} (legal : t.Legal) {po : PurchaseOrder}
    (h : t.receives po = true) : OrderReceives po (tickOrder t po) := by
  rw [tickOrder_of_receives h]
  exact orderReceives_of_legal legal po

theorem receives_of_due {t : OrderTick} {po : PurchaseOrder} (isOpen : po.status.isOpen = true)
    (other : po.status ≠ .submitted) (due : po.expectedDeliveryDate ≤ t.day) : t.receives po = true := by
  rw [OrderTick.receives, decide_eq_true due, Bool.and_true, decide_eq_true_iff]
  cases status : po.status with
  | submitted => exact absurd status other
  | confirmed => exact .inl rfl
  | partiallyReceived => exact .inr rfl
  | _ =>
    rw [status] at isOpen
    cases isOpen

/-- A tick that receives nothing confirms the order or leaves it. -/
theorem tickOrder_of_waits {t : OrderTick} {po : PurchaseOrder} (h : t.receives po = false) :
    po.status = .submitted ∧ tickOrder t po = { po with status := .confirmed } ∨
      po.status ≠ .submitted ∧ tickOrder t po = po := by
  rw [tickOrder]
  by_cases submitted : po.status = .submitted
  · left
    rw [if_pos submitted, if_pos (by rw [submitted]; rfl)]
    exact ⟨submitted, rfl⟩
  · right
    refine ⟨submitted, ?_⟩
    rw [if_neg submitted]
    split
    · rename_i isOpen
      rw [if_neg]
      intro due
      rw [receives_of_due isOpen submitted due] at h
      cases h
    · rfl

theorem tickOrder_expected (t : OrderTick) (po : PurchaseOrder) :
    (tickOrder t po).expectedDeliveryDate = po.expectedDeliveryDate := by
  unfold tickOrder receivedOrder
  split_ifs <;> rfl

theorem le_maxRemaining {po : PurchaseOrder} {l : PurchaseOrderLine} (mem : l ∈ po.lines) :
    PurchaseOrderLine.remaining l ≤ maxRemaining po := by
  have here : ∀ ns : List ℕ, ∀ n ∈ ns, n ≤ ns.foldr max 0 := by
    intro ns
    induction ns with
    | nil => exact fun _ mem => absurd mem List.not_mem_nil
    | cons m ns ih =>
      intro n mem
      rcases List.mem_cons.1 mem with rfl | mem
      · exact le_max_left _ _
      · exact (ih n mem).trans (le_max_right _ _)
  have bound := here _ _ (List.mem_map_of_mem (f := fun l => (PurchaseOrderLine.remaining l).toNat) mem)
  exact (Int.self_le_toNat _).trans (by exact_mod_cast bound)

theorem maxRemaining_le {po : PurchaseOrder} {n : ℕ}
    (each : ∀ l ∈ po.lines, PurchaseOrderLine.remaining l ≤ n) : maxRemaining po ≤ n := by
  have here : ∀ ns : List ℕ, (∀ m ∈ ns, m ≤ n) → ns.foldr max 0 ≤ n := by
    intro ns
    induction ns with
    | nil => exact fun _ => Nat.zero_le n
    | cons m ns ih =>
      intro all
      exact max_le (all m List.mem_cons_self) (ih fun k mem => all k (List.mem_cons_of_mem _ mem))
  refine here _ fun m mem => ?_
  obtain ⟨l, memL, rfl⟩ := List.mem_map.1 mem
  exact Int.toNat_le.2 (each l memL)

/-- Where the lines of an order come from. -/
theorem OrderReceives.origin {po po' : PurchaseOrder} (h : OrderReceives po po') {l' : PurchaseOrderLine}
    (mem : l' ∈ po'.lines) : ∃ l ∈ po.lines, LineReceives l l' := by
  obtain ⟨rows, perm, each⟩ := h.lines
  obtain ⟨k, bound, rfl⟩ := List.mem_iff_getElem.1 mem
  have bound' : k < rows.length := each.length_eq ▸ bound
  exact ⟨rows[k], perm.mem_iff.1 (List.getElem_mem bound'), each.get bound' bound⟩

/-- The largest remainder is halved. -/
theorem OrderReceives.halved {po po' : PurchaseOrder} (h : OrderReceives po po') :
    maxRemaining po' ≤ (maxRemaining po + 1) / 2 := by
  apply maxRemaining_le
  intro l' mem
  obtain ⟨l, memL, line⟩ := h.origin mem
  have most := le_maxRemaining memL
  by_cases finished : PurchaseOrderLine.remaining l ≤ 0
  · rw [line.finished finished]
    omega
  · have half := (line.halved (not_le.1 finished)).2.2
    rw [ceil_half] at half
    omega

/-- Where something remains, it is less than before. -/
theorem OrderReceives.less {po po' : PurchaseOrder} (h : OrderReceives po po')
    (open' : po'.status ≠ .received) : 1 ≤ maxRemaining po' ∧ 2 ≤ maxRemaining po := by
  have waiting : ∃ l' ∈ po'.lines, ¬ PurchaseOrderLine.remaining l' ≤ 0 := by
    by_contra none
    refine open' (h.received.2 fun l mem => ?_)
    by_contra waits
    exact none ⟨l, mem, waits⟩
  obtain ⟨l', mem, pos⟩ := waiting
  obtain ⟨l, memL, line⟩ := h.origin mem
  have most' := le_maxRemaining mem
  have most := le_maxRemaining memL
  by_cases finished : PurchaseOrderLine.remaining l ≤ 0
  · rw [line.finished finished] at pos
    exact absurd finished pos
  · have less := (line.halved (not_le.1 finished)).2.1
    omega

theorem clog_half {m n : ℕ} (half : m ≤ (n + 1) / 2) (two : 2 ≤ n) : Nat.clog 2 m + 1 ≤ Nat.clog 2 n := by
  rw [Nat.clog_of_two_le (le_refl 2) two]
  exact Nat.succ_le_succ (Nat.clog_mono_right 2 half)

/-! ## Ticks -/

theorem orderAfter_cons (po : PurchaseOrder) (t : OrderTick) (ticks : List OrderTick) :
    orderAfter po (t :: ticks) = orderAfter (tickOrder t po) ticks := rfl

theorem orderAfter_received {po : PurchaseOrder} (h : po.status = .received) (ticks : List OrderTick) :
    orderAfter po ticks = po ∧ receivingTicks po ticks = 0 := by
  induction ticks with
  | nil => exact ⟨rfl, rfl⟩
  | cons t ticks ih =>
    have stays : tickOrder t po = po := by
      rw [tickOrder, if_neg (by rw [h]; exact nofun)]
    have quiet : t.receives po = false := by
      rw [OrderTick.receives, h]
      rfl
    rw [orderAfter_cons, receivingTicks, stays, quiet, ih.2]
    exact ⟨ih.1, rfl⟩

/-- The number of receiving ticks, and what it is for. -/
theorem receivingTicks_le {ticks : List OrderTick} (legal : ∀ t ∈ ticks, t.Legal) (po : PurchaseOrder) :
    receivingTicks po ticks ≤ Nat.clog 2 (maxRemaining po) + 1 ∧
      (receivingTicks po ticks = Nat.clog 2 (maxRemaining po) + 1 →
        (orderAfter po ticks).status = .received) := by
  induction ticks generalizing po with
  | nil => exact ⟨Nat.zero_le _, fun full => by simp [receivingTicks] at full⟩
  | cons t ticks ih =>
    obtain ⟨first, rest⟩ := List.forall_mem_cons.1 legal
    rw [receivingTicks, orderAfter_cons]
    cases receives : t.receives po with
    | false =>
      have same : maxRemaining (tickOrder t po) = maxRemaining po := by
        rcases tickOrder_of_waits receives with ⟨-, after⟩ | ⟨-, after⟩
        · rw [after]
          rfl
        · rw [after]
      have later := ih rest (tickOrder t po)
      rw [same] at later
      simpa using later
    | true =>
      have step := orderReceives_of_receives first receives
      rw [if_pos rfl]
      by_cases done : (tickOrder t po).status = .received
      · obtain ⟨stays, none⟩ := orderAfter_received done ticks
        rw [none, stays]
        exact ⟨by omega, fun _ => done⟩
      · obtain ⟨some', two⟩ := step.less done
        have fewer := clog_half step.halved two
        obtain ⟨bound, completed⟩ := ih rest (tickOrder t po)
        exact ⟨by omega, fun full => completed (by omega)⟩

/-- An order that is due is received after enough ticks. -/
theorem received_of_due {ticks : List OrderTick} (legal : ∀ t ∈ ticks, t.Legal) (po : PurchaseOrder)
    (isOpen : po.status.isOpen = true) (due : Nat.clog 2 (maxRemaining po) + 1 +
      (if po.status = .submitted then 1 else 0) ≤ ticks.countP fun t => po.expectedDeliveryDate ≤ t.day) :
    (orderAfter po ticks).status = .received := by
  induction ticks generalizing po with
  | nil => simp at due
  | cons t ticks ih =>
    obtain ⟨first, rest⟩ := List.forall_mem_cons.1 legal
    have expected := tickOrder_expected t po
    rw [orderAfter_cons]
    rw [List.countP_cons] at due
    cases receives : t.receives po with
    | false =>
      rcases tickOrder_of_waits receives with ⟨submitted, after⟩ | ⟨other, after⟩
      · have same : maxRemaining (tickOrder t po) = maxRemaining po := by rw [after]; rfl
        have status : (tickOrder t po).status = .confirmed := by rw [after]
        refine ih rest _ (by rw [status]; rfl) ?_
        rw [if_pos submitted] at due
        rw [same, expected, status, if_neg (show PurchaseOrderStatus.confirmed ≠ .submitted from nofun)]
        split_ifs at due <;> omega
      · rw [after]
        refine ih rest po isOpen ?_
        rw [if_neg other] at due ⊢
        -- an order that is confirmed and due would have received
        have early : ¬ po.expectedDeliveryDate ≤ t.day := by
          intro due
          rw [receives_of_due isOpen other due] at receives
          cases receives
        rw [decide_eq_false early] at due
        simpa using due
    | true =>
      have step := orderReceives_of_receives first receives
      by_cases done : (tickOrder t po).status = .received
      · rw [(orderAfter_received done ticks).1]
        exact done
      · obtain ⟨some', two⟩ := step.less done
        have fewer := clog_half step.halved two
        have partly := step.status.resolve_left done
        refine ih rest _ (by rw [partly]; rfl) ?_
        rw [expected, partly, if_neg (show PurchaseOrderStatus.partiallyReceived ≠ .submitted from nofun)]
        split_ifs at due <;> omega

/-! ## The pass -/

/-- The tick of an order in a pass. -/
def TickEnv.orderTick (env : TickEnv) (d : Date) (id : Uuid) : OrderTick where
  day := d
  fraction := rollPartialReceiptFraction (env.rng d (.poPartialReceipt id))
  lines := env.purchaseOrderLines id

theorem orderTick_legal (env : TickEnv) (d : Date) (id : Uuid) : (env.orderTick d id).Legal := by
  intro f mem
  simp only [TickEnv.orderTick, rollPartialReceiptFraction, Option.mem_def] at mem
  split at mem
  · cases mem
  · obtain rfl := Option.some.inj mem
    have range := (env.rng d (.poPartialReceipt id)).random_range 1
    obtain ⟨low, high⟩ := pyRoundTo_unit _ range.1 range.2
    rw [partialReceiptMinFraction, partialReceiptMaxFraction]
    constructor <;> linarith

theorem tickOrder_id (t : OrderTick) (po : PurchaseOrder) : (tickOrder t po).id = po.id := by
  unfold tickOrder receivedOrder
  split_ifs <;> rfl

theorem purchaseOrderStep_eq (env : TickEnv) (d : Date) {po : PurchaseOrder} (isOpen : po.status.isOpen = true) :
    ((purchaseOrderStep env d po).map (·.1)).getD po = tickOrder (env.orderTick d po.id) po := by
  rw [tickOrder, if_pos isOpen, purchaseOrderStep]
  by_cases submitted : po.status = .submitted
  · rw [if_pos submitted, if_pos submitted]
    rfl
  · rw [if_neg submitted, if_neg submitted]
    by_cases due : po.expectedDeliveryDate ≤ d
    · rw [if_pos due, if_pos (show po.expectedDeliveryDate ≤ (env.orderTick d po.id).day from due)]
      rfl
    · rw [if_neg due, if_neg (show ¬ po.expectedDeliveryDate ≤ (env.orderTick d po.id).day from due)]
      rfl

theorem progressPurchaseOrder_row (env : TickEnv) (d : Date) (events : ℕ) {po : PurchaseOrder} {w : World}
    (keyed : Keyed (·.id) w.purchaseOrder) (mem : po ∈ w.purchaseOrder) (isOpen : po.status.isOpen = true) :
    ∃ n w', progressPurchaseOrder env d events po.id w = .ok n w' ∧ w'.purchaseOrder =
      modify (·.id) po.id (fun po => tickOrder (env.orderTick d po.id) po) w.purchaseOrder := by
  have step := purchaseOrderStep_eq env d isOpen
  rw [progressPurchaseOrder, lookup_of_mem keyed mem]
  dsimp only
  cases moved : purchaseOrderStep env d po with
  | none =>
    rw [moved] at step
    have stays : modify (·.id) po.id (fun po => tickOrder (env.orderTick d po.id) po) w.purchaseOrder =
        w.purchaseOrder := keyed.modify_stays mem step.symm
    exact ⟨events, w, rfl, stays.symm⟩
  | some next =>
    rw [moved] at step
    have rows : modify (·.id) po.id (fun _ => next.1) w.purchaseOrder =
        modify (·.id) po.id (fun po => tickOrder (env.orderTick d po.id) po) w.purchaseOrder :=
      keyed.modify_row mem step
    dsimp only
    split
    · refine ⟨_, _, rfl, rows⟩
    · refine ⟨_, _, rfl, rows⟩

/-- The pass ticks on every order once. -/
theorem progressPurchaseOrders_ticks (env : TickEnv) (d : Date) {w : World}
    (keyed : Keyed (·.id) w.purchaseOrder) :
    ∃ n w', progressPurchaseOrders env d w = .ok n w' ∧
      w'.purchaseOrder = w.purchaseOrder.map fun po => tickOrder (env.orderTick d po.id) po := by
  have ids : ∀ po : PurchaseOrder, (tickOrder (env.orderTick d po.id) po).id = po.id :=
    fun po => tickOrder_id _ po
  let loaded := env.openPurchaseOrders.rows (w.purchaseOrder.filter (·.status.isOpen))
  have perm : loaded.Perm (w.purchaseOrder.filter (·.status.isOpen)) := env.openPurchaseOrders.perm _
  have distinct : (loaded.map (·.id)).Nodup := loaded_nodup keyed env.openPurchaseOrders (·.status.isOpen)
  -- the loop has ticked on the orders it has done
  let Done (rest : List PurchaseOrder) (w' : World) : Prop := ∃ done, loaded = done ++ rest ∧
    w'.purchaseOrder = updateAll (·.id) (fun po => tickOrder (env.orderTick d po.id) po) done w.purchaseOrder
  have loop : Triple (Done loaded)
      (loaded.foldlM (fun events po => progressPurchaseOrder env d events po.id) 0 : Pass ℕ)
      (fun _ => Done []) (fun _ => False) := by
    refine .foldlM_rest (fun events po rest => .of_returns ?_) loaded 0
    rintro w' ⟨done, split, rows⟩
    have here : po ∈ w.purchaseOrder ∧ po.status.isOpen = true := by
      apply List.mem_filter.1
      rw [← perm.mem_iff, split]
      exact List.mem_append_right _ List.mem_cons_self
    have later : po.id ∉ done.map (·.id) := by
      rw [split, List.map_append, List.map_cons, List.nodup_append] at distinct
      exact fun taken => distinct.2.2 _ taken _ List.mem_cons_self rfl
    have keyed' : Keyed (·.id) w'.purchaseOrder := rows ▸ keyed_updateAll ids keyed done
    have mem' : po ∈ w'.purchaseOrder := rows ▸ mem_updateAll here.1 later
    obtain ⟨n, w'', run, after⟩ := progressPurchaseOrder_row env d events keyed' mem' here.2
    refine ⟨n, w'', run, done ++ [po], ?_, ?_⟩
    · rw [split, List.append_assoc]
      rfl
    · rw [after, rows, updateAll_append_singleton]
  obtain ⟨n, w', run, done, all, rows⟩ := loop.returns ⟨[], rfl, rfl⟩
  refine ⟨n, w', ?_, ?_⟩
  · show ((loaded.map (·.id)).foldlM (progressPurchaseOrder env d) 0 : Pass ℕ) w = _
    rw [List.foldlM_map]
    exact run
  · rw [List.append_nil] at all
    rw [rows, ← all, updateAll_eq_map ids keyed perm]
    refine List.map_congr_left fun po _ => ?_
    split
    · rfl
    · rename_i closed
      rw [tickOrder, if_neg closed]

/-- Every open order is received, whatever the rolls are. -/
theorem purchase_order_completes {po : PurchaseOrder} (isOpen : po.status.isOpen = true)
    {ticks : List OrderTick} (legal : ∀ t ∈ ticks, t.Legal) : CompletesIn po ticks := by
  refine ⟨?_, ?_, (receivingTicks_le legal po).1, (receivingTicks_le legal po).2, ?_⟩
  · rintro before t after rfl receives
    exact orderReceives_of_receives (legal t (by simp)) receives
  · intro before t after _ waits
    rcases tickOrder_of_waits waits with ⟨submitted, after⟩ | ⟨-, after⟩
    · rw [after, submitted]
      exact ⟨rfl, by simp⟩
    · rw [after]
      exact ⟨rfl, Iff.rfl⟩
  · intro due
    refine received_of_due legal po isOpen ?_
    split <;> omega

/-- An order of a line of five boxes and one of a single label, on half receipts. -/
def mixedOrder : PurchaseOrder where
  id := 1
  poNumber := "PO"
  supplierId := "acme"
  warehouseId := "main"
  orderDate := 1
  expectedDeliveryDate := 3
  status := .submitted
  lines := [⟨"boxes", 5, 0⟩, ⟨"labels", 1, 0⟩]

def halfTicks (days : List Date) : List OrderTick := days.map fun d => ⟨d, some (1 / 2), .inserted⟩

example : ((orderAfter mixedOrder (halfTicks [1, 2, 3, 4, 5])).status,
    (orderAfter mixedOrder (halfTicks [1, 2, 3, 4, 5, 6])).status) = (.partiallyReceived, .received) := by
  decide +kernel

/-- A mixed order is in after its last partial receipt. -/
theorem purchase_order_completes_mixedOrder :
    CompletesIn mixedOrder (halfTicks [1, 2, 3, 4, 5, 6]) ∧
      (orderAfter mixedOrder (halfTicks [3, 4, 5, 6, 7])).status = .received := by
  have legal : ∀ days, ∀ t ∈ halfTicks days, t.Legal := by
    intro days t mem f some'
    obtain ⟨d, -, rfl⟩ := List.mem_map.1 mem
    obtain rfl := Option.some.inj some'
    norm_num
  have due : Nat.clog 2 (maxRemaining mixedOrder) + 2 ≤
      (halfTicks [3, 4, 5, 6, 7]).countP fun t => mixedOrder.expectedDeliveryDate ≤ t.day := by decide +kernel
  exact ⟨purchase_order_completes rfl (legal _), (purchase_order_completes rfl (legal _)).due due⟩

end MeadowOps.Flow
