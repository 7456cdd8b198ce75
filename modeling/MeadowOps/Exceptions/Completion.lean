import MeadowOps.Exceptions.Engine
import MeadowOps.Flow.Completion

/-!
# `evaluate_exceptions` returns

An INSERT of a flag is refused for an id that is taken, or for an open flag with the same entry in
`ux_exception_flag_open_entity`. The entry replaces a null product and a null warehouse by an empty text; flags of
one category have both or neither, so it still tells their entities apart, and only a flag that is not open yet is
inserted.
-/

namespace MeadowOps.Exceptions

open Db Lib MeadowOps.Flow Kpi Reporting

/-- The rules whose entities are a product at a warehouse. -/
def hasPair (category : String) : Bool :=
  decide (category = lowStockCategory) || decide (category = reportingConflictCategory)

/-- The entity names a product and a warehouse where the rule's entities do. -/
def KeyShaped (category : String) (key : EntityKey) : Prop :=
  key.productId.isSome = hasPair category ∧ key.warehouseId.isSome = hasPair category

def FlagShaped (f : ExceptionFlag) : Prop := KeyShaped f.category f.entityKey

theorem eq_of_getD {o o' : Option String} (shape : o.isSome = o'.isSome) (same : o.getD "" = o'.getD "") :
    o = o' := by
  cases o <;> cases o' <;> simp_all

/-- The index entry of a flag that has the shape of its rule tells its entity. -/
theorem FlagShaped.entity_of_entry {f g : ExceptionFlag} (hf : FlagShaped f) (hg : FlagShaped g)
    (same : f.openEntity = g.openEntity) : f.category = g.category ∧ f.entityKey = g.entityKey := by
  obtain ⟨category, product, warehouse, order, shipment⟩ : f.category = g.category ∧
      f.productId.getD "" = g.productId.getD "" ∧ f.warehouseId.getD "" = g.warehouseId.getD "" ∧
      f.purchaseOrderId = g.purchaseOrderId ∧ f.shipmentId = g.shipmentId := by
    simpa [ExceptionFlag.openEntity] using same
  have products : f.productId.isSome = g.productId.isSome := hf.1.trans ((congrArg hasPair category).trans hg.1.symm)
  have warehouses : f.warehouseId.isSome = g.warehouseId.isSome := hf.2.trans ((congrArg hasPair category).trans hg.2.symm)
  refine ⟨category, ?_⟩
  rw [ExceptionFlag.entityKey, ExceptionFlag.entityKey, eq_of_getD products product,
    eq_of_getD warehouses warehouse, order, shipment]

/-- What every evaluation keeps of the flags. -/
structure FlagsInv (flags : List ExceptionFlag) : Prop where
  coherent : Coherent flags
  shaped : ∀ f ∈ flags, FlagShaped f

theorem FlagsInv.nil : FlagsInv [] where
  coherent := ⟨List.nodup_nil, fun _ mem => nomatch mem⟩
  shaped := fun _ mem => nomatch mem

namespace SyncCall

variable (c : SyncCall) {flags flags' : List ExceptionFlag}

/-- Every evaluated entity has the shape of the rule. -/
def Shaped : Prop := ∀ e ∈ c.evaluations.items, KeyShaped c.category e.1

variable {c}

theorem added_shaped (shaped : c.Shaped) : ∀ f ∈ c.added flags, FlagShaped f := by
  intro f mem
  obtain ⟨key, e, evaluated, -, -, rfl⟩ := c.mem_added.1 mem
  exact shaped (key, e) (Dict.mem_items_iff.2 evaluated)

theorem updated_shaped (h : ∀ f ∈ flags, FlagShaped f) : ∀ f ∈ flags.map c.updated, FlagShaped f := by
  intro f mem
  obtain ⟨before, found, rfl⟩ := List.mem_map.1 mem
  have frozen := c.updated_frozen before
  rw [FlagShaped, frozen.category, frozen.entityKey]
  exact h before found

theorem syncFlags_inv (h : FlagsInv flags) (shaped : c.Shaped) {opened resolved : ℕ}
    (ok : c.syncFlags flags = some (flags', opened, resolved)) : FlagsInv flags' := by
  obtain ⟨rfl, -, -, coherent⟩ := c.syncFlags_some h.coherent ok
  refine ⟨coherent, fun f mem => ?_⟩
  exact (List.mem_append.1 mem).elim (updated_shaped h.shaped f) (added_shaped shaped f)

/-! ## The insertions -/

/-- The two flags can both be in the table. -/
def Apart (f g : ExceptionFlag) : Prop := f.id ≠ g.id ∧ (f.isOpen = true → f.openEntity ≠ g.openEntity)

/-- New flags that the table and one another leave room for are inserted. -/
theorem insertAll_returns {new : List ExceptionFlag} (accepts : ∀ f, c.refuses f = false)
    (apart : ∀ g ∈ flags, ∀ f ∈ new, Apart g f) (distinct : new.Pairwise Apart) :
    new.foldlM c.insertFlag? flags = some (flags ++ new) := by
  induction new generalizing flags with
  | nil => simp
  | cons f new ih =>
    obtain ⟨here, rest⟩ := List.pairwise_cons.1 distinct
    have free : (flags.any fun g => g.isOpen && decide (g.openEntity = f.openEntity)) = false := by
      rw [List.any_eq_false]
      intro g mem taken
      rw [Bool.and_eq_true, decide_eq_true_iff] at taken
      exact (apart g mem f List.mem_cons_self).2 taken.1 taken.2
    have inserted : c.insertFlag? flags f = some (flags ++ [f]) := by
      rw [insertFlag?, accepts, free]
      exact insert?_of_ne ExceptionFlag.id fun g mem => (apart g mem f List.mem_cons_self).1
    rw [List.foldlM_cons, inserted]
    refine (ih (fun g mem f' later => ?_) rest).trans (by simp)
    rcases List.mem_append.1 mem with old | added
    · exact apart g old f' (List.mem_cons_of_mem _ later)
    · rw [List.mem_singleton.1 added]
      exact here f' later

/-- What a call draws its ids from. -/
structure DrawsIds (c : SyncCall) (flags : List ExceptionFlag) : Prop where
  accepts : ∀ f, c.refuses f = false
  drawn : Drawn c.newId (flags.map (·.id))

theorem added_apart (h : FlagsInv flags) (shaped : c.Shaped) (draws : c.DrawsIds flags) :
    ∀ g ∈ flags.map c.updated, ∀ f ∈ c.added flags, Apart g f := by
  intro g mem f new
  have shapes := (updated_shaped (c := c) h.shaped g mem).entity_of_entry (added_shaped shaped f new)
  obtain ⟨before, found, rfl⟩ := List.mem_map.1 mem
  obtain ⟨key, e, -, -, notOpen, rfl⟩ := c.mem_added.1 new
  have frozen := c.updated_frozen before
  constructor
  · rw [frozen.id]
    exact draws.drawn.ne found key
  · intro isOpen entry
    obtain ⟨category, entity⟩ := shapes entry
    rw [frozen.category] at category
    rw [frozen.entityKey] at entity
    exact notOpen ⟨before, found, ((c.updated_isOpen before).1 isOpen).1, category, entity⟩

theorem added_distinct (shaped : c.Shaped) (draws : c.DrawsIds flags) : (c.added flags).Pairwise Apart := by
  have keys : (c.evaluations.items.filter fun e => decide (e.2.isFlagged = some true) &&
      decide (e.1 ∉ (c.openRows flags).map (·.entityKey))).Pairwise fun e e' => e.1 ≠ e'.1 :=
    (List.pairwise_map.1 c.evaluations.nodup).filter _
  refine List.pairwise_map.2 (keys.imp_of_mem fun {e e'} mem mem' other => ⟨?_, fun _ entry => ?_⟩)
  · exact fun same => other (draws.drawn.injective same)
  · have shape : FlagShaped (c.newFlag e.1 e.2.measuredValue) := shaped e (List.mem_filter.1 mem).1
    have shape' : FlagShaped (c.newFlag e'.1 e'.2.measuredValue) := shaped e' (List.mem_filter.1 mem').1
    exact other (shape.entity_of_entry shape' entry).2

/-- A sync does not raise, and leaves the flags updated and the new ones behind them. -/
theorem syncFlags_returns (h : FlagsInv flags) (shaped : c.Shaped) (draws : c.DrawsIds flags) :
    (c.syncFlags flags).map Prod.fst = some (flags.map c.updated ++ c.added flags) := by
  rw [syncFlags_eq c h.coherent,
    insertAll_returns draws.accepts (added_apart h shaped draws) (added_distinct shaped draws)]
  rfl

end SyncCall

/-! ## The calls -/

section Calls

variable {env : EngineEnv} {d : Date} {t : EngineTables} {category : String}

/-- A call as `evaluate_exceptions` makes it. -/
structure RuleCall (env : EngineEnv) (c : SyncCall) : Prop where
  shaped : c.Shaped
  newId : c.newId = (env.sync c.category).newId
  refuses : c.refuses = (env.sync c.category).refuses

theorem ruleCall_eq {evaluations : ℚ → Option (Dict EntityKey Evaluation)} {c : SyncCall}
    (call : ruleCall env d t category evaluations = some c)
    (keys : ∀ threshold verdicts, evaluations threshold = some verdicts →
      ∀ e ∈ verdicts.items, KeyShaped category e.1) : c.category = category ∧ RuleCall env c := by
  obtain ⟨threshold, -, rest⟩ := Option.bind_eq_some_iff.1 call
  obtain ⟨verdicts, evaluated, made⟩ := Option.bind_eq_some_iff.1 rest
  cases made
  exact ⟨rfl, keys threshold verdicts evaluated, rfl, rfl⟩

theorem keyShaped_pair (h : hasPair category = true) (p wh : String) :
    KeyShaped category (pairKey p (some wh)) := ⟨h.symm, h.symm⟩

theorem keyShaped_single (h : hasPair category = false) (order shipment : Option Uuid) :
    KeyShaped category ⟨none, none, order, shipment⟩ := ⟨h.symm, h.symm⟩

theorem lowStockRule_eq {clock : Date} {c : SyncCall} (call : lowStockRule env clock d t = some c) :
    c.category = lowStockCategory ∧ RuleCall env c := by
  refine ruleCall_eq call fun threshold verdicts evaluated => ?_
  cases evaluated
  refine Dict.forall_keys_ofList fun e mem => ?_
  obtain ⟨r, -, rfl⟩ := List.mem_map.1 mem
  exact keyShaped_pair rfl _ _

theorem duplicate_keys (order : RowOrder OpenOrderRow) (thresholdCount : ℤ) (w : World) :
    ∀ e ∈ (duplicatePurchaseOrderEvaluations order thresholdCount w).items,
      KeyShaped duplicatePurchaseOrderCategory e.1 := by
  unfold duplicatePurchaseOrderEvaluations
  refine List.foldlRecOn (motive := fun verdicts : Dict EntityKey Evaluation =>
    ∀ e ∈ verdicts.items, KeyShaped duplicatePurchaseOrderCategory e.1) _ _ (fun _ mem => nomatch mem) ?_
  intro verdicts keys rows _
  unfold evaluateGroup
  split
  · exact List.foldlRecOn (motive := fun verdicts : Dict EntityKey Evaluation =>
      ∀ e ∈ verdicts.items, KeyShaped duplicatePurchaseOrderCategory e.1) _ _ keys
      fun verdicts keys dup _ => Dict.forall_keys_set keys (keyShaped_single rfl _ _) _
  · exact keys

/-- The categories of `otherRules`, in the order of their calls. -/
def otherCategories : List String :=
  [atRiskPoCategory, lateShipmentCategory, reportingLagStaleCategory, reportingConflictCategory,
    duplicatePurchaseOrderCategory]

theorem categories_nodup : (lowStockCategory :: otherCategories).Nodup := by decide

/-- The rule of a category makes at most one call. -/
def CallsFor (env : EngineEnv) (call : Option SyncCall) (category : String) : Prop :=
  ∀ c, call = some c → c.category = category ∧ RuleCall env c

theorem callsFor_spec {calls : List (Option SyncCall)} {categories : List String}
    (h : List.Forall₂ (CallsFor env) calls categories) :
    (calls.reduceOption.map SyncCall.category).Sublist categories ∧
      ∀ c ∈ calls.reduceOption, RuleCall env c := by
  induction h with
  | nil => exact ⟨.slnil, fun _ mem => nomatch mem⟩
  | @cons call category calls categories here _ ih =>
    cases call with
    | none =>
      exact ⟨ih.1.cons _, ih.2⟩
    | some c =>
      refine ⟨(here c rfl).1 ▸ ih.1.cons_cons _, fun c' mem => ?_⟩
      rcases List.mem_cons.1 mem with rfl | later
      · exact (here c' rfl).2
      · exact ih.2 c' later

theorem otherRules_spec (env : EngineEnv) (d : Date) (t : EngineTables) :
    ((otherRules env d t).map SyncCall.category).Sublist otherCategories ∧
      ∀ c ∈ otherRules env d t, RuleCall env c := by
  refine callsFor_spec (.cons ?atRisk (.cons ?late (.cons ?lag (.cons ?conflict (.cons ?duplicate .nil)))))
  case atRisk =>
    refine fun c call => ruleCall_eq call fun threshold verdicts evaluated => ?_
    cases evaluated
    refine Dict.forall_keys_ofList fun e mem => ?_
    obtain ⟨po, -, rfl⟩ := List.mem_map.1 mem
    exact keyShaped_single rfl _ _
  case late =>
    refine fun c call => ruleCall_eq call fun threshold verdicts evaluated => ?_
    cases evaluated
    refine Dict.forall_keys_ofList fun e mem => ?_
    obtain ⟨s, -, rfl⟩ := List.mem_map.1 mem
    exact keyShaped_single rfl _ _
  case lag =>
    refine fun c call => ruleCall_eq call fun threshold verdicts evaluated => ?_
    cases evaluated
    refine Dict.forall_keys_ofList fun e mem => ?_
    rw [List.mem_singleton.1 mem]
    exact keyShaped_single rfl _ _
  case conflict =>
    refine fun c call => ruleCall_eq call fun threshold verdicts evaluated => ?_
    obtain ⟨verdict, conflict, rfl⟩ := Option.map_eq_some_iff.1 evaluated
    refine Dict.forall_keys_ofList fun e mem => ?_
    rw [List.mem_singleton.1 mem]
    obtain ⟨state, -, conflict⟩ := Option.bind_eq_some_iff.1 conflict
    obtain ⟨product, -, conflict⟩ := Option.bind_eq_some_iff.1 conflict
    obtain ⟨warehouse, -, conflict⟩ := Option.bind_eq_some_iff.1 conflict
    obtain ⟨copy, -, made⟩ := Option.bind_eq_some_iff.1 conflict
    cases made
    exact keyShaped_pair rfl _ _
  case duplicate =>
    refine fun c call => ruleCall_eq call fun threshold verdicts evaluated => ?_
    cases evaluated
    exact duplicate_keys _ _ _

/-- The calls are of different categories, each as its rule makes it. -/
theorem exceptionCalls_spec (env : EngineEnv) (clock d : Date) (t : EngineTables) :
    ((exceptionCalls env clock d t).map SyncCall.category).Nodup ∧
      ∀ c ∈ exceptionCalls env clock d t, RuleCall env c := by
  obtain ⟨others, each⟩ := otherRules_spec env d t
  have distinct : (lowStockCategory :: (otherRules env d t).map SyncCall.category).Nodup :=
    categories_nodup.sublist (others.cons_cons _)
  unfold exceptionCalls
  cases call : lowStockRule env clock d t with
  | none => exact ⟨distinct.of_cons, each⟩
  | some c =>
    obtain ⟨category, rule⟩ := lowStockRule_eq call
    refine ⟨?_, fun c' mem => ?_⟩
    · rw [← category] at distinct
      exact distinct
    · rcases List.mem_cons.1 mem with rfl | other
      · exact rule
      · exact each c' other

end Calls

/-! ## All calls -/

/-- No constraint beside those of the model refuses a flag, and the ids drawn for flags are new. -/
structure FlagDraws (env : EngineEnv) (flags : List ExceptionFlag) : Prop where
  accepts : ∀ category f, (env.sync category).refuses f = false
  flagId : Drawn (fun q : String × EntityKey => (env.sync q.1).newId q.2) (flags.map (·.id))

variable {env : EngineEnv} {calls : List SyncCall} {flags flags' : List ExceptionFlag}

theorem syncAll_inv (h : FlagsInv flags) (each : ∀ c ∈ calls, RuleCall env c)
    (ok : syncAll calls flags = some flags') : FlagsInv flags' := by
  induction calls generalizing flags with
  | nil =>
    cases ok
    exact h
  | cons c calls ih =>
    obtain ⟨here, rest⟩ := List.forall_mem_cons.1 each
    rw [syncAll, List.foldlM_cons] at ok
    obtain ⟨mid, first, later⟩ := Option.bind_eq_some_iff.1 ok
    obtain ⟨⟨rows, opened, resolved⟩, call, rfl⟩ := Option.map_eq_some_iff.1 first
    exact ih (SyncCall.syncFlags_inv h here.shaped call) rest later

/-- The ids of the flags are none that is drawn for a category to come. -/
def IdsToCome (env : EngineEnv) (categories : List String) (flags : List ExceptionFlag) : Prop :=
  ∀ f ∈ flags, ∀ category ∈ categories, ∀ key, f.id ≠ (env.sync category).newId key

/-- The syncs of different categories do not get in the way of one another. -/
theorem syncAll_returns {taken : List ExceptionFlag} (draws : FlagDraws env taken) (h : FlagsInv flags)
    (each : ∀ c ∈ calls, RuleCall env c) (distinct : (calls.map SyncCall.category).Nodup)
    (unused : IdsToCome env (calls.map SyncCall.category) flags) : ∃ flags', syncAll calls flags = some flags' := by
  induction calls generalizing flags with
  | nil => exact ⟨flags, rfl⟩
  | cons c calls ih =>
    obtain ⟨here, rest⟩ := List.forall_mem_cons.1 each
    obtain ⟨other, distinct⟩ := List.nodup_cons.1 distinct
    have drawn : c.DrawsIds flags := by
      refine ⟨fun f => ?_, fun key key' same => ?_, fun key taken => ?_⟩
      · rw [here.refuses]
        exact draws.accepts c.category f
      · rw [here.newId] at same
        exact (Prod.mk.inj (@draws.flagId.injective (c.category, key) (c.category, key') same)).2
      · obtain ⟨f, mem, same⟩ := List.mem_map.1 taken
        rw [here.newId] at same
        exact unused f mem c.category List.mem_cons_self key same
    have first := SyncCall.syncFlags_returns h here.shaped drawn
    obtain ⟨⟨rows, opened, resolved⟩, call, made⟩ := Option.map_eq_some_iff.1 first
    have inv := SyncCall.syncFlags_inv h here.shaped call
    rw [show rows = flags.map c.updated ++ c.added flags from made] at inv
    have later : IdsToCome env (calls.map SyncCall.category) (flags.map c.updated ++ c.added flags) := by
      intro f mem category mem' key
      rcases List.mem_append.1 mem with old | added
      · obtain ⟨before, found, rfl⟩ := List.mem_map.1 old
        rw [(c.updated_frozen before).id]
        exact unused before found category (List.mem_cons_of_mem _ mem') key
      · obtain ⟨key', e, -, -, -, rfl⟩ := c.mem_added.1 added
        intro same
        have same : (env.sync c.category).newId key' = (env.sync category).newId key := here.newId ▸ same
        have pair := @draws.flagId.injective (c.category, key') (category, key) same
        exact other ((Prod.mk.inj pair).1 ▸ mem')
    obtain ⟨flags', returned⟩ := ih inv rest distinct later
    refine ⟨flags', ?_⟩
    rw [syncAll, List.foldlM_cons, first]
    exact returned

/-! ## There are always new ids -/

/-- The number of an entity in a category. -/
def entityId (q : String × EntityKey) : ℕ :=
  Encodable.encode (textId q.1, q.2.productId.map textId, q.2.warehouseId.map textId, q.2.purchaseOrderId,
    q.2.shipmentId)

theorem entityId_injective : Function.Injective entityId := by
  rintro ⟨category, product, warehouse, order, shipment⟩ ⟨category', product', warehouse', order', shipment'⟩ same
  have parts := Encodable.encode_injective same
  simp only [Prod.mk.injEq] at parts
  obtain ⟨categories, products, warehouses, rfl, rfl⟩ := parts
  rw [textId_injective categories, Option.map_injective textId_injective products,
    Option.map_injective textId_injective warehouses]

/-- Rows in insertion order, and ids from `first` on. -/
def EngineEnv.drawnFrom (first : ℕ) : EngineEnv where
  sync category :=
    { rows := .inserted
      now := 0
      newId := fun key => first + entityId (category, key)
      refuses := fun _ => false }
  supplyRows := .inserted
  orders := .inserted
  shipments := .inserted
  openOrders := .inserted

theorem exists_flagDraws (flags : List ExceptionFlag) : ∃ first, FlagDraws (EngineEnv.drawnFrom first) flags := by
  obtain ⟨first, above⟩ := exists_above (flags.map (·.id))
  exact ⟨first, fun _ _ => rfl, drawn_above entityId_injective above⟩

end MeadowOps.Exceptions
