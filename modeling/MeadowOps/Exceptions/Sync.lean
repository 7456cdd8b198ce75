import MeadowOps.Exceptions.Flags

/-!
# What a call of `_sync_flags` does

On flags with at most one open flag for a category and an entity (`Coherent`), the two loops
amount to one pass over the rows and a list of new flags: `syncFlags_eq`. The law of whole
histories is read off that equation.
-/

namespace MeadowOps.Exceptions

open Db Lib MeadowOps.Flow

/-- At most one open flag for a category and an entity. -/
def OneOpen (flags : List ExceptionFlag) : Prop :=
  ∀ f ∈ flags, ∀ g ∈ flags, f.isOpen = true → g.isOpen = true → f.category = g.category →
    f.entityKey = g.entityKey → f = g

structure Coherent (flags : List ExceptionFlag) : Prop where
  keyed : Keyed (·.id) flags
  oneOpen : OneOpen flags

namespace SyncCall
variable (c : SyncCall) {flags : List ExceptionFlag}

/-- The verdict on an entity; one that is omitted is not flagged. -/
def verdict (key : EntityKey) : Option Bool := (c.evaluation key).isFlagged

/-- The row after the call. -/
def updated (f : ExceptionFlag) : ExceptionFlag :=
  if f.category = c.category ∧ f.isOpen = true then
    match c.verdict f.entityKey with
    | some false => f.resolve c.now
    | some true => f.observe c.simulationDate (c.evaluation f.entityKey).measuredValue
    | none => f
  else f

/-- The flags the call adds. -/
def added (flags : List ExceptionFlag) : List ExceptionFlag :=
  (c.evaluations.items.filter fun e => decide (e.2.isFlagged = some true) &&
    decide (e.1 ∉ (c.openRows flags).map (·.entityKey))).map fun e => c.newFlag e.1 e.2.measuredValue

theorem mem_openRows {f : ExceptionFlag} :
    f ∈ c.openRows flags ↔ f ∈ flags ∧ f.category = c.category ∧ f.isOpen = true := by
  simp [openRows]

theorem evaluation_of_mem {e : EntityKey × Evaluation} (h : e ∈ c.evaluations.items) :
    c.evaluation e.1 = e.2 := by
  rw [evaluation, Dict.getD, Dict.mem_items_iff.1 (show (e.1, e.2) ∈ c.evaluations.items from h)]
  rfl

/-! ## The dictionary of open flags -/

theorem openRows_keys_nodup (h : Coherent flags) :
    ((c.rows.rows (c.openRows flags)).map (·.entityKey)).Nodup := by
  rw [((c.rows.perm _).map _).nodup_iff]
  apply List.Nodup.map_on
  · intro f hf g hg same
    obtain ⟨hf, fc, fo⟩ := (c.mem_openRows).1 hf
    obtain ⟨hg, gc, go⟩ := (c.mem_openRows).1 hg
    exact h.oneOpen f hf g hg fo go (fc.trans gc.symm) same
  · exact (List.Nodup.of_map _ h.keyed).filter _

theorem existing_items (h : Coherent flags) :
    (c.existing flags).items = (c.rows.rows (c.openRows flags)).map fun f => (f.entityKey, f.id) := by
  apply Dict.items_ofList
  rw [List.map_map]
  exact c.openRows_keys_nodup h

theorem existing_get? (h : Coherent flags) {key : EntityKey} {id : Uuid} :
    (c.existing flags).get? key = some id ↔
      ∃ f ∈ c.openRows flags, f.entityKey = key ∧ f.id = id := by
  rw [← Dict.mem_items_iff, existing_items c h, List.mem_map]
  constructor
  · rintro ⟨f, hf, eq⟩
    obtain ⟨hk, hi⟩ := Prod.mk.inj eq
    exact ⟨f, (c.rows.mem_rows).1 hf, hk, hi⟩
  · rintro ⟨f, hf, rfl, rfl⟩
    exact ⟨f, (c.rows.mem_rows).2 hf, rfl⟩

theorem existing_get?_eq_none (h : Coherent flags) {key : EntityKey} :
    (c.existing flags).get? key = none ↔ key ∉ (c.openRows flags).map (·.entityKey) := by
  rw [Dict.get?_eq_none_iff, existing_items c h, List.map_map]
  exact not_congr ((c.rows.perm _).map _).mem_iff

/-! ## The first loop -/

/-- The items the first loop resolves. -/
def resolvedItems (flags : List ExceptionFlag) : List (EntityKey × Uuid) :=
  (c.existing flags).items.filter fun e => c.verdict e.1 = some false

theorem foldl_resolveStep (items : List (EntityKey × Uuid))
    (acc : List ExceptionFlag × List EntityKey) :
    items.foldl c.resolveStep acc =
      ((items.filter fun e => c.verdict e.1 = some false).foldl
        (fun rows e => modify (·.id) e.2 (ExceptionFlag.resolve c.now) rows) acc.1,
       acc.2 ++ (items.filter fun e => c.verdict e.1 = some false).map Prod.fst) := by
  induction items generalizing acc with
  | nil => simp
  | cons e items ih =>
    rw [List.foldl_cons, ih]
    cases hv : c.verdict e.1 with
    | none =>
      have step : c.resolveStep acc e = acc := by
        simp only [verdict] at hv
        simp [resolveStep, hv]
      simp [step, hv]
    | some b =>
      cases b with
      | true =>
        have step : c.resolveStep acc e = acc := by
          simp only [verdict] at hv
          simp [resolveStep, hv]
        simp [step, hv]
      | false =>
        have step : c.resolveStep acc e =
            (modify (·.id) e.2 (ExceptionFlag.resolve c.now) acc.1, acc.2 ++ [e.1]) := by
          simp only [verdict] at hv
          simp [resolveStep, hv]
        simp [step, hv]

theorem ids_unique (h : Coherent flags) {f g : ExceptionFlag} (hf : f ∈ flags) (hg : g ∈ flags)
    (same : f.id = g.id) : f = g :=
  List.inj_on_of_nodup_map h.keyed hf hg same

/-- The items of open flags have distinct row ids. -/
theorem existing_ids_nodup (h : Coherent flags) :
    ((c.existing flags).items.map Prod.snd).Nodup := by
  rw [existing_items c h, List.map_map]
  apply (((c.rows.perm _).map _).nodup_iff).2
  exact h.keyed.sublist (List.filter_sublist.map _)

/-- The resolved items are those of open flags of the category that are no longer flagged. -/
theorem mem_resolvedItems (h : Coherent flags) {f : ExceptionFlag} (hf : f ∈ flags)
    {e : EntityKey × Uuid} (he : e ∈ c.resolvedItems flags) (same : e.2 = f.id) :
    (f.category = c.category ∧ f.isOpen = true) ∧ c.verdict f.entityKey = some false := by
  obtain ⟨mem, no⟩ := List.mem_filter.1 he
  rw [existing_items c h, List.mem_map] at mem
  obtain ⟨g, hg, rfl⟩ := mem
  obtain ⟨hg, isOpen⟩ := (c.mem_openRows).1 ((c.rows.mem_rows).1 hg)
  obtain rfl := ids_unique h hg hf same
  exact ⟨isOpen, by simpa using no⟩

/-- A row after the first loop. -/
theorem row_resolved (h : Coherent flags) {f : ExceptionFlag} (hf : f ∈ flags) :
    ((c.resolvedItems flags).find? (fun e => decide (e.2 = f.id))).elim f
      (fun _ => f.resolve c.now) =
    if (f.category = c.category ∧ f.isOpen = true) ∧ c.verdict f.entityKey = some false then
      f.resolve c.now else f := by
  cases found : (c.resolvedItems flags).find? (fun e => decide (e.2 = f.id)) with
  | some e =>
    have same : e.2 = f.id := by simpa using List.find?_some found
    rw [if_pos (mem_resolvedItems c h hf (List.mem_of_find?_eq_some found) same)]
    rfl
  | none =>
    rw [if_neg, Option.elim_none]
    rintro ⟨isOpen, no⟩
    have item : (f.entityKey, f.id) ∈ c.resolvedItems flags := by
      apply List.mem_filter.2
      refine ⟨?_, by simpa using no⟩
      rw [existing_items c h]
      exact List.mem_map_of_mem ((c.rows.mem_rows).2 ((c.mem_openRows).2 ⟨hf, isOpen⟩))
    simpa using List.find?_eq_none.1 found _ item

/-! ## The second loop -/

/-- An evaluated entity that is observed again, with the id of its open flag. -/
def observedId (flags : List ExceptionFlag) (e : EntityKey × Evaluation) : Uuid :=
  ((c.existing flags).get? e.1).getD 0

def observedItems (flags : List ExceptionFlag) : List (EntityKey × Evaluation) :=
  c.evaluations.items.filter fun e => decide (e.2.isFlagged = some true) &&
    ((c.existing flags).get? e.1).isSome

theorem foldl_evaluateStep (flags : List ExceptionFlag) (resolvedKeys : List EntityKey) {items : List (EntityKey × Evaluation)}
    (other : ∀ e ∈ items, e.2.isFlagged = some true → e.1 ∉ resolvedKeys)
    (acc : List ExceptionFlag × List ExceptionFlag) :
    items.foldl (c.evaluateStep (c.existing flags) resolvedKeys) acc =
      ((items.filter fun e => decide (e.2.isFlagged = some true) &&
          ((c.existing flags).get? e.1).isSome).foldl
        (fun rows e => modify (·.id) (c.observedId flags e)
          (ExceptionFlag.observe c.simulationDate e.2.measuredValue) rows) acc.1,
       acc.2 ++ (items.filter fun e => decide (e.2.isFlagged = some true) &&
          ((c.existing flags).get? e.1).isNone).map fun e => c.newFlag e.1 e.2.measuredValue) := by
  induction items generalizing acc with
  | nil => simp
  | cons e items ih =>
    obtain ⟨head, rest⟩ := List.forall_mem_cons.1 other
    rw [List.foldl_cons, ih rest]
    by_cases flagged : e.2.isFlagged = some true
    · have fresh := head flagged
      cases found : (c.existing flags).get? e.1 with
      | none => simp [evaluateStep, flagged, found]
      | some id => simp [evaluateStep, flagged, found, fresh, observedId]
    · simp [evaluateStep, flagged]

theorem observedItems_ids_nodup (h : Coherent flags) :
    ((c.observedItems flags).map (c.observedId flags)).Nodup := by
  apply List.Nodup.map_on
  · intro e he e' he' same
    obtain ⟨mem, some⟩ := List.mem_filter.1 he
    obtain ⟨mem', some'⟩ := List.mem_filter.1 he'
    simp only [Bool.and_eq_true] at some some'
    obtain ⟨id, found⟩ := Option.isSome_iff_exists.1 some.2
    obtain ⟨id', found'⟩ := Option.isSome_iff_exists.1 some'.2
    simp only [observedId, found, found', Option.getD_some] at same
    subst same
    obtain ⟨f, hf, hk, hi⟩ := (existing_get? c h).1 found
    obtain ⟨g, hg, hk', hi'⟩ := (existing_get? c h).1 found'
    obtain rfl := ids_unique h ((c.mem_openRows).1 hf).1 ((c.mem_openRows).1 hg).1 (hi.trans hi'.symm)
    have keys : e.1 = e'.1 := hk.symm.trans hk'
    have values : e.2 = e'.2 := by
      rw [← evaluation_of_mem c mem, ← evaluation_of_mem c mem', keys]
    exact Prod.ext keys values
  · exact (List.Nodup.of_map _ c.evaluations.nodup).filter _

/-- An entity with a confident verdict was evaluated. -/
theorem mem_evaluations_of_verdict {key : EntityKey} (yes : c.verdict key = some true) :
    (key, c.evaluation key) ∈ c.evaluations.items := by
  rw [Dict.mem_items_iff]
  simp only [verdict, evaluation, Dict.getD] at yes ⊢
  cases found : c.evaluations.get? key with
  | none => simp [found] at yes
  | some e => rfl

/-- A row after the second loop. -/
theorem row_observed (h : Coherent flags) {f g : ExceptionFlag} (hf : f ∈ flags) (same : g.id = f.id) :
    ((c.observedItems flags).find? (fun e => decide (c.observedId flags e = g.id))).elim g
      (fun e => g.observe c.simulationDate e.2.measuredValue) =
    if (f.category = c.category ∧ f.isOpen = true) ∧ c.verdict f.entityKey = some true then
      g.observe c.simulationDate (c.evaluation f.entityKey).measuredValue else g := by
  rw [same]
  cases found : (c.observedItems flags).find? (fun e => decide (c.observedId flags e = f.id)) with
  | some e =>
    have hid : c.observedId flags e = f.id := by simpa using List.find?_some found
    obtain ⟨mem, flagged⟩ := List.mem_filter.1 (List.mem_of_find?_eq_some found)
    simp only [Bool.and_eq_true, decide_eq_true_eq] at flagged
    obtain ⟨id, get⟩ := Option.isSome_iff_exists.1 flagged.2
    simp only [observedId, get, Option.getD_some] at hid
    obtain ⟨f', hf', hk, hi⟩ := (existing_get? c h).1 get
    obtain ⟨hf', isOpen⟩ := (c.mem_openRows).1 hf'
    obtain rfl := ids_unique h hf' hf (hi.trans hid)
    have value := evaluation_of_mem c mem
    rw [if_pos ⟨isOpen, by rw [verdict, hk, value]; exact flagged.1⟩, hk, value]
    rfl
  | none =>
    rw [if_neg, Option.elim_none]
    rintro ⟨isOpen, yes⟩
    have get : (c.existing flags).get? f.entityKey = some f.id :=
      (existing_get? c h).2 ⟨f, (c.mem_openRows).2 ⟨hf, isOpen⟩, rfl, rfl⟩
    have item : (f.entityKey, c.evaluation f.entityKey) ∈ c.observedItems flags := by
      apply List.mem_filter.2
      refine ⟨mem_evaluations_of_verdict c yes, ?_⟩
      simp only [verdict] at yes
      simp [get, yes]
    have hne := List.find?_eq_none.1 found _ item
    simp [observedId, get] at hne

/-! ## The call -/

/-- The number of flags the call resolves. -/
def resolvedCount (flags : List ExceptionFlag) : ℕ :=
  ((c.openRows flags).filter fun f => c.verdict f.entityKey = some false).length

theorem resolvedItems_length (h : Coherent flags) :
    (c.resolvedItems flags).length = c.resolvedCount flags := by
  rw [resolvedItems, existing_items c h, List.filter_map, List.length_map, resolvedCount]
  exact ((c.rows.perm _).filter _).length_eq

theorem added_eq (h : Coherent flags) :
    (c.evaluations.items.filter fun e => decide (e.2.isFlagged = some true) &&
      ((c.existing flags).get? e.1).isNone).map (fun e => c.newFlag e.1 e.2.measuredValue) =
    c.added flags := by
  rw [added]
  congr 2
  funext e
  congr 1
  rw [Bool.eq_iff_iff, decide_eq_true_iff, Option.isNone_iff_eq_none]
  exact existing_get?_eq_none c h

/-- The rows after both loops. -/
theorem rows_updated (h : Coherent flags) :
    (c.observedItems flags).foldl
      (fun rows e => modify (·.id) (c.observedId flags e)
        (ExceptionFlag.observe c.simulationDate e.2.measuredValue) rows)
      ((c.resolvedItems flags).foldl
        (fun rows e => modify (·.id) e.2 (ExceptionFlag.resolve c.now) rows) flags) =
    flags.map c.updated := by
  have resolvedIds : ((c.resolvedItems flags).map Prod.snd).Nodup :=
    (existing_ids_nodup c h).sublist (List.filter_sublist.map _)
  rw [foldl_modify_of_nodup (·.id) Prod.snd (fun _ => ExceptionFlag.resolve c.now) (fun _ _ => rfl)
      resolvedIds,
    foldl_modify_of_nodup (·.id) (c.observedId flags)
      (fun e => ExceptionFlag.observe c.simulationDate e.2.measuredValue) (fun _ _ => rfl)
      (observedItems_ids_nodup c h), List.map_map]
  apply List.map_congr_left
  intro f hf
  simp only [Function.comp_apply]
  rw [row_resolved c h hf, row_observed c h hf (by split <;> rfl)]
  unfold updated
  by_cases isOpen : f.category = c.category ∧ f.isOpen = true
  · cases hv : c.verdict f.entityKey with
    | none => simp [isOpen]
    | some b => cases b <;> simp [isOpen]
  · simp [isOpen]

/-- The two loops and the flush, as one pass over the rows and a list of insertions. -/
theorem syncFlags_eq (h : Coherent flags) :
    c.syncFlags flags = ((c.added flags).foldlM c.insertFlag? (flags.map c.updated)).map
      fun flags' => (flags', (c.added flags).length, c.resolvedCount flags) := by
  have resolvedKeys : ∀ e ∈ c.evaluations.items, e.2.isFlagged = some true →
      e.1 ∉ (c.resolvedItems flags).map Prod.fst := by
    intro e he flagged hm
    obtain ⟨item, hitem, key⟩ := List.mem_map.1 hm
    have no : c.verdict item.1 = some false := by simpa using (List.mem_filter.1 hitem).2
    rw [key, verdict, evaluation_of_mem c he, flagged] at no
    cases no
  have first := c.foldl_resolveStep (c.existing flags).items (flags, [])
  have second := c.foldl_evaluateStep flags ((c.resolvedItems flags).map Prod.fst)
    resolvedKeys ((c.resolvedItems flags).foldl
      (fun rows e => modify (·.id) e.2 (ExceptionFlag.resolve c.now) rows) flags, [])
  have rows := c.rows_updated h
  have new := c.added_eq h
  have count := c.resolvedItems_length h
  simp only [resolvedItems, observedItems] at second rows count
  simp only [syncFlags, first, List.nil_append, second, rows, new, List.length_map, count]
  cases (c.added flags).foldlM c.insertFlag? (flags.map c.updated) <;> rfl

end SyncCall

end MeadowOps.Exceptions
