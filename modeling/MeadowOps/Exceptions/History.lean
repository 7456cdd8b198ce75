import MeadowOps.Exceptions.Sync

/-!
# The law of exception-flag reconciliation

`history` runs a list of calls from no flags. A call that raises leaves the flags as they were: its
transaction is lost. Every history is `Coherent`, and every call on it that returns obeys `SyncLaw`.
-/

namespace MeadowOps.Exceptions

open Db Lib MeadowOps.Flow

/-- The entity has an open flag in the category. -/
def OpenAt (flags : List ExceptionFlag) (category : String) (key : EntityKey) : Prop :=
  ∃ f ∈ flags, f.isOpen = true ∧ f.category = category ∧ f.entityKey = key

/-- What identifies the open flags. -/
def openSet (flags : List ExceptionFlag) : List (Uuid × String × EntityKey) :=
  (flags.filter (·.isOpen)).map fun f => (f.id, f.category, f.entityKey)

/-- The same flag later on: its columns that are written on INSERT only are the same, and once it
is resolved it does not change. -/
structure Frozen (f f' : ExceptionFlag) : Prop where
  id : f'.id = f.id
  category : f'.category = f.category
  entityKey : f'.entityKey = f.entityKey
  thresholdValue : f'.thresholdValue = f.thresholdValue
  firstDetected : f'.firstDetectedSimulationDate = f.firstDetectedSimulationDate
  resolved : f.isOpen = false → f' = f

/-- The flags that are open now and were absent before. -/
def openedFlags (flags flags' : List ExceptionFlag) : List ExceptionFlag :=
  flags'.filter fun f => f.isOpen && decide (f.id ∉ flags.map (·.id))

/-- The flags that were open before and are resolved now. -/
def resolvedFlags (flags flags' : List ExceptionFlag) : List ExceptionFlag :=
  flags.filter fun f => f.isOpen && flags'.any fun f' => decide (f'.id = f.id) && !f'.isOpen

/-- The two calls have the same arguments. -/
structure SameArguments (c c' : SyncCall) : Prop where
  category : c'.category = c.category
  simulationDate : c'.simulationDate = c.simulationDate
  thresholdValue : c'.thresholdValue = c.thresholdValue
  evaluations : c'.evaluations = c.evaluations

/-- What a call does to the flags. -/
structure SyncLaw (c : SyncCall) (flags flags' : List ExceptionFlag) (opened resolved : ℕ) :
    Prop where
  /-- The open entities are those evaluated True and those left inconclusive. -/
  openEntities : ∀ key, OpenAt flags' c.category key ↔
    (∃ e, c.evaluations.get? key = some e ∧ e.isFlagged = some true) ∨
    OpenAt flags c.category key ∧ ∃ e, c.evaluations.get? key = some e ∧ e.isFlagged = none
  opened_eq : opened = (openedFlags flags flags').length
  resolved_eq : resolved = (resolvedFlags flags flags').length
  frozen : ∀ f ∈ flags, ∃ f' ∈ flags', Frozen f f'
  /-- The new flags carry what the call says. -/
  inserted : ∀ f ∈ flags', f.id ∉ flags.map (·.id) → f.category = c.category ∧
    f.thresholdValue = c.thresholdValue ∧ f.firstDetectedSimulationDate = c.simulationDate
  otherCategories : flags'.filter (fun f => decide (f.category ≠ c.category)) =
    flags.filter fun f => decide (f.category ≠ c.category)
  /-- Repeating the call opens none, resolves none and keeps the open set. -/
  repeated : ∀ c', SameArguments c c' → ∃ flags'', c'.syncFlags flags' = some (flags'', 0, 0) ∧
    openSet flags'' = openSet flags'

theorem Frozen.refl (f : ExceptionFlag) : Frozen f f := ⟨rfl, rfl, rfl, rfl, rfl, fun _ => rfl⟩

theorem Frozen.trans {f g h : ExceptionFlag} (first : Frozen f g) (second : Frozen g h) :
    Frozen f h where
  id := second.id.trans first.id
  category := second.category.trans first.category
  entityKey := second.entityKey.trans first.entityKey
  thresholdValue := second.thresholdValue.trans first.thresholdValue
  firstDetected := second.firstDetected.trans first.firstDetected
  resolved := by
    intro done
    have same := first.resolved done
    subst same
    exact second.resolved done

namespace SyncCall
variable (c : SyncCall) {flags flags' : List ExceptionFlag}

/-! ## The row after a call -/

theorem updated_frozen (f : ExceptionFlag) : Frozen f (c.updated f) := by
  unfold updated
  split
  · rename_i isOpen
    have notResolved : f.isOpen = false → ∀ f', f' = f := by
      intro done
      rw [isOpen.2] at done
      cases done
    split
    · exact ⟨rfl, rfl, rfl, rfl, rfl, fun done => notResolved done _⟩
    · exact ⟨rfl, rfl, rfl, rfl, rfl, fun done => notResolved done _⟩
    · exact Frozen.refl f
  · exact Frozen.refl f

theorem updated_of_other {f : ExceptionFlag} (h : f.category ≠ c.category) : c.updated f = f :=
  if_neg fun isOpen => h isOpen.1

/-- A flag is open after the call if it was open and the call does not resolve it. -/
theorem updated_isOpen (f : ExceptionFlag) : (c.updated f).isOpen = true ↔
    f.isOpen = true ∧ ¬ (f.category = c.category ∧ c.verdict f.entityKey = some false) := by
  by_cases isOpen : f.category = c.category ∧ f.isOpen = true
  · have still : (f.observe c.simulationDate (c.evaluation f.entityKey).measuredValue).isOpen =
        true := isOpen.2
    have closed : (f.resolve c.now).isOpen = false := rfl
    rw [updated, if_pos isOpen]
    cases verdict : c.verdict f.entityKey with
    | none => simp [isOpen.2]
    | some b =>
      cases b with
      | true => simp [still, isOpen.2]
      | false => simp [closed, isOpen.1]
  · rw [show c.updated f = f from if_neg isOpen]
    constructor
    · intro h
      exact ⟨h, fun both => isOpen ⟨both.1, h⟩⟩
    · exact And.left

theorem map_id_updated (flags : List ExceptionFlag) :
    (flags.map c.updated).map (·.id) = flags.map (·.id) := by
  rw [List.map_map]
  apply List.map_congr_left
  intro f _
  exact (c.updated_frozen f).id

theorem updated_coherent (h : Coherent flags) : Coherent (flags.map c.updated) where
  keyed := by
    rw [Keyed, map_id_updated]
    exact h.keyed
  oneOpen := by
    intro f' hf' g' hg' fo go category key
    obtain ⟨f, hf, rfl⟩ := List.mem_map.1 hf'
    obtain ⟨g, hg, rfl⟩ := List.mem_map.1 hg'
    have ff := c.updated_frozen f
    have fg := c.updated_frozen g
    have same : f = g := by
      apply h.oneOpen f hf g hg ((c.updated_isOpen f).1 fo).1 ((c.updated_isOpen g).1 go).1
      · rw [← ff.category, category, fg.category]
      · rw [← ff.entityKey, key, fg.entityKey]
    rw [same]

/-! ## The insertions -/

theorem insertFlag?_some {f : ExceptionFlag} (h : c.insertFlag? flags f = some flags') :
    flags' = flags ++ [f] ∧ f.id ∉ flags.map (·.id) ∧
      ∀ g ∈ flags, g.isOpen = true → g.openEntity ≠ f.openEntity := by
  unfold insertFlag? at h
  split at h
  · cases h
  · rename_i free
    obtain ⟨eq, fresh⟩ := insert?_eq_some h
    refine ⟨eq, fresh, ?_⟩
    intro g hg isOpen same
    apply free
    rw [Bool.or_eq_true, List.any_eq_true]
    exact .inr ⟨g, hg, by simp [isOpen, same]⟩

/-- The unique index tells entities apart. -/
theorem openEntity_eq {f g : ExceptionFlag} (category : f.category = g.category)
    (key : f.entityKey = g.entityKey) : f.openEntity = g.openEntity := by
  obtain ⟨product, warehouse, order, shipment⟩ := EntityKey.mk.inj key
  simp [ExceptionFlag.openEntity, category, product, warehouse, order, shipment]

theorem insertFlag?_coherent {f : ExceptionFlag} (h : Coherent flags)
    (ok : c.insertFlag? flags f = some flags') : Coherent flags' := by
  obtain ⟨rfl, fresh, free⟩ := c.insertFlag?_some ok
  constructor
  · exact h.keyed.append fresh
  · intro a ha b hb ao bo category key
    rcases List.mem_append.1 ha with olda | newa <;> rcases List.mem_append.1 hb with oldb | newb
    · exact h.oneOpen a olda b oldb ao bo category key
    · obtain rfl := List.mem_singleton.1 newb
      exact absurd (openEntity_eq category key) (free a olda ao)
    · obtain rfl := List.mem_singleton.1 newa
      exact absurd (openEntity_eq category key).symm (free b oldb bo)
    · rw [List.mem_singleton.1 newa, List.mem_singleton.1 newb]

theorem insertAll_some {new : List ExceptionFlag} (h : Coherent flags)
    (ok : new.foldlM c.insertFlag? flags = some flags') :
    flags' = flags ++ new ∧ Coherent flags' := by
  induction new generalizing flags with
  | nil =>
    obtain rfl := Option.some.inj ok
    exact ⟨(List.append_nil _).symm, h⟩
  | cons f new ih =>
    rw [List.foldlM_cons] at ok
    obtain ⟨mid, one, rest⟩ := Option.bind_eq_some_iff.1 ok
    obtain ⟨eq, coherent⟩ := ih (c.insertFlag?_coherent h one) rest
    refine ⟨?_, coherent⟩
    rw [eq, (c.insertFlag?_some one).1, List.append_assoc]
    rfl

/-- A call that returns: the rows, one by one, and the new ones. -/
theorem syncFlags_some {opened resolved : ℕ} (h : Coherent flags)
    (ok : c.syncFlags flags = some (flags', opened, resolved)) :
    flags' = flags.map c.updated ++ c.added flags ∧ opened = (c.added flags).length ∧
      resolved = c.resolvedCount flags ∧ Coherent flags' := by
  rw [syncFlags_eq c h] at ok
  obtain ⟨rows, inserted, eq⟩ := Option.map_eq_some_iff.1 ok
  obtain ⟨rfl, rfl, rfl⟩ := Prod.mk.inj eq |>.imp_right Prod.mk.inj
  obtain ⟨rows, coherent⟩ := c.insertAll_some (c.updated_coherent h) inserted
  exact ⟨rows, rfl, rfl, coherent⟩

/-! ## The law -/

theorem verdict_of_same {c' : SyncCall} (same : SameArguments c c') (key : EntityKey) :
    c'.verdict key = c.verdict key := by
  rw [verdict, verdict, evaluation, evaluation, same.evaluations]

theorem verdict_eq_true {key : EntityKey} : c.verdict key = some true ↔
    ∃ e, c.evaluations.get? key = some e ∧ e.isFlagged = some true := by
  unfold verdict evaluation Dict.getD
  cases c.evaluations.get? key <;> simp

theorem verdict_eq_none {key : EntityKey} : c.verdict key = none ↔
    ∃ e, c.evaluations.get? key = some e ∧ e.isFlagged = none := by
  unfold verdict evaluation Dict.getD
  cases c.evaluations.get? key <;> simp

theorem mem_added {f : ExceptionFlag} : f ∈ c.added flags ↔
    ∃ key e, c.evaluations.get? key = some e ∧ e.isFlagged = some true ∧
      ¬ OpenAt flags c.category key ∧ f = c.newFlag key e.measuredValue := by
  have closed : ∀ key, key ∉ (c.openRows flags).map (·.entityKey) ↔
      ¬ OpenAt flags c.category key := by
    intro key
    apply not_congr
    rw [List.mem_map]
    constructor
    · rintro ⟨f, hf, same⟩
      obtain ⟨mem, category, isOpen⟩ := c.mem_openRows.1 hf
      exact ⟨f, mem, isOpen, category, same⟩
    · rintro ⟨f, mem, isOpen, category, same⟩
      exact ⟨f, c.mem_openRows.2 ⟨mem, category, isOpen⟩, same⟩
  rw [added, List.mem_map]
  constructor
  · rintro ⟨e, he, rfl⟩
    rw [List.mem_filter, Bool.and_eq_true, decide_eq_true_iff, decide_eq_true_iff, closed] at he
    exact ⟨e.1, e.2, Dict.mem_items_iff.1 he.1, he.2.1, he.2.2, rfl⟩
  · rintro ⟨key, e, get, flagged, notOpen, rfl⟩
    refine ⟨(key, e), ?_, rfl⟩
    rw [List.mem_filter, Bool.and_eq_true, decide_eq_true_iff, decide_eq_true_iff, closed]
    exact ⟨Dict.mem_items_iff.2 get, flagged, notOpen⟩

theorem openEntities_after (key : EntityKey) :
    OpenAt (flags.map c.updated ++ c.added flags) c.category key ↔
      c.verdict key = some true ∨ OpenAt flags c.category key ∧ c.verdict key = none := by
  constructor
  · rintro ⟨f', hf', isOpen, category, same⟩
    rcases List.mem_append.1 hf' with hf' | hf'
    · obtain ⟨f, hf, rfl⟩ := List.mem_map.1 hf'
      have frozen := c.updated_frozen f
      rw [frozen.category] at category
      rw [frozen.entityKey] at same
      obtain ⟨wasOpen, kept⟩ := (c.updated_isOpen f).1 isOpen
      rw [same] at kept
      have wasOpenAt : OpenAt flags c.category key := ⟨f, hf, wasOpen, category, same⟩
      cases verdict : c.verdict key with
      | none => exact .inr ⟨wasOpenAt, rfl⟩
      | some b =>
        cases b with
        | true => exact .inl rfl
        | false => exact absurd ⟨category, verdict⟩ kept
    · obtain ⟨key', e, get, flagged, _, rfl⟩ := c.mem_added.1 hf'
      obtain rfl : key' = key := same
      exact .inl (c.verdict_eq_true.2 ⟨e, get, flagged⟩)
  · have stays : OpenAt flags c.category key → c.verdict key ≠ some false →
        OpenAt (flags.map c.updated ++ c.added flags) c.category key := by
      rintro ⟨f, hf, isOpen, category, same⟩ kept
      have frozen := c.updated_frozen f
      refine ⟨c.updated f, List.mem_append_left _ (List.mem_map_of_mem hf), ?_,
        frozen.category.trans category, frozen.entityKey.trans same⟩
      rw [updated_isOpen, same]
      exact ⟨isOpen, fun both => kept both.2⟩
    rintro (yes | ⟨wasOpen, inconclusive⟩)
    · by_cases wasOpen : OpenAt flags c.category key
      · exact stays wasOpen (by simp [yes])
      · obtain ⟨e, get, flagged⟩ := c.verdict_eq_true.1 yes
        exact ⟨c.newFlag key e.measuredValue, List.mem_append_right _
          (c.mem_added.2 ⟨key, e, get, flagged, wasOpen, rfl⟩), rfl, rfl, rfl⟩
    · exact stays wasOpen (by simp [inconclusive])

theorem added_isOpen {f : ExceptionFlag} (h : f ∈ c.added flags) :
    f.isOpen = true ∧ f.category = c.category := by
  obtain ⟨_, _, _, _, _, rfl⟩ := c.mem_added.1 h
  exact ⟨rfl, rfl⟩

/-- The ids of the new flags are new. -/
theorem added_fresh (keyed : Keyed (·.id) (flags.map c.updated ++ c.added flags))
    {f : ExceptionFlag} (h : f ∈ c.added flags) : f.id ∉ flags.map (·.id) := by
  intro taken
  rw [← c.map_id_updated] at taken
  rw [Keyed, List.map_append] at keyed
  exact (List.nodup_append.1 keyed).2.2 f.id taken f.id (List.mem_map_of_mem h) rfl

theorem openedFlags_after (keyed : Keyed (·.id) (flags.map c.updated ++ c.added flags)) :
    openedFlags flags (flags.map c.updated ++ c.added flags) = c.added flags := by
  rw [openedFlags, List.filter_append, List.filter_eq_nil_iff.2, List.nil_append,
    List.filter_eq_self.2]
  · intro f hf
    simpa [(c.added_isOpen hf).1] using c.added_fresh keyed hf
  · intro f' hf'
    obtain ⟨f, hf, rfl⟩ := List.mem_map.1 hf'
    have old : (c.updated f).id ∈ flags.map (·.id) := by
      rw [(c.updated_frozen f).id]
      exact List.mem_map_of_mem hf
    simp [show ∃ a ∈ flags, a.id = (c.updated f).id from List.mem_map.1 old]

theorem resolvedFlags_after (keyed : Keyed (·.id) (flags.map c.updated ++ c.added flags)) :
    (resolvedFlags flags (flags.map c.updated ++ c.added flags)).length =
      c.resolvedCount flags := by
  rw [resolvedCount, openRows, List.filter_filter, resolvedFlags]
  congr 1
  apply List.filter_congr
  intro f hf
  rw [Bool.eq_iff_iff, Bool.and_eq_true, List.any_eq_true, Bool.and_eq_true, Bool.and_eq_true,
    decide_eq_true_iff, decide_eq_true_iff]
  constructor
  · rintro ⟨wasOpen, f', hf', same⟩
    rw [Bool.and_eq_true, decide_eq_true_iff, Bool.not_eq_true'] at same
    have row : f' = c.updated f := by
      apply List.inj_on_of_nodup_map keyed hf' (List.mem_append_left _ (List.mem_map_of_mem hf))
      exact same.1.trans (c.updated_frozen f).id.symm
    have closed : ¬ (c.updated f).isOpen = true := by
      rw [← row, same.2]
      exact Bool.false_ne_true
    rw [updated_isOpen] at closed
    by_contra other
    exact closed ⟨wasOpen, fun both => other ⟨both.2, both.1, wasOpen⟩⟩
  · rintro ⟨no, category, wasOpen⟩
    refine ⟨wasOpen, c.updated f, List.mem_append_left _ (List.mem_map_of_mem hf), ?_⟩
    have closed : ¬ (c.updated f).isOpen = true := by
      rw [updated_isOpen]
      exact fun h => h.2 ⟨category, no⟩
    simp [(c.updated_frozen f).id, closed]

theorem otherCategories_after :
    (flags.map c.updated ++ c.added flags).filter (fun f => decide (f.category ≠ c.category)) =
      flags.filter fun f => decide (f.category ≠ c.category) := by
  have new : (c.added flags).filter (fun f => decide (f.category ≠ c.category)) = [] := by
    rw [List.filter_eq_nil_iff]
    intro f hf
    simp [(c.added_isOpen hf).2]
  rw [List.filter_append, new, List.append_nil, List.filter_map]
  have same : (fun f : ExceptionFlag => decide (f.category ≠ c.category)) ∘ c.updated =
      fun f => decide (f.category ≠ c.category) := by
    funext f
    simp [(c.updated_frozen f).category]
  rw [same]
  calc _ = (flags.filter fun f => decide (f.category ≠ c.category)).map id := by
        apply List.map_congr_left
        intro f hf
        exact c.updated_of_other (of_decide_eq_true (List.mem_filter.1 hf).2)
    _ = _ := List.map_id _

/-- A call with nothing to open and nothing to resolve. -/
theorem syncFlags_settled (h : Coherent flags)
    (flagged : ∀ key, c.verdict key = some true → OpenAt flags c.category key)
    (kept : ∀ key, OpenAt flags c.category key → c.verdict key ≠ some false) :
    ∃ flags', c.syncFlags flags = some (flags', 0, 0) ∧ openSet flags' = openSet flags := by
  have none_added : c.added flags = [] := by
    rw [List.eq_nil_iff_forall_not_mem]
    intro f hf
    obtain ⟨key, e, get, yes, notOpen, _⟩ := c.mem_added.1 hf
    exact notOpen (flagged key (c.verdict_eq_true.2 ⟨e, get, yes⟩))
  have none_resolved : c.resolvedCount flags = 0 := by
    rw [resolvedCount, List.length_eq_zero_iff, List.filter_eq_nil_iff]
    intro f hf
    obtain ⟨mem, category, isOpen⟩ := c.mem_openRows.1 hf
    simpa using kept f.entityKey ⟨f, mem, isOpen, category, rfl⟩
  refine ⟨flags.map c.updated, ?_, ?_⟩
  · rw [syncFlags_eq c h, none_added, none_resolved]
    rfl
  · have isOpen : ∀ f ∈ flags, (c.updated f).isOpen = f.isOpen := by
      intro f hf
      rw [Bool.eq_iff_iff, updated_isOpen]
      refine ⟨And.left, fun wasOpen => ⟨wasOpen, ?_⟩⟩
      rintro ⟨category, no⟩
      exact kept f.entityKey ⟨f, hf, wasOpen, category, rfl⟩ no
    rw [openSet, openSet, List.filter_map, List.map_map]
    have open_iff : flags.filter ((·.isOpen) ∘ c.updated) = flags.filter (·.isOpen) := by
      apply List.filter_congr
      exact isOpen
    rw [open_iff]
    apply List.map_congr_left
    intro f _
    have frozen := c.updated_frozen f
    simp [frozen.id, frozen.category, frozen.entityKey]

theorem syncLaw {opened resolved : ℕ} (h : Coherent flags)
    (ok : c.syncFlags flags = some (flags', opened, resolved)) :
    SyncLaw c flags flags' opened resolved := by
  obtain ⟨rfl, rfl, rfl, coherent⟩ := c.syncFlags_some h ok
  constructor
  case openEntities =>
    intro key
    rw [openEntities_after, verdict_eq_true, verdict_eq_none]
  case opened_eq => rw [openedFlags_after c coherent.keyed]
  case resolved_eq => rw [resolvedFlags_after c coherent.keyed]
  case frozen =>
    intro f hf
    exact ⟨c.updated f, List.mem_append_left _ (List.mem_map_of_mem hf), c.updated_frozen f⟩
  case inserted =>
    intro f hf fresh
    rcases List.mem_append.1 hf with hf | hf
    · rw [← c.map_id_updated] at fresh
      exact absurd (List.mem_map_of_mem hf) fresh
    · obtain ⟨_, _, _, _, _, rfl⟩ := c.mem_added.1 hf
      exact ⟨rfl, rfl, rfl⟩
  case otherCategories => exact c.otherCategories_after
  case repeated =>
    intro c' same
    apply c'.syncFlags_settled coherent
    · intro key yes
      rw [c.verdict_of_same same] at yes
      rw [same.category, openEntities_after]
      exact .inl yes
    · intro key isOpen
      rw [same.category, openEntities_after] at isOpen
      rw [c.verdict_of_same same]
      rcases isOpen with yes | ⟨_, inconclusive⟩
      · simp [yes]
      · simp [inconclusive]

end SyncCall

/-! ## Histories -/

/-- The flags after a call: unchanged when it raises. -/
def afterCall (flags : List ExceptionFlag) (c : SyncCall) : List ExceptionFlag :=
  (c.syncFlags flags).elim flags Prod.fst

/-- The flags after a list of calls, from no flags. -/
def history (calls : List SyncCall) : List ExceptionFlag := calls.foldl afterCall []

/-- A call that raises leaves the flags as they are. -/
theorem afterCall_cases (flags : List ExceptionFlag) (c : SyncCall) :
    afterCall flags c = flags ∨ ∃ flags' opened resolved,
      c.syncFlags flags = some (flags', opened, resolved) ∧ afterCall flags c = flags' := by
  unfold afterCall
  cases call : c.syncFlags flags with
  | none => exact .inl rfl
  | some result => exact .inr ⟨result.1, result.2.1, result.2.2, rfl, rfl⟩

theorem Coherent.afterCall {flags : List ExceptionFlag} (h : Coherent flags) (c : SyncCall) :
    Coherent (afterCall flags c) := by
  rcases afterCall_cases flags c with same | ⟨flags', _, _, ok, eq⟩
  · rw [same]
    exact h
  · rw [eq]
    exact (c.syncFlags_some h ok).2.2.2

theorem Coherent.foldl {flags : List ExceptionFlag} (h : Coherent flags) (calls : List SyncCall) :
    Coherent (calls.foldl Exceptions.afterCall flags) := by
  induction calls generalizing flags with
  | nil => exact h
  | cons c calls ih => exact ih (h.afterCall c)

theorem history_coherent (calls : List SyncCall) : Coherent (history calls) := by
  apply Coherent.foldl
  constructor
  · exact List.nodup_nil
  · intro f hf
    cases hf

theorem frozen_afterCall {flags : List ExceptionFlag} (h : Coherent flags) (c : SyncCall) :
    ∀ f ∈ flags, ∃ f' ∈ afterCall flags c, Frozen f f' := by
  intro f hf
  rcases afterCall_cases flags c with same | ⟨flags', _, _, ok, eq⟩
  · rw [same]
    exact ⟨f, hf, Frozen.refl f⟩
  · rw [eq]
    exact (c.syncLaw h ok).frozen f hf

theorem frozen_foldl {flags : List ExceptionFlag} (h : Coherent flags) (calls : List SyncCall) :
    ∀ f ∈ flags, ∃ f' ∈ calls.foldl afterCall flags, Frozen f f' := by
  induction calls generalizing flags with
  | nil =>
    intro f hf
    exact ⟨f, hf, Frozen.refl f⟩
  | cons c calls ih =>
    intro f hf
    obtain ⟨mid, hmid, first⟩ := frozen_afterCall h c f hf
    obtain ⟨last, hlast, second⟩ := ih (h.afterCall c) mid hmid
    exact ⟨last, hlast, first.trans second⟩

/-- Over every history: one open flag for a category and an entity, no later call changes what
the INSERT wrote or a resolved flag, and each call that returns obeys the law. -/
theorem flags_reconciled (calls : List SyncCall) :
    Coherent (history calls) ∧
      (∀ later, ∀ f ∈ history calls, ∃ f' ∈ history (calls ++ later), Frozen f f') ∧
      ∀ c flags' opened resolved, c.syncFlags (history calls) = some (flags', opened, resolved) →
        history (calls ++ [c]) = flags' ∧
          SyncLaw c (history calls) flags' opened resolved := by
  have coherent := history_coherent calls
  refine ⟨coherent, ?_, ?_⟩
  · intro later
    rw [history, history, List.foldl_append]
    exact frozen_foldl coherent later
  · intro c flags' opened resolved ok
    refine ⟨?_, c.syncLaw coherent ok⟩
    rw [history, List.foldl_append, ← history, List.foldl_cons, List.foldl_nil, afterCall, ok]
    rfl

/-- A call on the low-stock category that evaluates two products at one warehouse. -/
def lowStockCall (day : Date) (bread milk : Option Bool) : SyncCall where
  category := "low_stock_days_of_supply"
  simulationDate := day
  thresholdValue := 3
  evaluations := Dict.ofList
    [(⟨some "bread", some "main", none, none⟩, ⟨bread, none⟩),
     (⟨some "milk", some "main", none, none⟩, ⟨milk, none⟩)]
  rows := RowOrder.inserted
  now := simDatetime day
  newId key := if key.productId = some "bread" then 2 * day.toNat else 2 * day.toNat + 1
  refuses _ := false

/-- Bread and milk are low on day one; on day two bread has recovered and milk is inconclusive. -/
theorem flags_reconciled_dayTwo :
    SyncLaw (lowStockCall 2 (some false) none) (history [lowStockCall 1 (some true) (some true)])
      (history [lowStockCall 1 (some true) (some true), lowStockCall 2 (some false) none]) 0 1 :=
  ((flags_reconciled [lowStockCall 1 (some true) (some true)]).2.2
    (lowStockCall 2 (some false) none) _ 0 1 (by decide +kernel)).2

end MeadowOps.Exceptions
