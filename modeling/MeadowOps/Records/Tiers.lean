import MeadowOps.Records.Permanence

/-!
# The difficulty of a cluster

The recommendations of a cluster, in the order of its completions, are what `resolve_difficulty_for_cluster`
reads. A tier stands as long as the last two of them agree on it, and it never changes into another one
without a hold in between.
-/

namespace MeadowOps.Records

open Db Lib MeadowOps.Flow Scenarios Chat

open Generation (DifficultyRecommendation)

/-- The recommendations of the cluster, in the order of the completions. -/
def recommendationsOf (store : RecordStore) (cluster : CompetencyCluster) : List DifficultyRecommendation :=
  (store.evaluation.filter (ofCluster store cluster)).map (·.difficultyRecommendation)

/-- Two agreeing recommendations are needed for a tier. -/
theorem resolveClusterTier_iff {tier : DifficultyRecommendation} (real : tier ≠ .hold)
    (recent : List DifficultyRecommendation) :
    resolveClusterTier recent = tier ↔ ∃ older, recent = tier :: tier :: older := by
  match recent with
  | [] => simp [resolveClusterTier, minimumObservations, real.symm]
  | [_] => simp [resolveClusterTier, minimumObservations, real.symm]
  | first :: second :: older =>
    rw [resolveClusterTier, if_neg (by simp [minimumObservations])]
    show (if ([first, second].dedup).length ≠ 1 then _ else first) = tier ↔ _
    by_cases same : first = second
    · subst same
      simp
    · have two : [first, second].dedup = [first, second] :=
        List.dedup_eq_self.2 (List.nodup_cons.2 ⟨by simpa using same, List.nodup_singleton _⟩)
      rw [two, if_pos (by simp)]
      constructor
      · exact fun hold => absurd hold.symm real
      · rintro ⟨_, eq⟩
        obtain ⟨rfl, rest⟩ := List.cons.inj eq
        exact absurd (List.cons.inj rest).1.symm same

/-- Rows that were created one after another, the latest first. -/
theorem insertionSort_latest {rows : List EvaluationRow} (order : RowOrder EvaluationRow)
    (increasing : rows.Pairwise fun e f => e.createdAt < f.createdAt) :
    (order.rows rows).insertionSort (fun e f => f.createdAt ≤ e.createdAt) = rows.reverse := by
  have total : Std.Total fun e f : EvaluationRow => f.createdAt ≤ e.createdAt := ⟨fun _ _ => le_total _ _⟩
  have trans : IsTrans EvaluationRow fun e f => f.createdAt ≤ e.createdAt := ⟨fun _ _ _ le le' => le'.trans le⟩
  have perm := (List.perm_insertionSort (fun e f => f.createdAt ≤ e.createdAt) (order.rows rows)).trans
    (order.perm rows)
  have sorted := List.pairwise_insertionSort (fun e f => f.createdAt ≤ e.createdAt) (order.rows rows)
  have apart := perm.symm.pairwise (increasing.imp fun lt => ne_of_lt lt) fun h => h.symm
  have strict := (sorted.and apart).imp fun both => lt_of_le_of_ne both.1 both.2.symm
  refine (perm.trans (List.reverse_perm rows).symm).eq_of_pairwise (fun e f _ _ lt lt' => ?_) strict
    (List.pairwise_reverse.2 increasing)
  exact absurd lt' (lt_asymm lt)

section Store

variable {clock : Instant} {store : RecordStore}

/-- The query reads the last recommendations, the latest first. -/
theorem RecordInv.resolve_eq (h : RecordInv clock store) (order : RowOrder EvaluationRow)
    (cluster : CompetencyCluster) :
    resolveDifficultyForCluster store order cluster =
      resolveClusterTier ((recommendationsOf store cluster).reverse.take recentRecommendationsLimit) := by
  rw [resolveDifficultyForCluster, insertionSort_latest order (h.increasing.filter _), recommendationsOf,
    ← List.map_reverse, List.map_take]

theorem RecordInv.resolve_iff (h : RecordInv clock store) (order : RowOrder EvaluationRow)
    (cluster : CompetencyCluster) {tier : DifficultyRecommendation} (real : tier ≠ .hold) :
    resolveDifficultyForCluster store order cluster = tier ↔
      ∃ older, recommendationsOf store cluster = older ++ [tier, tier] := by
  rw [h.resolve_eq, resolveClusterTier_iff real]
  constructor
  · rintro ⟨older, latest⟩
    have whole := List.take_append_drop recentRecommendationsLimit (recommendationsOf store cluster).reverse
    rw [latest] at whole
    have all := congrArg List.reverse whole
    rw [List.reverse_reverse] at all
    refine ⟨(older ++ (recommendationsOf store cluster).reverse.drop recentRecommendationsLimit).reverse,
      all.symm.trans ?_⟩
    simp only [List.cons_append, List.reverse_cons, List.append_assoc, List.nil_append]
  · rintro ⟨older, all⟩
    refine ⟨older.reverse.take 3, ?_⟩
    rw [all]
    simp [recentRecommendationsLimit]

/-- What an evaluation counts for does not change. -/
theorem RecordInv.ofCluster_kept (h : RecordInv clock store) {store' : RecordStore} {clock' : Instant}
    (h' : RecordInv clock' store') (kept : Kept store store') (cluster : CompetencyCluster) {e : EvaluationRow}
    (mem : e ∈ store.evaluation) : ofCluster store' cluster e = ofCluster store cluster e := by
  obtain ⟨row, memRow, id, -⟩ := h.graded_thread mem
  obtain ⟨row', memRow', id', scenario'⟩ := kept.threads row memRow
  obtain ⟨s, memS, -, found⟩ := h.scenario_of_thread memRow
  obtain ⟨s', memS', sameId, -, sameCluster⟩ := kept.scenarios s memS
  have found' : lookup Scenario.id row.thread.scenarioId store'.chat.scenarios = some s' := by
    rw [← (lookup_mem found).2, ← sameId]
    exact lookup_of_mem h'.scenarios memS'
  rw [ofCluster, ofCluster, ← id, lookup_of_mem h.chat.threads memRow, ← id',
    lookup_of_mem h'.chat.threads memRow']
  dsimp only
  rw [scenario', found, found']
  dsimp only
  rw [sameCluster]

theorem RecordInv.recommendations_kept (h : RecordInv clock store) {store' : RecordStore} {clock' : Instant}
    (h' : RecordInv clock' store') (kept : Kept store store') {added : List EvaluationRow}
    (more : store'.evaluation = store.evaluation ++ added) (cluster : CompetencyCluster) :
    recommendationsOf store' cluster = recommendationsOf store cluster ++
      (added.filter (ofCluster store' cluster)).map (·.difficultyRecommendation) := by
  rw [recommendationsOf, recommendationsOf, more, List.filter_append, List.map_append]
  congr 2
  exact List.filter_congr fun e mem => h.ofCluster_kept h' kept cluster mem

/-- A request adds at most one evaluation. -/
theorem evaluation_recorded {now : Instant} {store' : RecordStore} (done : Recorded now store store') :
    ∃ added, store'.evaluation = store.evaluation ++ added ∧ added.length ≤ 1 := by
  cases done with
  | graded ran evaluations created fresh => exact ⟨[_], rfl, le_refl _⟩
  | service | reviewed | reflected => exact ⟨[], (List.append_nil _).symm, Nat.zero_le _⟩

theorem evaluation_commit (request : Request) (now : Instant) (store : RecordStore) :
    ∃ added, (request.commit now store).evaluation = store.evaluation ++ added ∧ added.length ≤ 1 := by
  rcases commit_cases request now store with same | done
  · exact ⟨[], by rw [same, List.append_nil], Nat.zero_le _⟩
  · exact evaluation_recorded done

end Store

/-! ## Runs -/

/-- What one request may do to the tier of a cluster. -/
structure TierStep (cluster : CompetencyCluster) (store store' : RecordStore) : Prop where
  grows : recommendationsOf store' cluster = recommendationsOf store cluster ∨
    ∃ r, recommendationsOf store' cluster = recommendationsOf store cluster ++ [r]
  stands : recommendationsOf store' cluster = recommendationsOf store cluster →
    ∀ order order', resolveDifficultyForCluster store' order' cluster =
      resolveDifficultyForCluster store order cluster
  /-- No tier is left for another one at once. -/
  holds : ∀ order order', resolveDifficultyForCluster store' order' cluster =
      resolveDifficultyForCluster store order cluster ∨
    resolveDifficultyForCluster store order cluster = .hold ∨
    resolveDifficultyForCluster store' order' cluster = .hold

theorem RecordInv.tierStep {clock now : Instant} {store : RecordStore} (h : RecordInv clock store)
    (later : clock < now) (request : Request) (cluster : CompetencyCluster) :
    TierStep cluster store (request.commit now store) := by
  obtain ⟨h', kept⟩ := h.commit later request
  obtain ⟨added, more, one⟩ := evaluation_commit request now store
  have recommendations := h.recommendations_kept h' kept more cluster
  have grows : recommendationsOf (request.commit now store) cluster = recommendationsOf store cluster ∨
      ∃ r, recommendationsOf (request.commit now store) cluster = recommendationsOf store cluster ++ [r] := by
    rw [recommendations]
    have few : ((added.filter (ofCluster (request.commit now store) cluster)).map
        (·.difficultyRecommendation)).length ≤ 1 := by
      rw [List.length_map]
      exact (List.length_filter_le _ _).trans one
    rcases Nat.le_one_iff_eq_zero_or_eq_one.1 few with none | single
    · exact .inl (by rw [List.length_eq_zero_iff.1 none, List.append_nil])
    · obtain ⟨r, same⟩ := List.length_eq_one_iff.1 single
      exact .inr ⟨r, by rw [same]⟩
  refine ⟨grows, fun same order order' => ?_, fun order order' => ?_⟩
  · rw [h'.resolve_eq, h.resolve_eq, same]
  · by_cases was : resolveDifficultyForCluster store order cluster = .hold
    · exact .inr (.inl was)
    · by_cases is : resolveDifficultyForCluster (request.commit now store) order' cluster = .hold
      · exact .inr (.inr is)
      · left
        obtain ⟨older, before⟩ := (h.resolve_iff order cluster was).1 rfl
        obtain ⟨older', after⟩ := (h'.resolve_iff order' cluster is).1 rfl
        rcases grows with same | ⟨r, same⟩
        · rw [h'.resolve_eq, h.resolve_eq, same]
        · -- the last but one of the new list is the last of the old one
          rw [after, before] at same
          have last := congrArg (fun recommendations => recommendations.dropLast.getLast?) same
          simpa using last

/-- After any requests a cluster has a tier if and only if the last two evaluations of its scenarios have
recommended it, and a request moves the tier at most to or from a hold. -/
theorem tiers_follow_agreement {scenarios : List Scenario} (keyed : Keyed Scenario.id scenarios)
    (title : Uuid → String) (before : List (Request × Instant)) (request : Request × Instant)
    (times : ((before ++ [request]).map (·.2)).Pairwise (· < ·)) (cluster : CompetencyCluster) :
    let store := commitAll before (.quiet scenarios title)
    (∀ order, ∀ tier ≠ .hold, resolveDifficultyForCluster store order cluster = tier ↔
      ∃ older, recommendationsOf store cluster = older ++ [tier, tier]) ∧
      TierStep cluster store (request.1.commit request.2 store) := by
  intro store
  obtain ⟨clock, first⟩ := pairwise_before times
  obtain ⟨-, now, inv, rest⟩ := (recordInv_quiet keyed title clock).commitAll_append first
  obtain ⟨later, -⟩ := List.pairwise_cons.1 rest
  exact ⟨fun order tier real => inv.resolve_iff order cluster real,
    inv.tierStep (later _ (List.mem_cons_self ..)) request.1 cluster⟩

/-- A second thread of the scenario, graded as the first. -/
def gradedTwice : List (Request × Instant) :=
  gradedRequests ++
    [(.chat (.getOrCreateThread 2 .itManager 2) 0, 500),
      (.chat (.sendMessage 2 ⟨7, .analyst, "late again", 4, none, fun _ => none, 13, 610⟩) 0, 600),
      (.chat (.completeThread 2 .inserted fun responses =>
        some ⟨responses, "none", "orders.csv", "", "pass", "", "stretch", responses⟩) 31, 700)]

/-- Two recommendations to stretch move the tier. -/
theorem tiers_follow_agreement_twice :
    let store := commitAll gradedTwice (.quiet [lateDelivery] fun _ => "A late delivery")
    ((∀ order, ∀ tier ≠ .hold, resolveDifficultyForCluster store order .communication = tier ↔
      ∃ older, recommendationsOf store .communication = older ++ [tier, tier]) ∧
      TierStep .communication store ((Request.humanReview 1 8 agreement 40).commit 800 store)) ∧
      resolveDifficultyForCluster store .inserted .communication = .stretch := by
  intro store
  have keyed : Keyed Scenario.id [lateDelivery] := List.nodup_singleton _
  exact ⟨tiers_follow_agreement keyed _ gradedTwice (.humanReview 1 8 agreement 40, 800) (by decide)
    .communication, by decide +kernel⟩

end MeadowOps.Records
