import MeadowOps.Chat.Notifications
import MeadowOps.Lib.Listing
import Mathlib.Data.List.Dedup

/-!
# The notification feed: `list_notification_feed`

The stored notifications are cut to the limit by their query, before the unread replies are added and the
whole is sorted and cut again.
-/

namespace MeadowOps.Chat

open Db Lib MeadowOps.Flow Scenarios

def NotificationKind.value : NotificationKind → String
  | .deadlineApproaching => "deadline_approaching"
  | .deadlineMissed => "deadline_missed"

/-- A row of `chat.notification` with all that a feed reads of it. -/
structure NotificationRow extends Notification where
  id : Uuid
  createdAt : Instant
  readAt : Option Instant
  deriving DecidableEq, Repr

/-- The tables that a feed is read from. -/
structure FeedStore where
  chat : ChatStore
  /-- The column `title` of the scenarios. -/
  titles : Uuid → String
  notifications : List NotificationRow

structure NotificationFeedItem where
  id : String
  kind : String
  threadId : Uuid
  persona : StakeholderPersona
  scenarioTitle : String
  unreadCount : ℕ
  occurredAt : Instant
  isRead : Bool
  deriving DecidableEq, Repr

/-- The order of `list_notifications_for_user`: unread rows first, then the newest first. -/
def NotificationRow.listed (n : NotificationRow) : Bool ×ₗ Instantᵒᵈ :=
  toLex (n.readAt.isSome, OrderDual.toDual n.createdAt)

namespace FeedStore

/-- The thread is not deleted, and its scenario is not cancelled. -/
def isLive (store : FeedStore) (row : ThreadRow) : Bool :=
  row.thread.deletedAt.isNone &&
    (lookup Scenario.id row.thread.scenarioId store.chat.scenarios).any fun s => decide (s.status ≠ .cancelled)

def isVisible (store : FeedStore) (userId : Uuid) (n : NotificationRow) : Bool :=
  decide (n.userId = userId) && (lookup ThreadRow.id n.threadId store.chat.threads).any store.isLive

/-- `list_notifications_for_user`. -/
def listNotificationsForUser (query : OrderedBy NotificationRow.listed) (store : FeedStore) (userId : Uuid)
    (limit : ℕ) : List NotificationRow :=
  (query.rows (store.notifications.filter (store.isVisible userId))).take limit

/-! ## Unread replies -/

/-- The row that the outer join with `last_read` finds. -/
def lastReadAt (store : FeedStore) (userId threadId : Uuid) : Option Instant :=
  (store.chat.readStates.find? fun r => decide (r.threadId = threadId ∧ r.userId = userId)).map (·.lastReadAt)

/-- The messages that `_unread_replies` counts, each with its thread. -/
def unreadRows (store : FeedStore) (userId : Uuid) : List (ThreadRow × ChatMessage) :=
  store.chat.messages.filterMap fun m =>
    (lookup ThreadRow.id m.threadId store.chat.threads).bind fun row =>
      if store.isLive row = true ∧ m.senderUserId ≠ userId ∧
          ∀ read ∈ store.lastReadAt userId row.id, read < m.sentAt
      then some (row, m) else none

/-- A group of `_unread_replies`. -/
def replyItem (store : FeedStore) (userId : Uuid) (row : ThreadRow) : Option NotificationFeedItem :=
  let messages := ((store.unreadRows userId).filter fun r => decide (r.1 = row)).map Prod.snd
  (messages.map (·.sentAt)).max?.map fun latest =>
    { id := "reply:" ++ uuidText row.id
      kind := "new_reply"
      threadId := row.id
      persona := row.persona
      scenarioTitle := store.titles row.thread.scenarioId
      unreadCount := messages.length
      occurredAt := latest
      isRead := false }

/-- `_unread_replies`: GROUP BY gives the threads in any order. -/
def unreadReplies (groups : RowOrder ThreadRow) (store : FeedStore) (userId : Uuid) :
    List NotificationFeedItem :=
  (groups.rows ((store.unreadRows userId).map Prod.fst).dedup).filterMap (store.replyItem userId)

/-! ## The feed -/

/-- `thread_info`, for the threads in `ids`. -/
def threadInfo (store : FeedStore) (ids : List Uuid) (threadId : Uuid) : Option (ThreadRow × String) :=
  if threadId ∈ ids then
    (lookup ThreadRow.id threadId store.chat.threads).bind fun row =>
      (lookup Scenario.id row.thread.scenarioId store.chat.scenarios).map fun s => (row, store.titles s.id)
  else none

def deadlineItem (n : NotificationRow) (info : ThreadRow × String) : NotificationFeedItem where
  id := uuidText n.id
  kind := n.kind.value
  threadId := n.threadId
  persona := info.1.persona
  scenarioTitle := info.2
  unreadCount := 0
  occurredAt := n.createdAt
  isRead := n.readAt.isSome

def deadlineItems (store : FeedStore) (notifications : List NotificationRow) : List NotificationFeedItem :=
  notifications.filterMap fun n =>
    (store.threadInfo (notifications.map (·.threadId)) n.threadId).map (deadlineItem n)

end FeedStore

/-- The orders in which the queries of a feed get their rows. -/
structure FeedCall where
  notifications : OrderedBy NotificationRow.listed
  groups : RowOrder ThreadRow

/-- `list_notification_feed`. -/
def listNotificationFeed (call : FeedCall) (store : FeedStore) (userId : Uuid) (limit : ℕ) :
    List NotificationFeedItem :=
  let notifications := store.listNotificationsForUser call.notifications userId limit
  let items := store.unreadReplies call.groups userId ++ store.deadlineItems notifications
  let items := items.insertionSort fun a b => b.occurredAt ≤ a.occurredAt
  let items := items.insertionSort fun a b => a.isRead ≤ b.isRead
  items.take limit

/-! ## What a feed is for -/

/-- Everything there is to tell a user, in the order of the tables. -/
def FeedStore.everything (store : FeedStore) (userId : Uuid) : List NotificationFeedItem :=
  store.unreadReplies .inserted userId ++
    store.deadlineItems (store.notifications.filter (store.isVisible userId))

/-- Unread items go first, and newer ones within. -/
def NotificationFeedItem.Before (a b : NotificationFeedItem) : Prop :=
  a.isRead = false ∧ b.isRead = true ∨ a.isRead = b.isRead ∧ b.occurredAt < a.occurredAt

structure FeedOf (items : List NotificationFeedItem) (limit : ℕ) (feed : List NotificationFeedItem) :
    Prop where
  first : ∃ all : List NotificationFeedItem, all.Perm items ∧ all.Pairwise NotificationFeedItem.Before ∧
    feed = all.take limit
  unread : ∀ item ∈ items, item.isRead = false → item ∉ feed →
    feed.length = limit ∧ ∀ other ∈ feed, other.isRead = false ∧ item.occurredAt < other.occurredAt
  once : ((feed.filter fun item => decide (item.kind = "new_reply")).map (·.threadId)).Nodup

/-- The notifications of the user and the messages of others differ in their times. -/
def FeedStore.DistinctTimes (store : FeedStore) (userId : Uuid) : Prop :=
  ((store.notifications.filter fun n => decide (n.userId = userId)).map (·.createdAt) ++
    (store.chat.messages.filter fun m => decide (m.senderUserId ≠ userId)).map (·.sentAt)).Nodup

/-! ## The items -/

/-- Where an item belongs: what `Before` compares. -/
def NotificationFeedItem.place (item : NotificationFeedItem) : Bool ×ₗ Instantᵒᵈ :=
  toLex (item.isRead, OrderDual.toDual item.occurredAt)

theorem before_iff_place {a b : NotificationFeedItem} : a.Before b ↔ a.place < b.place := by
  rw [NotificationFeedItem.place, NotificationFeedItem.place, Prod.Lex.toLex_lt_toLex]
  exact or_congr Bool.lt_iff.symm Iff.rfl

namespace FeedStore

variable {store : FeedStore} {userId : Uuid}

/-- What is known of the thread of a notification does not depend on the others. -/
theorem deadlineItems_eq (store : FeedStore) (l : List NotificationRow) : store.deadlineItems l =
    l.filterMap fun n => (store.threadInfo [n.threadId] n.threadId).map (deadlineItem n) := by
  refine List.filterMap_congr fun n mem => ?_
  have listed : n.threadId ∈ l.map (·.threadId) := List.mem_map_of_mem mem
  rw [threadInfo, threadInfo, if_pos listed, if_pos (List.mem_singleton_self _)]

theorem deadlineItems_perm (store : FeedStore) {l l' : List NotificationRow} (perm : l.Perm l') :
    (store.deadlineItems l).Perm (store.deadlineItems l') := by
  rw [deadlineItems_eq, deadlineItems_eq]
  exact perm.filterMap _

theorem mem_deadlineItems {l : List NotificationRow} {item : NotificationFeedItem}
    (mem : item ∈ store.deadlineItems l) : ∃ n ∈ l, ∃ info, item = deadlineItem n info := by
  obtain ⟨n, mem', found⟩ := List.mem_filterMap.1 mem
  obtain ⟨info, -, same⟩ := Option.map_eq_some_iff.1 found
  exact ⟨n, mem', info, same.symm⟩

/-- The thread of a visible notification and its scenario are found. -/
theorem threadInfo_of_visible {n : NotificationRow} (visible : store.isVisible userId n = true) :
    ∃ info, store.threadInfo [n.threadId] n.threadId = some info := by
  rw [isVisible, Bool.and_eq_true, Option.any_eq_true] at visible
  obtain ⟨-, row, found, live⟩ := visible
  rw [isLive, Bool.and_eq_true, Option.any_eq_true] at live
  obtain ⟨-, s, there, -⟩ := live
  refine ⟨(row, store.titles s.id), ?_⟩
  rw [threadInfo, if_pos (List.mem_singleton_self _), found, Option.bind_some, there, Option.map_some]

/-- Every visible notification is an item, so cutting the rows cuts the items. -/
theorem deadlineItems_take {l : List NotificationRow} (visible : ∀ n ∈ l, store.isVisible userId n = true)
    (limit : ℕ) : store.deadlineItems (l.take limit) = (store.deadlineItems l).take limit := by
  rw [deadlineItems_eq, deadlineItems_eq]
  induction l generalizing limit with
  | nil => simp
  | cons n l ih =>
    cases limit with
    | zero => simp
    | succ limit =>
      obtain ⟨info, found⟩ := threadInfo_of_visible (visible n (List.mem_cons_self ..))
      have rest := ih (fun m mem => visible m (List.mem_cons_of_mem n mem)) limit
      simp only [List.take_succ_cons, List.filterMap_cons, found, Option.map_some, rest]

theorem deadlineItems_sorted {l : List NotificationRow} (sorted : l.Pairwise fun m n => m.listed ≤ n.listed) :
    (store.deadlineItems l).Pairwise fun a b => a.place ≤ b.place := by
  refine List.pairwise_filterMap.2 (sorted.imp fun {m n} le a foundA b foundB => ?_)
  obtain ⟨_, -, rfl⟩ := Option.map_eq_some_iff.1 foundA
  obtain ⟨_, -, rfl⟩ := Option.map_eq_some_iff.1 foundB
  exact le

theorem deadlineItems_times (store : FeedStore) (l : List NotificationRow) :
    ((store.deadlineItems l).map (·.occurredAt)).Sublist (l.map (·.createdAt)) := by
  rw [deadlineItems_eq]
  induction l with
  | nil => exact .refl _
  | cons n l ih =>
    rw [List.filterMap_cons]
    cases store.threadInfo [n.threadId] n.threadId with
    | none => exact ih.cons _
    | some info => exact ih.cons_cons _

/-! ## Unread replies -/

theorem mem_unreadRows {row : ThreadRow} {m : ChatMessage} : (row, m) ∈ store.unreadRows userId ↔
    m ∈ store.chat.messages ∧ lookup ThreadRow.id m.threadId store.chat.threads = some row ∧
      store.isLive row = true ∧ m.senderUserId ≠ userId ∧
        ∀ read ∈ store.lastReadAt userId row.id, read < m.sentAt := by
  rw [unreadRows, List.mem_filterMap]
  constructor
  · rintro ⟨m', mem, found⟩
    obtain ⟨row', there, found⟩ := Option.bind_eq_some_iff.1 found
    split at found
    · rename_i unread
      obtain ⟨rfl, rfl⟩ := Prod.mk.inj (Option.some.inj found)
      exact ⟨mem, there, unread⟩
    · cases found
  · rintro ⟨mem, there, unread⟩
    exact ⟨m, mem, by rw [there, Option.bind_some, if_pos unread]⟩

/-- What the item of a thread says: it is dated by one of the messages. -/
theorem replyItem_eq_some {row : ThreadRow} {item : NotificationFeedItem}
    (h : store.replyItem userId row = some item) :
    item.kind = "new_reply" ∧ item.threadId = row.id ∧ item.isRead = false ∧
      ∃ m, (row, m) ∈ store.unreadRows userId ∧ item.occurredAt = m.sentAt := by
  obtain ⟨latest, found, rfl⟩ := Option.map_eq_some_iff.1 h
  refine ⟨rfl, rfl, rfl, ?_⟩
  obtain ⟨m, mem, rfl⟩ := List.mem_map.1 (List.max?_mem found)
  obtain ⟨⟨row', m'⟩, group, rfl⟩ := List.mem_map.1 mem
  obtain ⟨counted, here⟩ := List.mem_filter.1 group
  obtain rfl : row' = row := of_decide_eq_true here
  exact ⟨m', counted, rfl⟩

/-- A group is one thread. -/
theorem id_of_mem_groups {row : ThreadRow} (mem : row ∈ ((store.unreadRows userId).map Prod.fst).dedup) :
    lookup ThreadRow.id row.id store.chat.threads = some row := by
  obtain ⟨⟨row', m⟩, counted, rfl⟩ := List.mem_map.1 (List.mem_dedup.1 mem)
  have found := (mem_unreadRows.1 counted).2.1
  rw [(lookup_mem found).2]
  exact found

theorem unreadReplies_perm (groups : RowOrder ThreadRow) (store : FeedStore) (userId : Uuid) :
    (store.unreadReplies groups userId).Perm (store.unreadReplies .inserted userId) :=
  (groups.perm _).filterMap _

/-- A thread has one item. -/
theorem unreadReplies_threads_nodup (store : FeedStore) (userId : Uuid) :
    ((store.unreadReplies .inserted userId).map (·.threadId)).Nodup := by
  refine List.pairwise_map.2 (List.pairwise_filterMap.2 ?_)
  refine (List.nodup_dedup _).imp_of_mem fun {row row'} mem mem' apart item found item' found' same => ?_
  rw [(replyItem_eq_some found).2.1, (replyItem_eq_some found').2.1] at same
  have here := id_of_mem_groups mem
  rw [same, id_of_mem_groups mem'] at here
  exact apart (Option.some.inj here).symm

/-- The items of two threads are dated by different messages. -/
theorem unreadReplies_times_nodup (distinct : store.DistinctTimes userId) :
    ((store.unreadReplies .inserted userId).map (·.occurredAt)).Nodup := by
  have messages := distinct.of_append_right
  refine List.pairwise_map.2 (List.pairwise_filterMap.2 ?_)
  refine (List.nodup_dedup _).imp_of_mem fun {row row'} _ _ apart item found item' found' same => ?_
  obtain ⟨-, -, -, m, mem, time⟩ := replyItem_eq_some found
  obtain ⟨-, -, -, m', mem', time'⟩ := replyItem_eq_some found'
  obtain ⟨stored, there, -, other, -⟩ := mem_unreadRows.1 mem
  obtain ⟨stored', there', -, other', -⟩ := mem_unreadRows.1 mem'
  have one : m = m' := by
    refine List.inj_on_of_nodup_map messages ?_ ?_ (by rw [← time, ← time', same])
    · exact List.mem_filter.2 ⟨stored, decide_eq_true other⟩
    · exact List.mem_filter.2 ⟨stored', decide_eq_true other'⟩
  rw [one, there'] at there
  exact apart (Option.some.inj there).symm

/-- No two items are of one time. -/
theorem items_times_nodup (distinct : store.DistinctTimes userId) {l : List NotificationRow}
    (sub : l.Subperm (store.notifications.filter (store.isVisible userId))) :
    ((store.unreadReplies .inserted userId ++ store.deadlineItems l).map (·.occurredAt)).Nodup := by
  have owned : (store.notifications.filter (store.isVisible userId)).Sublist
      (store.notifications.filter fun n => decide (n.userId = userId)) := by
    refine List.monotone_filter_right _ fun n visible => ?_
    exact (Bool.and_eq_true_iff.1 visible).1
  obtain ⟨notifications, -, apart⟩ := List.nodup_append.1 distinct
  rw [List.map_append, List.nodup_append]
  refine ⟨unreadReplies_times_nodup distinct, ?_, ?_⟩
  · obtain ⟨l', perm, sub'⟩ := sub
    have stored : (l'.map (·.createdAt)).Nodup := ((sub'.trans owned).map _).nodup notifications
    exact (deadlineItems_times store l).nodup ((perm.map _).nodup_iff.1 stored)
  · rintro time reply _ deadline rfl
    obtain ⟨item, mem, rfl⟩ := List.mem_map.1 reply
    obtain ⟨row, -, found⟩ := List.mem_filterMap.1 mem
    obtain ⟨-, -, -, m, counted, sent⟩ := replyItem_eq_some found
    obtain ⟨storedM, -, -, other, -⟩ := mem_unreadRows.1 counted
    have created := (deadlineItems_times store l).subset deadline
    obtain ⟨n, memN, made⟩ := List.mem_map.1 created
    have storedN := owned.subset (sub.subset memN)
    refine apart _ (List.mem_map_of_mem storedN) _ ?_ (made.trans sent)
    exact List.mem_map.2 ⟨m, List.mem_filter.2 ⟨storedM, decide_eq_true other⟩, rfl⟩

theorem items_threads_nodup (store : FeedStore) (userId : Uuid) (l : List NotificationRow) :
    (((store.unreadReplies .inserted userId ++ store.deadlineItems l).filter
      fun item => decide (item.kind = "new_reply")).map (·.threadId)).Nodup := by
  have replies : (store.unreadReplies .inserted userId).filter
      (fun item => decide (item.kind = "new_reply")) = store.unreadReplies .inserted userId := by
    refine List.filter_eq_self.2 fun item mem => ?_
    obtain ⟨row, -, found⟩ := List.mem_filterMap.1 mem
    exact decide_eq_true (replyItem_eq_some found).1
  have deadlines : (store.deadlineItems l).filter (fun item => decide (item.kind = "new_reply")) = [] := by
    refine List.filter_eq_nil_iff.2 fun item mem => ?_
    obtain ⟨n, -, info, rfl⟩ := mem_deadlineItems mem
    show ¬ decide (n.kind.value = "new_reply") = true
    cases n.kind <;> decide
  rw [List.filter_append, replies, deadlines, List.append_nil]
  exact unreadReplies_threads_nodup store userId

end FeedStore

/-! ## The feed -/

/-- The two sorts of the feed. -/
theorem sorts_pairwise {items : List NotificationFeedItem} (distinct : (items.map (·.occurredAt)).Nodup) :
    ((items.insertionSort fun a b => b.occurredAt ≤ a.occurredAt).insertionSort
      fun a b => a.isRead ≤ b.isRead).Pairwise fun a b => a.place < b.place := by
  have perm := List.perm_insertionSort (fun a b : NotificationFeedItem => b.occurredAt ≤ a.occurredAt) items
  have newest : (items.insertionSort fun a b => b.occurredAt ≤ a.occurredAt).Pairwise
      fun a b => OrderDual.toDual a.occurredAt < OrderDual.toDual b.occurredAt := by
    refine strict_of_sorted (pairwise_sorted (fun item => OrderDual.toDual item.occurredAt) items) ?_
    exact (perm.map _).nodup_iff.2 distinct
  exact pairwise_insertionSort_lex NotificationFeedItem.isRead newest

/-- The first items of a sorted list of items. -/
theorem feedOf_take {items all : List NotificationFeedItem} (perm : all.Perm items)
    (sorted : all.Pairwise fun a b => a.place < b.place)
    (once : ((items.filter fun item => decide (item.kind = "new_reply")).map (·.threadId)).Nodup)
    (limit : ℕ) : FeedOf items limit (all.take limit) where
  first := ⟨all, perm, sorted.imp before_iff_place.2, rfl⟩
  unread item mem unread cut := by
    obtain ⟨full, before⟩ := after_taken sorted (perm.mem_iff.2 mem) cut
    refine ⟨full, fun other shown => ?_⟩
    rcases before_iff_place.2 (before other shown) with ⟨-, read⟩ | ⟨same, newer⟩
    · rw [unread] at read
      cases read
    · exact ⟨same.trans unread, newer⟩
  once := by
    have all' := ((perm.filter _).map (·.threadId)).nodup_iff.2 once
    exact (((List.take_sublist limit all).filter _).map _).nodup all'

/-- **The feed is the first part of everything there is to tell.** -/
theorem notification_feed_truncates (call : FeedCall) (store : FeedStore) (userId : Uuid)
    (distinct : store.DistinctTimes userId) (limit : ℕ) :
    FeedOf (store.everything userId) limit (listNotificationFeed call store userId limit) := by
  -- The whole, sorted as the feed sorts what its cut has left.
  let sort : List NotificationFeedItem → List NotificationFeedItem := fun items =>
    (items.insertionSort fun a b => b.occurredAt ≤ a.occurredAt).insertionSort fun a b => a.isRead ≤ b.isRead
  have sortPerm : ∀ items, (sort items).Perm items := fun items =>
    (List.perm_insertionSort _ _).trans (List.perm_insertionSort _ _)
  let replies := store.unreadReplies .inserted userId
  let visible := store.notifications.filter (store.isVisible userId)
  let listed := call.notifications.rows visible
  let cut := store.unreadReplies call.groups userId ++ store.deadlineItems (listed.take limit)
  have perm : listed.Perm visible := call.notifications.perm visible
  have each : ∀ n ∈ listed, store.isVisible userId n = true := by
    intro n mem
    exact (List.mem_filter.1 (perm.mem_iff.1 mem)).2
  have cutPerm : cut.Perm (replies ++ store.deadlineItems (listed.take limit)) :=
    (store.unreadReplies_perm call.groups userId).append_right _
  have allTimes : ((store.everything userId).map (·.occurredAt)).Nodup :=
    store.items_times_nodup distinct (List.Subperm.refl visible)
  have cutTimes : (cut.map (·.occurredAt)).Nodup := by
    rw [(cutPerm.map _).nodup_iff]
    exact store.items_times_nodup distinct ((List.take_sublist limit listed).subperm.trans perm.subperm)
  have allSorted : (sort (store.everything userId)).Perm (store.deadlineItems listed ++ replies) :=
    (sortPerm _).trans (((store.deadlineItems_perm perm).symm.append_left replies).trans List.perm_append_comm)
  have cutSorted : (sort cut).Perm ((store.deadlineItems listed).take limit ++ replies) := by
    rw [← store.deadlineItems_take each]
    exact (sortPerm _).trans (cutPerm.trans List.perm_append_comm)
  have same : (sort cut).take limit = (sort (store.everything userId)).take limit :=
    take_of_cut (store.deadlineItems_sorted (call.notifications.sorted visible)) allSorted
      (sorts_pairwise allTimes) cutSorted (sorts_pairwise cutTimes)
  show FeedOf (store.everything userId) limit ((sort cut).take limit)
  rw [same]
  exact feedOf_take (sortPerm _) (sorts_pairwise allTimes) (store.items_threads_nodup userId visible) limit

/-- User 9 has seen the newer of two notifications and has an unread reply. -/
def twoNotificationsAndAReply : FeedStore where
  chat :=
    { scenarios := [⟨1, .dataQualityIssue, .communication, .standard, .exceptionFlag, none, Dict.empty, .active,
        none, none⟩]
      threads := [newThread 2 1 .cfo 0]
      messages := [⟨5, 2, 8, .admin, "Any news?", none, 30⟩]
      attachments := []
      drafts := []
      readStates := [⟨2, 9, 15⟩]
      evaluations := [] }
  titles := fun _ => "Late truck"
  notifications := [⟨⟨9, 2, .deadlineApproaching, 0⟩, 6, 10, none⟩, ⟨⟨9, 2, .deadlineMissed, 1⟩, 7, 20, some 25⟩]

/-- Two items are shown: the read notification is left out although it is newer than the unread one. -/
theorem notification_feed_truncates_two :
    (listNotificationFeed ⟨.stable _, .inserted⟩ twoNotificationsAndAReply 9 2).map (·.kind) =
        ["new_reply", "deadline_approaching"] ∧
      FeedOf (twoNotificationsAndAReply.everything 9) 2
        (listNotificationFeed ⟨.stable _, .inserted⟩ twoNotificationsAndAReply 9 2) := by
  refine ⟨by decide +kernel, notification_feed_truncates _ twoNotificationsAndAReply 9 ?_ 2⟩
  show List.Nodup _
  decide +kernel

end MeadowOps.Chat
