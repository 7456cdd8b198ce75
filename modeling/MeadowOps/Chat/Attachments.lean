import MeadowOps.Chat.Lifecycle

/-!
# Claiming attachments: `app/services/chat_attachments.py` and `send_message`

A message names its attachment and the attachment names its message. The two are written by one
transaction, which holds the rows of the thread and of the attachment.
-/

namespace MeadowOps.Chat

open Db Lib MeadowOps.Flow LockTx Scenarios

/-! ## Serving an attachment -/

inductive AttachmentError where
  /-- `uuid.UUID` refuses the reference. -/
  | malformed (ref : String)
  | recordMissing (message : Uuid) (ref : String)
  | recordOfOther (message : Uuid) (ref : String) (linked : Option Uuid)
  deriving DecidableEq, Repr

/-- `get_attachment_for_message`. -/
def getAttachmentForMessage (store : ChatStore) (messageId : Uuid) :
    Except AttachmentError (Option AttachmentRow) :=
  match lookup ChatMessage.id messageId store.messages with
  | none => .ok none
  | some message =>
    match message.attachmentRef with
    | none => .ok none
    | some ref =>
      match parseUuid ref with
      | none => .error (.malformed ref)
      | some id =>
        match lookup AttachmentRow.id id store.attachments with
        | none => .error (.recordMissing messageId ref)
        | some row =>
          if row.attachment.messageId ≠ some messageId then
            .error (.recordOfOther messageId ref row.attachment.messageId)
          else .ok (some row)

/-! ## The protocol -/

inductive ChatLock where
  | thread (id : Uuid)
  | attachment (id : Uuid)
  deriving DecidableEq, Repr

/-- Where a transaction stands. -/
inductive ClaimLocal where
  | sending (threadId : Uuid) (call : SendCall) (start : Instant)
  | threadLocked (threadId : Uuid) (call : SendCall) (start : Instant) (row : Option ThreadRow)
  | attachmentLocked (threadId : Uuid) (call : SendCall) (start : Instant) (row : Option ThreadRow)
      (attachment : Option AttachmentRow)
  | uploading (call : UploadCall)
  /-- An upload that is flushed. -/
  | inserting (row : AttachmentRow)

/-- What `upload_attachment` inserts, on the thread that it has read without a lock. -/
def uploadedRow (call : UploadCall) (row : ThreadRow) : Option AttachmentRow :=
  if row.thread.status = .completed ∨ call.sizeBytes > call.maxSizeBytes then none
  else call.contentType.map fun contentType =>
    ⟨call.id, ⟨call.threadId, call.uploadedByUserId, none⟩, call.originalFilename, contentType,
      call.sizeBytes⟩

def execClaim (k : ClaimLocal) (store : ChatStore) : Option (ClaimLocal × List ChatLock) :=
  match k with
  | .sending threadId call start =>
    some (.threadLocked threadId call start (lookup ThreadRow.id threadId store.threads),
      [.thread threadId])
  | .threadLocked threadId call start row =>
    call.attachmentId.map fun id =>
      let attachment := lookup AttachmentRow.id id store.attachments
      -- a row that is not there is not locked
      (.attachmentLocked threadId call start row attachment,
        attachment.toList.map fun a => .attachment a.id)
  | .uploading call =>
    match loadThread call.threadId store with
    | .error _ _ => none
    | .ok row _ => (uploadedRow call row).map fun attachment => (.inserting attachment, [])
  | _ => none

/-- A send that has read its rows. -/
def finishSend (threadId : Uuid) (call : SendCall) (start : Instant) (row : Option ThreadRow)
    (attachment : Option AttachmentRow) (store : ChatStore) : Option ChatStore :=
  match row with
  | none => none
  | some row =>
    match sendMessage { call with attachments := fun _ => attachment.map (·.attachment) } start
        row.thread with
    | .error _ => none
    | .ok (message, thread) =>
      (insert? ChatMessage.id message store.messages).map fun messages =>
        withoutDraft threadId call.senderUserId (updateThread thread
          (claimAttachment call.attachmentId message.id { store with messages := messages }))

def commitClaim (k : ClaimLocal) (store : ChatStore) : Option ChatStore :=
  match k with
  | .threadLocked threadId call start row =>
    if call.attachmentId = none then finishSend threadId call start row none store else none
  | .attachmentLocked threadId call start row attachment =>
    finishSend threadId call start row attachment store
  | .inserting row =>
    (insert? AttachmentRow.id row store.attachments).map fun attachments =>
      { store with attachments := attachments }
  | _ => none

def claimProtocol : Protocol ChatStore ChatLock ClaimLocal Unit where
  exec _ _ := execClaim
  commit := commitClaim

/-- A number of 128 bits. -/
def IsUuid (id : Uuid) : Prop := id < 2 ^ 128

instance (id : Uuid) : Decidable (IsUuid id) := inferInstanceAs (Decidable (id < 2 ^ 128))

/-- Calls whose transaction starts now. -/
def UploadsOrSends (now : Instant) (k : ClaimLocal) : Prop :=
  (∃ call : UploadCall, IsUuid call.id ∧ k = .uploading call) ∨
    ∃ threadId call, k = .sending threadId call now

/-- The uploads and sends on threads without a message. -/
def claims : System (LockTx.State ChatStore ChatLock ClaimLocal) (LockTx.Action ClaimLocal Unit) :=
  system claimProtocol UploadsOrSends fun store => store.messages = [] ∧ store.attachments = []

/-! ## What a send and an upload write -/

/-- The row that a send claims is its sender's, of its thread, and not claimed. -/
theorem sendMessage_claims {call : SendCall} {now : Instant} {row thread : ChatThread}
    {message : ChatMessage} (h : sendMessage call now row = .ok (message, thread)) :
    message.attachmentRef = call.attachmentId.map uuidText ∧
      ∀ id, call.attachmentId = some id → ∃ a, call.attachments id = some a ∧
        a.threadId = message.threadId ∧ a.uploadedByUserId = message.senderUserId ∧
        a.messageId = none := by
  obtain ⟨same, found, h⟩ := ok_of_bind h
  obtain ⟨_, checked, h⟩ := ok_of_bind h
  split at h
  · cases h
  · split at h
    · cases h
    · cases h
      refine ⟨rfl, fun id named => ?_⟩
      rw [checkAttachment, named] at checked
      dsimp only at checked
      cases attachment : call.attachments id with
      | none =>
        rw [attachment] at checked
        cases checked
      | some a =>
        rw [attachment] at checked
        dsimp only at checked
        split at checked
        · cases checked
        · rename_i owned
          cases linked : a.messageId with
          | none =>
            obtain ⟨ofThread, ofSender⟩ := not_or.1 owned
            exact ⟨a, rfl, not_not.1 ofThread, not_not.1 ofSender, linked⟩
          | some other =>
            rw [linked] at checked
            cases checked

/-- What a transaction commits. -/
inductive Claimed (store store' : ChatStore) : ClaimLocal → Prop
  | plain {threadId : Uuid} {call : SendCall} {start : Instant} {row : Option ThreadRow}
      {message : ChatMessage} (fresh : message.id ∉ store.messages.map ChatMessage.id)
      (ref : message.attachmentRef = none) (messages : store'.messages = store.messages ++ [message])
      (attachments : store'.attachments = store.attachments) :
      Claimed store store' (.threadLocked threadId call start row)
  | claim {threadId : Uuid} {call : SendCall} {start : Instant} {row : Option ThreadRow}
      {attachment : AttachmentRow} {message : ChatMessage}
      (fresh : message.id ∉ store.messages.map ChatMessage.id)
      (ref : message.attachmentRef = some (uuidText attachment.id))
      (ofThread : attachment.attachment.threadId = message.threadId)
      (ofSender : attachment.attachment.uploadedByUserId = message.senderUserId)
      (free : attachment.attachment.messageId = none)
      (messages : store'.messages = store.messages ++ [message])
      (attachments : store'.attachments = modify AttachmentRow.id attachment.id
        (fun row => { row with attachment := { row.attachment with messageId := some message.id } })
        store.attachments) :
      Claimed store store' (.attachmentLocked threadId call start row (some attachment))
  | upload {row : AttachmentRow} (fresh : row.id ∉ store.attachments.map AttachmentRow.id)
      (messages : store'.messages = store.messages)
      (attachments : store'.attachments = store.attachments ++ [row]) :
      Claimed store store' (.inserting row)

theorem finishSend_some {threadId : Uuid} {call : SendCall} {start : Instant} {row : Option ThreadRow}
    {attachment : Option AttachmentRow} {store store' : ChatStore}
    (h : finishSend threadId call start row attachment store = some store') :
    ∃ message, message.id ∉ store.messages.map ChatMessage.id ∧
      message.attachmentRef = call.attachmentId.map uuidText ∧
      (∀ id, call.attachmentId = some id → ∃ a, attachment = some a ∧
        a.attachment.threadId = message.threadId ∧
        a.attachment.uploadedByUserId = message.senderUserId ∧ a.attachment.messageId = none) ∧
      store'.messages = store.messages ++ [message] ∧
      store'.attachments = (claimAttachment call.attachmentId message.id store).attachments := by
  unfold finishSend at h
  cases row with
  | none => cases h
  | some row =>
    dsimp only at h
    split at h
    · cases h
    · rename_i message thread sent
      obtain ⟨messages, inserted, rfl⟩ := Option.map_eq_some_iff.1 h
      obtain ⟨rfl, fresh⟩ := insert?_eq_some inserted
      obtain ⟨ref, claims⟩ := sendMessage_claims sent
      refine ⟨message, fresh, ref, fun id named => ?_, ?_, ?_⟩
      · obtain ⟨a, read, rest⟩ := claims id named
        obtain ⟨found, found', rfl⟩ := Option.map_eq_some_iff.1 read
        exact ⟨found, found', rest⟩
      · cases call.attachmentId <;> rfl
      · cases call.attachmentId <;> rfl

/-- A transaction that has read its attachment holds its row. -/
def HoldsRow (store : ChatStore) (held : ChatLock → Prop) : ClaimLocal → Prop
  | .attachmentLocked _ call _ _ attachment => ∃ id, call.attachmentId = some id ∧
      ∀ a, attachment = some a → a.id = id ∧ held (.attachment a.id) ∧ a ∈ store.attachments
  | .inserting row => IsUuid row.id ∧ row.attachment.messageId = none
  | .uploading call => IsUuid call.id
  | _ => True

theorem claimed_of_commit {store store' : ChatStore} {held : ChatLock → Prop} {k : ClaimLocal}
    (holds : HoldsRow store held k) (h : commitClaim k store = some store') : Claimed store store' k := by
  cases k with
  | threadLocked threadId call start row =>
    simp only [commitClaim] at h
    split at h
    · rename_i none
      obtain ⟨message, fresh, ref, -, messages, attachments⟩ := finishSend_some h
      rw [none] at ref attachments
      exact .plain fresh ref messages attachments
    · cases h
  | attachmentLocked threadId call start row attachment =>
    obtain ⟨id, named, read⟩ := holds
    obtain ⟨message, fresh, ref, claims, messages, attachments⟩ := finishSend_some h
    obtain ⟨a, rfl, ofThread, ofSender, free⟩ := claims id named
    obtain ⟨rfl, -, -⟩ := read a rfl
    rw [named] at ref attachments
    exact .claim fresh ref ofThread ofSender free messages attachments
  | inserting row =>
    obtain ⟨rows, inserted, rfl⟩ := Option.map_eq_some_iff.1 h
    obtain ⟨rfl, fresh⟩ := insert?_eq_some inserted
    exact .upload fresh rfl rfl
  | sending | uploading => cases h

/-! ## The invariant -/

/-- The attachment is the one that the message names, on its thread, and uploaded by its sender. -/
structure Backs (row : AttachmentRow) (message : ChatMessage) : Prop where
  ref : message.attachmentRef = some (uuidText row.id)
  linked : row.attachment.messageId = some message.id
  ofThread : row.attachment.threadId = message.threadId
  ofSender : row.attachment.uploadedByUserId = message.senderUserId

structure ClaimsInv (store : ChatStore) : Prop where
  messages : Keyed ChatMessage.id store.messages
  attachments : Keyed AttachmentRow.id store.attachments
  ids : ∀ a ∈ store.attachments, IsUuid a.id
  named : ∀ m ∈ store.messages, m.attachmentRef.isSome = true → ∃ a ∈ store.attachments, Backs a m
  linked : ∀ a ∈ store.attachments, a.attachment.messageId.isSome = true →
    ∃ m ∈ store.messages, Backs a m

theorem ClaimsInv.claimed {store store' : ChatStore} {held : ChatLock → Prop} {k : ClaimLocal}
    (h : ClaimsInv store) (holds : HoldsRow store held k) (claimed : Claimed store store' k) :
    ClaimsInv store' := by
  cases claimed with
  | @plain threadId call start row message fresh ref messages attachments =>
    constructor
    · rw [messages]
      exact Keyed.append h.messages fresh
    · exact attachments ▸ h.attachments
    · exact attachments ▸ h.ids
    · intro m mem named
      rw [messages] at mem
      rw [attachments]
      rcases List.mem_append.1 mem with old | new
      · exact h.named m old named
      · rw [List.mem_singleton.1 new, ref] at named
        cases named
    · intro a mem linked
      rw [attachments] at mem
      obtain ⟨m, memM, backs⟩ := h.linked a mem linked
      exact ⟨m, messages ▸ List.mem_append_left _ memM, backs⟩
  | @claim threadId call start row attachment message fresh ref ofThread ofSender free messages
      attachments =>
    obtain ⟨id, -, read⟩ := holds
    obtain ⟨-, -, memA⟩ := read attachment rfl
    -- the row after the claim
    have backs : Backs { attachment with
        attachment := { attachment.attachment with messageId := some message.id } } message :=
      ⟨ref, rfl, ofThread, ofSender⟩
    have mine : { attachment with
        attachment := { attachment.attachment with messageId := some message.id } } ∈
        store'.attachments := by
      rw [attachments]
      exact mem_modify.2 ⟨attachment, memA, (if_pos rfl).symm⟩
    constructor
    · rw [messages]
      exact Keyed.append h.messages fresh
    · rw [attachments]
      exact Keyed.modify h.attachments fun _ same => same
    · rw [attachments]
      exact forall_modify h.ids fun a mem _ => h.ids a mem
    · intro m mem named
      rw [messages] at mem
      rcases List.mem_append.1 mem with old | new
      · obtain ⟨a, memOld, backsOld⟩ := h.named m old named
        refine ⟨a, ?_, backsOld⟩
        rw [attachments]
        refine mem_modify_of_ne memOld fun same => ?_
        obtain rfl := List.inj_on_of_nodup_map h.attachments memOld memA same
        rw [backsOld.linked] at free
        cases free
      · rw [List.mem_singleton.1 new]
        exact ⟨_, mine, backs⟩
    · intro a' mem linked
      rw [attachments] at mem
      rw [messages]
      obtain ⟨a, memOld, rfl⟩ := mem_modify.1 mem
      by_cases same : a.id = attachment.id
      · obtain rfl := List.inj_on_of_nodup_map h.attachments memOld memA same
        rw [if_pos rfl]
        exact ⟨message, List.mem_append_right _ (List.mem_singleton_self _), backs⟩
      · rw [if_neg same] at linked ⊢
        obtain ⟨m, memM, backsOld⟩ := h.linked a memOld linked
        exact ⟨m, List.mem_append_left _ memM, backsOld⟩
  | @upload row fresh messages attachments =>
    obtain ⟨isUuid, free⟩ := holds
    constructor
    · exact messages ▸ h.messages
    · rw [attachments]
      exact Keyed.append h.attachments fresh
    · intro a mem
      rw [attachments] at mem
      rcases List.mem_append.1 mem with old | new
      · exact h.ids a old
      · rw [List.mem_singleton.1 new]
        exact isUuid
    · intro m mem named
      rw [messages] at mem
      obtain ⟨a, memA, backs⟩ := h.named m mem named
      exact ⟨a, attachments ▸ List.mem_append_left _ memA, backs⟩
    · intro a mem linked
      rw [attachments] at mem
      rw [messages]
      rcases List.mem_append.1 mem with old | new
      · exact h.linked a old linked
      · rw [List.mem_singleton.1 new, free] at linked
        cases linked

theorem holdsRow_exec {store : ChatStore} {held : ChatLock → Prop} {k k' : ClaimLocal}
    {locks : List ChatLock} (holds : HoldsRow store held k)
    (ran : execClaim k store = some (k', locks)) : HoldsRow store (fun r => held r ∨ r ∈ locks) k' := by
  cases k with
  | sending threadId call start =>
    cases ran
    trivial
  | threadLocked threadId call start row =>
    obtain ⟨id, named, same⟩ := Option.map_eq_some_iff.1 ran
    cases same
    refine ⟨id, named, fun a read => ?_⟩
    obtain ⟨mem, same⟩ := lookup_mem read
    refine ⟨same, .inr ?_, mem⟩
    rw [read]
    exact List.mem_singleton_self _
  | uploading call =>
    simp only [execClaim] at ran
    split at ran
    · cases ran
    · obtain ⟨attachment, uploaded, same⟩ := Option.map_eq_some_iff.1 ran
      cases same
      unfold uploadedRow at uploaded
      split at uploaded
      · cases uploaded
      · obtain ⟨contentType, -, rfl⟩ := Option.map_eq_some_iff.1 uploaded
        exact ⟨holds, rfl⟩
  | attachmentLocked | inserting => cases ran

/-- A commit of another transaction leaves the row of one that holds it. -/
theorem holdsRow_others {store store' : ChatStore} {held held' : ChatLock → Prop} {k k' : ClaimLocal}
    (mine : HoldsRow store held k) (claimed : Claimed store store' k)
    (apart : ∀ r, held r → ¬ held' r) (holds : HoldsRow store held' k') : HoldsRow store' held' k' := by
  cases k' with
  | attachmentLocked threadId call start row attachment =>
    obtain ⟨id, named, read⟩ := holds
    refine ⟨id, named, fun a found => ?_⟩
    obtain ⟨same, lock, mem⟩ := read a found
    refine ⟨same, lock, ?_⟩
    cases claimed with
    | plain _ _ _ attachments => exact attachments ▸ mem
    | @claim _ _ _ _ other _ _ _ _ _ _ _ attachments =>
      obtain ⟨_, _, readOther⟩ := mine
      rw [attachments]
      refine mem_modify_of_ne mem fun both => ?_
      rw [both] at lock
      exact apart _ (readOther other rfl).2.1 lock
    | upload _ _ attachments => exact attachments ▸ List.mem_append_left _ mem
  | sending | threadLocked | uploading | inserting => exact holds

theorem invariant_claims {s : LockTx.State ChatStore ChatLock ClaimLocal} (h : claims.Reachable s) :
    ClaimsInv s.store := by
  have reached : claims.Reach (CommitsMeet fun _ _ => True) s := h.mono fun _ _ _ _ _ _ _ => trivial
  refine (LockTx.invariant (I := fun store _ => ClaimsInv store) (K := HoldsRow)
    ?_ ?_ ?_ ?_ ?_ reached).1
  · rintro store ⟨messages, attachments⟩
    refine ⟨messages ▸ List.nodup_nil, attachments ▸ List.nodup_nil, ?_, ?_, ?_⟩
    · exact fun a mem => absurd (attachments ▸ mem) List.not_mem_nil
    · exact fun m mem => absurd (messages ▸ mem) List.not_mem_nil
    · exact fun a mem => absurd (attachments ▸ mem) List.not_mem_nil
  · rintro store commits now k - (⟨call, isUuid, rfl⟩ | ⟨threadId, call, rfl⟩)
    · exact isUuid
    · trivial
  · intro store commits held now i k k' locks _ holds ran
    exact holdsRow_exec holds ran
  · intro store commits held t k store' inv holds _ wrote
    exact inv.claimed holds (claimed_of_commit holds wrote)
  · intro store commits held k store' held' k' _ mine _ wrote apart holds
    exact holdsRow_others mine (claimed_of_commit mine wrote) apart holds

/-! ## One to one -/

theorem uuidText_injective {a b : Uuid} (ha : IsUuid a) (hb : IsUuid b) (h : uuidText a = uuidText b) :
    a = b := by
  have same := congrArg parseUuid h
  rw [parseUuid_uuidText ha, parseUuid_uuidText hb] at same
  exact Option.some.inj same

/-- What holds of the attachments of a committed state. -/
structure OneToOne (store : ChatStore) : Prop where
  iff : ∀ m ∈ store.messages, ∀ a ∈ store.attachments,
    m.attachmentRef = some (uuidText a.id) ↔ a.attachment.messageId = some m.id
  /-- Neither side names a row that is not there. -/
  named : ∀ m ∈ store.messages, ∀ ref, m.attachmentRef = some ref →
    ∃ a ∈ store.attachments, ref = uuidText a.id
  linked : ∀ a ∈ store.attachments, ∀ id, a.attachment.messageId = some id →
    ∃ m ∈ store.messages, id = m.id
  once : ∀ a ∈ store.attachments,
    (store.messages.filter fun m => m.attachmentRef = some (uuidText a.id)).length ≤ 1
  own : ∀ m ∈ store.messages, ∀ a ∈ store.attachments, a.attachment.messageId = some m.id →
    a.attachment.threadId = m.threadId ∧ a.attachment.uploadedByUserId = m.senderUserId
  served : ∀ messageId, ∃ found, getAttachmentForMessage store messageId = .ok found

theorem ClaimsInv.iff {store : ChatStore} (h : ClaimsInv store) {m : ChatMessage} {a : AttachmentRow}
    (memM : m ∈ store.messages) (memA : a ∈ store.attachments) :
    (m.attachmentRef = some (uuidText a.id) → Backs a m) ∧
      (a.attachment.messageId = some m.id → Backs a m) := by
  constructor
  · intro named
    obtain ⟨a', memA', backs⟩ := h.named m memM (by rw [named]; rfl)
    have same : a'.id = a.id :=
      uuidText_injective (h.ids a' memA') (h.ids a memA) (Option.some.inj (backs.ref.symm.trans named))
    rw [← List.inj_on_of_nodup_map h.attachments memA' memA same]
    exact backs
  · intro linked
    obtain ⟨m', memM', backs⟩ := h.linked a memA (by rw [linked]; rfl)
    have same : m'.id = m.id := Option.some.inj (backs.linked.symm.trans linked)
    rw [← List.inj_on_of_nodup_map h.messages memM' memM same]
    exact backs

theorem ClaimsInv.served {store : ChatStore} (h : ClaimsInv store) (messageId : Uuid) :
    ∃ found, getAttachmentForMessage store messageId = .ok found := by
  unfold getAttachmentForMessage
  cases found : lookup ChatMessage.id messageId store.messages with
  | none => exact ⟨_, rfl⟩
  | some m =>
    obtain ⟨memM, id⟩ := lookup_mem found
    cases named : m.attachmentRef with
    | none =>
      simp only [named]
      exact ⟨_, rfl⟩
    | some ref =>
      obtain ⟨a, memA, backs⟩ := h.named m memM (by rw [named]; rfl)
      have text : ref = uuidText a.id := Option.some.inj (named.symm.trans backs.ref)
      have linked : ¬ a.attachment.messageId ≠ some messageId := not_not.2 (id ▸ backs.linked)
      simp only [named, text, parseUuid_uuidText (h.ids a memA), lookup_of_mem h.attachments memA,
        if_neg linked]
      exact ⟨_, rfl⟩

theorem ClaimsInv.oneToOne {store : ChatStore} (h : ClaimsInv store) : OneToOne store where
  iff m memM a memA :=
    ⟨fun named => ((h.iff memM memA).1 named).linked, fun linked => ((h.iff memM memA).2 linked).ref⟩
  named := by
    intro m memM ref named
    obtain ⟨a, memA, backs⟩ := h.named m memM (by rw [named]; rfl)
    exact ⟨a, memA, Option.some.inj (named.symm.trans backs.ref)⟩
  linked := by
    intro a memA id linked
    obtain ⟨m, memM, backs⟩ := h.linked a memA (by rw [linked]; rfl)
    exact ⟨m, memM, Option.some.inj (linked.symm.trans backs.linked)⟩
  once := by
    intro a memA
    cases linked : a.attachment.messageId with
    | none =>
      have none : (store.messages.filter fun m => m.attachmentRef = some (uuidText a.id)) = [] := by
        rw [List.filter_eq_nil_iff]
        intro m memM named
        have backs := (h.iff memM memA).1 (of_decide_eq_true named)
        rw [backs.linked] at linked
        cases linked
      rw [none]
      exact Nat.zero_le 1
    | some id =>
      -- every message that names the attachment is the one it is linked to
      have sub : (store.messages.filter fun m => m.attachmentRef = some (uuidText a.id)).length ≤
          (store.messages.filter fun m => ChatMessage.id m = id).length := by
        rw [← List.countP_eq_length_filter, ← List.countP_eq_length_filter]
        refine List.countP_mono_left fun m memM named => ?_
        have backs := (h.iff memM memA).1 (of_decide_eq_true named)
        exact decide_eq_true (Option.some.inj (backs.linked.symm.trans linked))
      obtain ⟨m, memM, backs⟩ := h.linked a memA (by rw [linked]; rfl)
      have one := (h.messages.filter_length id).2
        ⟨m, memM, Option.some.inj (backs.linked.symm.trans linked)⟩
      exact sub.trans one.le
  own m memM a memA linked :=
    ⟨((h.iff memM memA).2 linked).ofThread, ((h.iff memM memA).2 linked).ofSender⟩
  served := h.served

/-- Only a commit changes what is committed. -/
theorem store_of_step {s s' : LockTx.State ChatStore ChatLock ClaimLocal}
    {a : LockTx.Action ClaimLocal Unit} (h : LockTx.step claimProtocol s a = some s')
    (open' : ∀ t, a ≠ .commit t) : s'.store = s.store := by
  cases step_move h with
  | begin _ _ eq => rw [eq]; rfl
  | exec _ _ _ _ eq => rw [eq]; rfl
  | rollback _ eq => rw [eq]; rfl
  | @commit t => exact absurd rfl (open' t)

/-- In every interleaving of uploads and sends the claims are one to one, and a send that raises does not
commit. -/
theorem claims_one_to_one {s : LockTx.State ChatStore ChatLock ClaimLocal} (h : claims.Reachable s) :
    OneToOne s.store ∧
      (∀ a s', LockTx.step claimProtocol s a = some s' → (∀ t, a ≠ .commit t) → s'.store = s.store) ∧
      ∀ threadId call start row attachment e,
        sendMessage { call with attachments := fun _ => attachment.map AttachmentRow.attachment } start
          row.thread = .error e →
        claimProtocol.commit (.attachmentLocked threadId call start (some row) attachment) s.store =
          none := by
  refine ⟨(invariant_claims h).oneToOne, fun a s' => store_of_step, ?_⟩
  intro threadId call start row attachment e raised
  show finishSend threadId call start (some row) attachment s.store = none
  unfold finishSend
  dsimp only
  rw [raised]

/-- An open thread without a message. -/
def emptyThread : ChatStore :=
  { ChatStore.quiet [lateDelivery] with threads := [newThread 1 2 .cfo 100] }

/-- The Analyst uploads a file and sends it twice at once: the second send waits for the row of the
thread, and then finds the file claimed. -/
def sentTwice : List (LockTx.Action ClaimLocal Unit) :=
  [.begin 0 200 (.uploading ⟨20, 1, 7, "orders.csv", 300, 1000, some "text/csv"⟩), .exec 0 210 (),
    .commit 0,
    .begin 1 300 (.sending 1 ⟨7, .analyst, "see the file", 4, some 20, fun _ => none, 10, 300⟩ 300),
    .begin 2 310 (.sending 1 ⟨7, .analyst, "see the file", 4, some 20, fun _ => none, 11, 310⟩ 310),
    .exec 1 320 (), .exec 1 330 (), .commit 1, .exec 2 340 (), .exec 2 350 (), .rollback 2]

/-- One message carries the file. -/
theorem claims_one_to_one_sentTwice :
    ∃ s, claims.Reachable s ∧ s.store.messages.map (·.attachmentRef) = [some (uuidText 20)] ∧
      s.store.attachments.map (·.attachment.messageId) = [some 10] ∧ OneToOne s.store := by
  have ends : (run claimProtocol (fun _ _ => True) (State.start emptyThread 0) sentTwice).any (fun s =>
      decide (s.store.messages.map (·.attachmentRef) = [some (uuidText 20)] ∧
        s.store.attachments.map (·.attachment.messageId) = [some 10])) = true := by decide +kernel
  obtain ⟨s, ran, check⟩ := (Option.any_eq_true _ _).1 ends
  obtain ⟨refs, linked⟩ := of_decide_eq_true check
  have reached : claims.Reachable s := by
    have start : claims.Reach (CommitsMeet fun _ _ => True) (State.start emptyThread 0) :=
      .start ⟨emptyThread, 0, ⟨rfl, rfl⟩, rfl⟩
    refine (run_reach ?_ start ran).reachable
    intro t now k mem
    simp only [sentTwice, List.mem_cons, Action.begin.injEq, reduceCtorEq, List.not_mem_nil, or_false,
      false_or] at mem
    rcases mem with ⟨-, rfl, rfl⟩ | ⟨-, rfl, rfl⟩ | ⟨-, rfl, rfl⟩
    · exact .inl ⟨_, by decide, rfl⟩
    · exact .inr ⟨_, _, rfl⟩
    · exact .inr ⟨_, _, rfl⟩
  exact ⟨s, reached, refs, linked, (claims_one_to_one reached).1⟩

end MeadowOps.Chat
