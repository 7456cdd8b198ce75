import MeadowOps.Chat.Attachments
import MeadowOps.Chat.AttachmentTypes
import MeadowOps.Chat.DownloadNames
import MeadowOps.Scenarios.OneLive

/-!
# What is downloaded is what was uploaded

The bytes of an attachment lie in the object storage (`app/core/storage.py`), beside the database: an upload
saves them before it commits its row, and nothing takes them back when the commit fails. Such bytes stay behind
under a key that no row has.
-/

namespace MeadowOps.Chat

open Db Lib MeadowOps.Flow LockTx Scenarios

/-! ## The two stores -/

structure Vault where
  chat : ChatStore
  /-- The column `storage_key`, by the id of the attachment. -/
  storageKey : List (Uuid × String)
  blobs : List (String × List UInt8)

/-- `AttachmentStorage.save`. -/
def saveBlob (key : String) (content : List UInt8) (blobs : List (String × List UInt8)) :
    List (String × List UInt8) := upsert Prod.fst blobs (key, content)

/-- `AttachmentStorage.load`; `none` is `AttachmentNotInStorageError`. -/
def loadBlob (key : String) (blobs : List (String × List UInt8)) : Option (List UInt8) :=
  (lookup Prod.fst key blobs).map Prod.snd

/-- A file of a request, with the id and the key that are generated for it. -/
structure UploadFile where
  id : Uuid
  isUuid : IsUuid id
  storageKey : String
  threadId : Uuid
  uploadedByUserId : Uuid
  filename : Option String
  contentType : Option String
  content : List UInt8

/-- Where an upload that passes its checks may break off. -/
inductive UploadFault where
  | none
  /-- `save` raises. -/
  | storage
  /-- The commit fails, or the process ends before it. -/
  | commit
  deriving DecidableEq

/-- `file.filename or "attachment"`. -/
def UploadFile.name (file : UploadFile) : String :=
  match file.filename with
  | some name => if name = "" then "attachment" else name
  | none => "attachment"

/-- `file.content_type or "application/octet-stream"`. -/
def UploadFile.claimed (file : UploadFile) : String :=
  match file.contentType with
  | some claimed => if claimed = "" then "application/octet-stream" else claimed
  | none => "application/octet-stream"

/-- `await file.read(max_size + 1)`. -/
def UploadFile.read (file : UploadFile) (maxSize : ℕ) : List UInt8 := file.content.take (maxSize + 1)

def UploadFile.call (file : UploadFile) (maxSize : ℕ) : UploadCall where
  id := file.id
  threadId := file.threadId
  uploadedByUserId := file.uploadedByUserId
  originalFilename := file.name
  sizeBytes := (file.read maxSize).length
  maxSizeBytes := maxSize
  contentType := (validateAttachmentContent file.claimed (file.read maxSize)).toOption

/-- `upload_attachment_route`. -/
def uploadAttachmentRoute (maxSize : ℕ) (file : UploadFile) (fault : UploadFault) (vault : Vault) : Vault :=
  match loadThread file.threadId vault.chat with
  | .error _ _ => vault
  | .ok row _ =>
    match uploadedRow (file.call maxSize) row with
    | none => vault
    | some attachment =>
      if fault = .storage then vault
      else
        let saved := { vault with blobs := saveBlob file.storageKey (file.read maxSize) vault.blobs }
        match insertAttachment attachment vault.chat with
        | .error _ _ => saved
        | .ok _ chat =>
          if fault = .commit then saved
          else { saved with chat := chat, storageKey := saved.storageKey ++ [(attachment.id, file.storageKey)] }

structure Download where
  content : List UInt8
  mediaType : String
  contentDisposition : String
  deriving DecidableEq

inductive DownloadResult where
  /-- 404. -/
  | noAttachment
  | served (download : Download)
  /-- 500. -/
  | broken
  deriving DecidableEq

/-- `get_message_attachment_route`. -/
def getMessageAttachmentRoute (vault : Vault) (messageId : Uuid) : DownloadResult :=
  match getAttachmentForMessage vault.chat messageId with
  | .error _ => .broken
  | .ok none => .noAttachment
  | .ok (some attachment) =>
    match lookup Prod.fst attachment.id vault.storageKey with
    | none => .broken
    | some (_, key) =>
      match loadBlob key vault.blobs with
      | none => .broken
      | some content => .served ⟨content, attachment.contentType,
          contentDispositionHeaderValue attachment.originalFilename⟩

/-! ## Requests -/

/-- The calls that are no upload. -/
def NoUpload (call : ServiceCall) : Prop :=
  ∀ upload now, call ≠ .chat (.uploadAttachment upload) now

inductive VaultRequest where
  | upload (file : UploadFile) (fault : UploadFault)
  | service (call : ServiceCall) (other : NoUpload call)

def VaultRequest.perform (maxSize : ℕ) (vault : Vault) : VaultRequest → Vault
  | .upload file fault => uploadAttachmentRoute maxSize file fault vault
  | .service call _ => { vault with chat := endState (call.perform vault.chat) }

/-- Requests one after another. -/
def performRequests (maxSize : ℕ) (requests : List VaultRequest) (vault : Vault) : Vault :=
  requests.foldl (VaultRequest.perform maxSize) vault

/-- The key that is generated for a request. -/
def VaultRequest.key : VaultRequest → Option String
  | .upload file _ => some file.storageKey
  | .service _ _ => none

/-- The keys of the requests. -/
def storageKeys (requests : List VaultRequest) : List String := requests.filterMap VaultRequest.key

/-! ## The tables under the service calls -/

section Calls

variable {store store' : ChatStore}

/-- An attachment keeps what the upload wrote of its file. -/
structure SameFile (a a' : AttachmentRow) : Prop where
  originalFilename : a'.originalFilename = a.originalFilename
  contentType : a'.contentType = a.contentType
  threadId : a'.attachment.threadId = a.attachment.threadId
  uploadedByUserId : a'.attachment.uploadedByUserId = a.attachment.uploadedByUserId

theorem SameFile.refl (a : AttachmentRow) : SameFile a a := ⟨rfl, rfl, rfl, rfl⟩

/-- What a call that is no upload leaves of the messages and the attachments. -/
structure FilesKept (store store' : ChatStore) : Prop where
  messages : store.messages <+: store'.messages
  ids : store'.attachments.map AttachmentRow.id = store.attachments.map AttachmentRow.id
  files : ∀ a' ∈ store'.attachments, ∃ a ∈ store.attachments, a'.id = a.id ∧ SameFile a a'

theorem FilesKept.of_same (messages : store'.messages = store.messages)
    (attachments : store'.attachments = store.attachments) : FilesKept store store' where
  messages := messages ▸ List.prefix_refl _
  ids := by rw [attachments]
  files a mem := ⟨a, attachments ▸ mem, rfl, .refl a⟩

theorem ClaimsInv.of_same (h : ClaimsInv store) (messages : store'.messages = store.messages)
    (attachments : store'.attachments = store.attachments) : ClaimsInv store' where
  messages := messages ▸ h.messages
  attachments := attachments ▸ h.attachments
  ids := attachments ▸ h.ids
  named m mem isSome := attachments ▸ h.named m (messages ▸ mem) isSome
  linked a mem isSome := messages ▸ h.linked a (attachments ▸ mem) isSome

/-- A claim writes the link of one row. -/
theorem FilesKept.of_claimed {k : ClaimLocal} (claimed : Claimed store store' k)
    (noUpload : ∀ row, k ≠ .inserting row) : FilesKept store store' := by
  cases claimed with
  | plain fresh ref messages attachments =>
    exact ⟨messages ▸ List.prefix_append .., by rw [attachments], fun a mem => ⟨a, attachments ▸ mem, rfl, .refl a⟩⟩
  | claim fresh ref ofThread ofSender free messages attachments =>
    refine ⟨messages ▸ List.prefix_append .., ?_, ?_⟩
    · rw [attachments]
      exact map_key_modify fun _ same => same
    · intro a' mem
      rw [attachments] at mem
      obtain ⟨a, memA, rfl⟩ := mem_modify.1 mem
      refine ⟨a, memA, ?_⟩
      split
      · exact ⟨rfl, rfl, rfl, rfl, rfl⟩
      · exact ⟨rfl, .refl a⟩
  | @upload row => exact absurd rfl (noUpload row)

theorem sendMessageOn_ok {threadId : Uuid} {call : SendCall} {now : Instant}
    (h : sendMessageOn threadId call now store = .ok () store') :
    ∃ row thread message, message.id ∉ store.messages.map ChatMessage.id ∧
      sendMessage (call.on store) now row = .ok (message, thread) ∧
      store'.messages = store.messages ++ [message] ∧
      store'.attachments = (claimAttachment call.attachmentId message.id store).attachments := by
  obtain ⟨row, _, load, h⟩ := bind_eq_ok h
  obtain ⟨rfl, -⟩ := loadThread_ok load
  obtain ⟨read, _, same, h⟩ := bind_eq_ok h
  cases same
  obtain ⟨sent, _, returned, h⟩ := bind_eq_ok h
  obtain ⟨accepted, rfl⟩ := liftExcept_eq_ok returned
  obtain ⟨_, between, inserted, h⟩ := bind_eq_ok h
  have fresh : sent.1.id ∉ store.messages.map ChatMessage.id := by
    obtain ⟨read, _, same, inserted⟩ := bind_eq_ok inserted
    cases same
    intro taken
    rw [insert?, if_pos taken] at inserted
    cases inserted
  obtain rfl := insertMessage_ok inserted
  cases h
  refine ⟨row.thread, sent.2, sent.1, fresh, accepted, ?_, ?_⟩
  all_goals cases call.attachmentId <;> rfl

/-- A send claims, as one alone does. -/
theorem claimed_of_send {threadId : Uuid} {call : SendCall} {now : Instant}
    (h : sendMessageOn threadId call now store = .ok () store') :
    ∃ k, HoldsRow store (fun _ => True) k ∧ Claimed store store' k ∧ ∀ row, k ≠ .inserting row := by
  obtain ⟨row, thread, message, fresh, sent, messages, attachments⟩ := sendMessageOn_ok h
  obtain ⟨ref, claims⟩ := sendMessage_claims sent
  cases named : call.attachmentId with
  | none =>
    rw [show (call.on store).attachmentId = none from named] at ref
    rw [named] at attachments
    exact ⟨.threadLocked threadId call now none, trivial, .plain fresh ref messages attachments, nofun⟩
  | some id =>
    obtain ⟨attachment, read, ofThread, ofSender, free⟩ := claims id named
    obtain ⟨a, found, rfl⟩ := Option.map_eq_some_iff.1 read
    obtain ⟨mem, rfl⟩ := lookup_mem found
    rw [show (call.on store).attachmentId = some a.id from named] at ref
    rw [named] at attachments
    have holds : HoldsRow store (fun _ => True) (.attachmentLocked threadId call now none (some a)) := by
      refine ⟨a.id, named, fun b same => ?_⟩
      obtain rfl := Option.some.inj same
      exact ⟨rfl, trivial, mem⟩
    exact ⟨_, holds, .claim fresh ref ofThread ofSender free messages attachments, nofun⟩

theorem claims_call {call : ServiceCall} (h : ClaimsInv store) (other : NoUpload call) :
    ClaimsInv (endState (call.perform store)) ∧ FilesKept store (endState (call.perform store)) := by
  cases ran : call.perform store with
  | error e store' =>
    obtain rfl : store' = store := raisesClean_call call _ _ _ ran
    exact ⟨h, .of_same rfl rfl⟩
  | ok value store' =>
    rw [endState_ok]
    cases call with
    | scenario call =>
      obtain ⟨scenarios, rfl⟩ := scenarioCall_ok ran
      exact ⟨h.of_same rfl rfl, .of_same rfl rfl⟩
    | chat operation now =>
      cases change_of_perform ran with
      | sent =>
        obtain ⟨k, holds, claimed, noUpload⟩ := claimed_of_send ran
        exact ⟨h.claimed holds claimed, .of_claimed claimed noUpload⟩
      | uploaded => exact absurd rfl (other _ _)
      | found eq | created _ _ eq | drafted eq | marked eq | deleted _ _ eq | completed _ _ _ eq
      | cancelled eq =>
        subst eq
        exact ⟨h.of_same rfl rfl, .of_same rfl rfl⟩

end Calls

/-! ## The invariant -/

/-- The row of an attachment and its bytes are those of an upload among the requests. -/
structure Stored (maxSize : ℕ) (requests : List VaultRequest) (vault : Vault) (a : AttachmentRow)
    (file : UploadFile) : Prop where
  uploaded : .upload file .none ∈ requests
  key : lookup Prod.fst a.id vault.storageKey = some (a.id, file.storageKey)
  blob : loadBlob file.storageKey vault.blobs = some file.content
  size : file.content.length ≤ maxSize
  originalFilename : a.originalFilename = file.name
  contentType : validateAttachmentContent file.claimed file.content = .ok a.contentType
  threadId : a.attachment.threadId = file.threadId
  uploadedByUserId : a.attachment.uploadedByUserId = file.uploadedByUserId

structure VaultInv (maxSize : ℕ) (requests : List VaultRequest) (vault : Vault) : Prop where
  claims : ClaimsInv vault.chat
  columns : vault.storageKey.map Prod.fst = vault.chat.attachments.map AttachmentRow.id
  stored : ∀ a ∈ vault.chat.attachments, ∃ file, Stored maxSize requests vault a file
  keys : ∀ key ∈ vault.blobs.map Prod.fst, key ∈ storageKeys requests

/-- What a request leaves of the two stores. -/
structure VaultKept (vault vault' : Vault) : Prop where
  messages : vault.chat.messages <+: vault'.chat.messages
  files : ∀ a' ∈ vault'.chat.attachments, a'.id ∈ vault.chat.attachments.map AttachmentRow.id →
    ∃ a ∈ vault.chat.attachments, a'.id = a.id ∧ SameFile a a'
  ids : ∀ a ∈ vault.chat.attachments, a.id ∈ vault'.chat.attachments.map AttachmentRow.id
  storageKey : vault.storageKey <+: vault'.storageKey
  blobs : ∀ key content, loadBlob key vault.blobs = some content → loadBlob key vault'.blobs = some content

theorem loadBlob_kept {blobs blobs' : List (String × List UInt8)} (more : blobs <+: blobs') {key : String}
    {content : List UInt8} (found : loadBlob key blobs = some content) : loadBlob key blobs' = some content := by
  obtain ⟨row, was, rfl⟩ := Option.map_eq_some_iff.1 found
  rw [loadBlob, lookup_kept more was]
  rfl

/-- A key that is not taken: the bytes are added. -/
theorem saveBlob_fresh {blobs : List (String × List UInt8)} {key : String} (fresh : key ∉ blobs.map Prod.fst)
    (content : List UInt8) : saveBlob key content blobs = blobs ++ [(key, content)] := if_neg fresh

theorem loadBlob_saveBlob {blobs : List (String × List UInt8)} {key : String} (fresh : key ∉ blobs.map Prod.fst)
    (content : List UInt8) : loadBlob key (saveBlob key content blobs) = some content := by
  rw [saveBlob_fresh fresh, loadBlob]
  exact congrArg (Option.map Prod.snd) (lookup_append_of_notMem (r := (key, content)) fresh)

section Steps

variable {maxSize : ℕ} {requests : List VaultRequest} {vault vault' : Vault} {file : UploadFile}
  {fault : UploadFault}

/-- How an upload ends. -/
inductive UploadEnd (maxSize : ℕ) (file : UploadFile) (fault : UploadFault) (vault : Vault) : Vault → Prop
  | refused : UploadEnd maxSize file fault vault vault
  | leftBehind : UploadEnd maxSize file fault vault
      { vault with blobs := saveBlob file.storageKey (file.read maxSize) vault.blobs }
  | committed {attachment : AttachmentRow} (none : fault = .none) (id : attachment.id = file.id)
      (free : attachment.attachment.messageId = Option.none) (size : (file.read maxSize).length ≤ maxSize)
      (originalFilename : attachment.originalFilename = file.name)
      (contentType : validateAttachmentContent file.claimed (file.read maxSize) = .ok attachment.contentType)
      (threadId : attachment.attachment.threadId = file.threadId)
      (uploadedByUserId : attachment.attachment.uploadedByUserId = file.uploadedByUserId)
      (fresh : file.id ∉ vault.chat.attachments.map AttachmentRow.id) :
      UploadEnd maxSize file fault vault
        { chat := { vault.chat with attachments := vault.chat.attachments ++ [attachment] }
          storageKey := vault.storageKey ++ [(attachment.id, file.storageKey)]
          blobs := saveBlob file.storageKey (file.read maxSize) vault.blobs }

theorem uploadAttachmentRoute_end (maxSize : ℕ) (file : UploadFile) (fault : UploadFault) (vault : Vault) :
    UploadEnd maxSize file fault vault (uploadAttachmentRoute maxSize file fault vault) := by
  unfold uploadAttachmentRoute
  split
  · exact .refused
  · rename_i row loaded load
    split
    · exact .refused
    · rename_i attachment uploaded
      split
      · exact .refused
      · rename_i noStorage
        dsimp only
        split
        · exact .leftBehind
        · rename_i inserted
          split
          · exact .leftBehind
          · rename_i noCommit
            have none : fault = .none := by
              cases fault with
              | none => rfl
              | storage => exact absurd rfl noStorage
              | commit => exact absurd rfl noCommit
            obtain ⟨fresh, rfl⟩ := insertAttachment_ok inserted
            unfold uploadedRow at uploaded
            split at uploaded
            · cases uploaded
            · rename_i accepted
              obtain ⟨contentType, sniffed, rfl⟩ := Option.map_eq_some_iff.1 uploaded
              refine .committed none rfl rfl (Nat.le_of_not_lt (not_or.1 accepted).2) rfl ?_ rfl rfl fresh
              have sniffed : (validateAttachmentContent file.claimed (file.read maxSize)).toOption =
                some contentType := sniffed
              cases validated : validateAttachmentContent file.claimed (file.read maxSize) with
              | error e =>
                rw [validated] at sniffed
                cases sniffed
              | ok t =>
                rw [validated] at sniffed
                exact congrArg _ (Option.some.inj sniffed)

/-- One byte more than the bound is read: what passes the bound is the whole file. -/
theorem read_eq (size : (file.read maxSize).length ≤ maxSize) : file.read maxSize = file.content := by
  rw [UploadFile.read, List.length_take] at size
  rw [UploadFile.read, List.take_of_length_le]
  omega

theorem VaultKept.refl (vault : Vault) : VaultKept vault vault where
  messages := List.prefix_refl _
  files a mem _ := ⟨a, mem, rfl, .refl a⟩
  ids _ mem := List.mem_map_of_mem mem
  storageKey := List.prefix_refl _
  blobs _ _ found := found

theorem storageKeys_append (requests : List VaultRequest) (request : VaultRequest) :
    storageKeys (requests ++ [request]) = storageKeys requests ++ request.key.toList := by
  rw [storageKeys, List.filterMap_append]
  cases key : request.key <;> simp [storageKeys, key]

/-- What is stored stays so. -/
theorem Stored.kept {a a' : AttachmentRow} (h : Stored maxSize requests vault a file) (kept : VaultKept vault vault')
    (more : List VaultRequest) (id : a'.id = a.id) (same : SameFile a a') :
    Stored maxSize (requests ++ more) vault' a' file where
  uploaded := List.mem_append_left _ h.uploaded
  key := id ▸ lookup_kept kept.storageKey h.key
  blob := kept.blobs _ _ h.blob
  size := h.size
  originalFilename := same.originalFilename.trans h.originalFilename
  contentType := same.contentType ▸ h.contentType
  threadId := same.threadId.trans h.threadId
  uploadedByUserId := same.uploadedByUserId.trans h.uploadedByUserId

theorem VaultInv.service (h : VaultInv maxSize requests vault) {call : ServiceCall} (other : NoUpload call) :
    VaultInv maxSize (requests ++ [.service call other]) { vault with chat := endState (call.perform vault.chat) } ∧
      VaultKept vault { vault with chat := endState (call.perform vault.chat) } := by
  obtain ⟨claims, files⟩ := claims_call h.claims other
  have kept : VaultKept vault { vault with chat := endState (call.perform vault.chat) } := by
    refine ⟨files.messages, fun a' mem _ => files.files a' mem, fun a mem => ?_, List.prefix_refl _,
      fun _ _ found => found⟩
    exact files.ids ▸ List.mem_map_of_mem mem
  refine ⟨⟨claims, h.columns.trans files.ids.symm, ?_, ?_⟩, kept⟩
  · intro a' mem
    obtain ⟨a, memA, id, same⟩ := files.files a' mem
    obtain ⟨file, stored⟩ := h.stored a memA
    exact ⟨file, stored.kept kept _ id same⟩
  · intro key mem
    rw [storageKeys_append]
    exact List.mem_append_left _ (h.keys key mem)

theorem VaultInv.upload (h : VaultInv maxSize requests vault) (unused : file.storageKey ∉ storageKeys requests)
    (ended : UploadEnd maxSize file fault vault vault') :
    VaultInv maxSize (requests ++ [.upload file fault]) vault' ∧ VaultKept vault vault' := by
  have free : file.storageKey ∉ vault.blobs.map Prod.fst := fun mem => unused (h.keys _ mem)
  have keys : ∀ blobs : List (String × List UInt8), (∀ key ∈ blobs.map Prod.fst, key ∈ storageKeys requests ∨
      key = file.storageKey) → ∀ key ∈ blobs.map Prod.fst, key ∈ storageKeys (requests ++ [.upload file fault]) := by
    intro blobs known key mem
    rw [storageKeys_append]
    rcases known key mem with old | rfl
    · exact List.mem_append_left _ old
    · exact List.mem_append_right _ (List.mem_singleton_self _)
  have saved : ∀ key ∈ (saveBlob file.storageKey (file.read maxSize) vault.blobs).map Prod.fst,
      key ∈ storageKeys requests ∨ key = file.storageKey := by
    intro key mem
    rw [saveBlob_fresh free, List.map_append] at mem
    rcases List.mem_append.1 mem with old | new
    · exact .inl (h.keys key old)
    · exact .inr (List.mem_singleton.1 new)
  have blobs : ∀ key content, loadBlob key vault.blobs = some content →
      loadBlob key (saveBlob file.storageKey (file.read maxSize) vault.blobs) = some content := by
    rw [saveBlob_fresh free]
    exact fun key content found => loadBlob_kept (List.prefix_append ..) found
  cases ended with
  | refused =>
    refine ⟨⟨h.claims, h.columns, fun a mem => ?_, keys _ fun key mem => .inl (h.keys key mem)⟩, .refl vault⟩
    obtain ⟨file', stored⟩ := h.stored a mem
    exact ⟨file', stored.kept (.refl vault) _ rfl (.refl a)⟩
  | leftBehind =>
    have kept : VaultKept vault
        { vault with blobs := saveBlob file.storageKey (file.read maxSize) vault.blobs } :=
      { VaultKept.refl vault with blobs := blobs }
    refine ⟨⟨h.claims, h.columns, fun a mem => ?_, keys _ saved⟩, kept⟩
    obtain ⟨file', stored⟩ := h.stored a mem
    exact ⟨file', stored.kept kept _ rfl (.refl a)⟩
  | @committed attachment none id noMessage size originalFilename contentType threadId uploadedByUserId fresh =>
    have freshId : attachment.id ∉ vault.chat.attachments.map AttachmentRow.id := id ▸ fresh
    have kept : VaultKept vault
        { chat := { vault.chat with attachments := vault.chat.attachments ++ [attachment] }
          storageKey := vault.storageKey ++ [(attachment.id, file.storageKey)]
          blobs := saveBlob file.storageKey (file.read maxSize) vault.blobs } := by
      refine ⟨List.prefix_refl _, fun a mem known => ?_, fun a mem => ?_, List.prefix_append .., blobs⟩
      · rcases List.mem_append.1 mem with old | new
        · exact ⟨a, old, rfl, .refl a⟩
        · rw [List.mem_singleton.1 new] at known
          exact absurd known freshId
      · exact List.mem_map_of_mem (List.mem_append_left _ mem)
    refine ⟨⟨?_, ?_, ?_, keys _ saved⟩, kept⟩
    · have row : HoldsRow vault.chat (fun _ => True) (.inserting attachment) := ⟨id ▸ file.isUuid, noMessage⟩
      exact h.claims.claimed row (.upload freshId rfl rfl)
    · rw [List.map_append, List.map_append, h.columns]
      rfl
    · intro a mem
      rcases List.mem_append.1 mem with old | new
      · obtain ⟨file', stored⟩ := h.stored a old
        exact ⟨file', stored.kept kept _ rfl (.refl a)⟩
      · rw [List.mem_singleton.1 new]
        refine ⟨file, ?_, ?_, ?_, ?_, originalFilename, ?_, threadId, uploadedByUserId⟩
        · rw [none]
          exact List.mem_append_right _ (List.mem_singleton_self _)
        · refine lookup_append_of_notMem (r := (attachment.id, file.storageKey)) ?_
          rw [h.columns]
          exact freshId
        · rw [← read_eq size]
          exact loadBlob_saveBlob free _
        · rw [← read_eq size]
          exact size
        · rw [← read_eq size]
          exact contentType

theorem VaultKept.trans {vault₁ vault₂ vault₃ : Vault} (h : VaultKept vault₁ vault₂) (h' : VaultKept vault₂ vault₃) :
    VaultKept vault₁ vault₃ where
  messages := h.messages.trans h'.messages
  files := by
    intro a₃ mem known
    obtain ⟨a₁, mem₁, id₁⟩ := List.mem_map.1 known
    obtain ⟨a₂, mem₂, id₂, same₂⟩ := h'.files a₃ mem (id₁ ▸ h.ids a₁ mem₁)
    obtain ⟨a₁, mem₁, id₁, same₁⟩ := h.files a₂ mem₂ (id₂ ▸ known)
    exact ⟨a₁, mem₁, id₂.trans id₁, same₂.originalFilename.trans same₁.originalFilename,
      same₂.contentType.trans same₁.contentType, same₂.threadId.trans same₁.threadId,
      same₂.uploadedByUserId.trans same₁.uploadedByUserId⟩
  ids := by
    intro a mem
    obtain ⟨a₂, mem₂, id⟩ := List.mem_map.1 (h.ids a mem)
    exact id ▸ h'.ids a₂ mem₂
  storageKey := h.storageKey.trans h'.storageKey
  blobs key content found := h'.blobs key content (h.blobs key content found)

/-- A request whose key was not generated before. -/
theorem VaultInv.perform (h : VaultInv maxSize requests vault) {request : VaultRequest}
    (unused : ∀ key ∈ request.key, key ∉ storageKeys requests) :
    VaultInv maxSize (requests ++ [request]) (request.perform maxSize vault) ∧
      VaultKept vault (request.perform maxSize vault) := by
  cases request with
  | upload file fault => exact h.upload (unused _ rfl) (uploadAttachmentRoute_end maxSize file fault vault)
  | service call other => exact h.service other

theorem VaultInv.performRequests {more : List VaultRequest} (h : VaultInv maxSize requests vault)
    (distinct : (storageKeys (requests ++ more)).Nodup) :
    VaultInv maxSize (requests ++ more) (performRequests maxSize more vault) ∧
      VaultKept vault (performRequests maxSize more vault) := by
  induction more generalizing requests vault with
  | nil =>
    rw [List.append_nil]
    exact ⟨h, .refl vault⟩
  | cons request more ih =>
    rw [List.append_cons] at distinct ⊢
    have unused : ∀ key ∈ request.key, key ∉ storageKeys requests := by
      intro key generated mem
      rw [storageKeys, List.filterMap_append] at distinct
      have first : (storageKeys (requests ++ [request])).Nodup := (List.nodup_append.1 distinct).1
      rw [storageKeys_append] at first
      exact (List.nodup_append.1 first).2.2 key mem key (Option.mem_toList.2 generated) rfl
    obtain ⟨inv, kept⟩ := h.perform unused
    obtain ⟨invRest, keptRest⟩ := ih inv distinct
    exact ⟨invRest, kept.trans keptRest⟩

/-! ## Downloads -/

/-- The download of a file. -/
def UploadFile.download (file : UploadFile) (mediaType : String) : Download :=
  ⟨file.content, mediaType, contentDispositionHeaderValue file.name⟩

/-- A message that names its attachment is answered with the file of the attachment. -/
theorem VaultInv.served (h : VaultInv maxSize requests vault) {m : ChatMessage} {a : AttachmentRow}
    (memM : m ∈ vault.chat.messages) (memA : a ∈ vault.chat.attachments) (backs : Backs a m)
    (stored : Stored maxSize requests vault a file) :
    getMessageAttachmentRoute vault m.id = .served (file.download a.contentType) := by
  have found : getAttachmentForMessage vault.chat m.id = .ok (some a) := by
    unfold getAttachmentForMessage
    simp only [lookup_of_mem h.claims.messages memM, backs.ref, parseUuid_uuidText (h.claims.ids a memA),
      lookup_of_mem h.claims.attachments memA, if_neg (not_not.2 backs.linked)]
  unfold getMessageAttachmentRoute
  simp only [found, stored.key, stored.blob, stored.originalFilename]
  rfl

theorem VaultInv.unnamed (h : VaultInv maxSize requests vault) {m : ChatMessage} (memM : m ∈ vault.chat.messages)
    (ref : m.attachmentRef = none) : getMessageAttachmentRoute vault m.id = .noAttachment := by
  have found : getAttachmentForMessage vault.chat m.id = .ok none := by
    unfold getAttachmentForMessage
    simp only [lookup_of_mem h.claims.messages memM, ref]
  unfold getMessageAttachmentRoute
  rw [found]

/-- The message is not there. -/
theorem unknown_message {messageId : Uuid} (unknown : lookup ChatMessage.id messageId vault.chat.messages = none) :
    getMessageAttachmentRoute vault messageId = .noAttachment := by
  unfold getMessageAttachmentRoute getAttachmentForMessage
  rw [unknown]

/-- The file behind a message. -/
structure FileOf (maxSize : ℕ) (requests : List VaultRequest) (m : ChatMessage) (file : UploadFile) : Prop where
  uploaded : .upload file .none ∈ requests
  size : file.content.length ≤ maxSize
  threadId : file.threadId = m.threadId
  uploadedByUserId : file.uploadedByUserId = m.senderUserId

/-- What the download route answers. -/
structure DownloadLaw (maxSize : ℕ) (requests : List VaultRequest) (vault : Vault) : Prop where
  /-- No row without its bytes, and no message without its row. -/
  sound : ∀ messageId, getMessageAttachmentRoute vault messageId ≠ .broken
  unnamed : ∀ m ∈ vault.chat.messages, m.attachmentRef = none →
    getMessageAttachmentRoute vault m.id = .noAttachment
  named : ∀ m ∈ vault.chat.messages, m.attachmentRef ≠ none → ∃ file mediaType,
    FileOf maxSize requests m file ∧ validateAttachmentContent file.claimed file.content = .ok mediaType ∧
      getMessageAttachmentRoute vault m.id = .served (file.download mediaType)

theorem VaultInv.named (h : VaultInv maxSize requests vault) {m : ChatMessage} (memM : m ∈ vault.chat.messages)
    (ref : m.attachmentRef ≠ none) : ∃ a ∈ vault.chat.attachments, ∃ file, Backs a m ∧
      Stored maxSize requests vault a file ∧
      getMessageAttachmentRoute vault m.id = .served (file.download a.contentType) := by
  obtain ⟨a, memA, backs⟩ := h.claims.named m memM (Option.isSome_iff_ne_none.2 ref)
  obtain ⟨file, stored⟩ := h.stored a memA
  exact ⟨a, memA, file, backs, stored, h.served memM memA backs stored⟩

theorem VaultInv.law (h : VaultInv maxSize requests vault) : DownloadLaw maxSize requests vault where
  sound := by
    intro messageId broken
    cases found : lookup ChatMessage.id messageId vault.chat.messages with
    | none =>
      rw [unknown_message found] at broken
      cases broken
    | some m =>
      obtain ⟨memM, rfl⟩ := lookup_mem found
      by_cases ref : m.attachmentRef = none
      · rw [h.unnamed memM ref] at broken
        cases broken
      · obtain ⟨a, -, file, -, -, answered⟩ := h.named memM ref
        rw [answered] at broken
        cases broken
  unnamed m memM ref := h.unnamed memM ref
  named := by
    intro m memM ref
    obtain ⟨a, -, file, backs, stored, answered⟩ := h.named memM ref
    exact ⟨file, a.contentType, ⟨stored.uploaded, stored.size, stored.threadId.symm.trans backs.ofThread,
      stored.uploadedByUserId.symm.trans backs.ofSender⟩, stored.contentType, answered⟩

/-- What a message is answered with stays so. -/
theorem VaultInv.answer_kept (h : VaultInv maxSize requests vault) {requests' : List VaultRequest}
    (h' : VaultInv maxSize requests' vault') (kept : VaultKept vault vault') {m : ChatMessage}
    (memM : m ∈ vault.chat.messages) :
    getMessageAttachmentRoute vault' m.id = getMessageAttachmentRoute vault m.id := by
  have memM' : m ∈ vault'.chat.messages := kept.messages.subset memM
  by_cases ref : m.attachmentRef = none
  · rw [h.unnamed memM ref, h'.unnamed memM' ref]
  · obtain ⟨a, memA, file, backs, stored, answered⟩ := h.named memM ref
    obtain ⟨a', memA', file', backs', stored', answered'⟩ := h'.named memM' ref
    have id : a'.id = a.id := uuidText_injective (h'.claims.ids a' memA') (h.claims.ids a memA)
      (Option.some.inj (backs'.ref.symm.trans backs.ref))
    obtain ⟨b, memB, idB, same⟩ := kept.files a' memA' (id ▸ List.mem_map_of_mem memA)
    obtain rfl := List.inj_on_of_nodup_map h.claims.attachments memB memA (idB.symm.trans id)
    -- both rows have the key that the upload wrote
    have key := lookup_kept kept.storageKey stored.key
    rw [← id] at key
    have sameKey : file'.storageKey = file.storageKey :=
      (Prod.mk.inj (Option.some.inj (stored'.key.symm.trans key))).2
    have sameContent : file'.content = file.content := by
      have blob := kept.blobs _ _ stored.blob
      rw [← sameKey] at blob
      exact Option.some.inj (stored'.blob.symm.trans blob)
    have sameName : file'.name = file.name := by
      rw [← stored'.originalFilename, ← stored.originalFilename, same.originalFilename]
    rw [answered, answered', UploadFile.download, UploadFile.download, sameContent, sameName, same.contentType]

end Steps

/-- Scenarios, and nothing uploaded. -/
def Vault.quiet (scenarios : List Scenario) : Vault := ⟨.quiet scenarios, [], []⟩

theorem vaultInv_quiet (maxSize : ℕ) (scenarios : List Scenario) : VaultInv maxSize [] (.quiet scenarios) where
  claims :=
    { messages := List.nodup_nil
      attachments := List.nodup_nil
      ids := fun _ mem => nomatch mem
      named := fun _ mem => nomatch mem
      linked := fun _ mem => nomatch mem }
  columns := rfl
  stored := fun _ mem => nomatch mem
  keys := fun _ mem => nomatch mem

/-- After any requests whose keys are distinct, whichever of them fail and wherever, a message is answered with the
file that its sender uploaded for its thread, byte for byte, and later requests leave the answer. -/
theorem downloads_are_uploads (scenarios : List Scenario) (maxSize : ℕ) (before after : List VaultRequest)
    (distinct : (storageKeys (before ++ after)).Nodup) :
    let vault := performRequests maxSize before (.quiet scenarios)
    let vault' := performRequests maxSize (before ++ after) (.quiet scenarios)
    DownloadLaw maxSize before vault ∧ vault.chat.messages <+: vault'.chat.messages ∧
      ∀ m ∈ vault.chat.messages, getMessageAttachmentRoute vault' m.id = getMessageAttachmentRoute vault m.id := by
  intro vault vault'
  have first : (storageKeys before).Nodup := by
    rw [storageKeys, List.filterMap_append] at distinct
    exact (List.nodup_append.1 distinct).1
  have inv : VaultInv maxSize before vault := ((vaultInv_quiet maxSize scenarios).performRequests first).1
  obtain ⟨inv', kept⟩ := inv.performRequests distinct
  have same : vault' = performRequests maxSize after vault := List.foldl_append ..
  rw [same]
  exact ⟨inv.law, kept.messages, fun m memM => inv.answer_kept inv' kept memM⟩

/-- A text of the Analyst. -/
def ordersFile : UploadFile where
  id := 20
  isUuid := by decide
  storageKey := "k1"
  threadId := 1
  uploadedByUserId := 7
  filename := some "orders.csv"
  contentType := some "text/csv"
  content := [0x61, 0x2c, 0x62]

/-- An upload whose commit fails, the same again, and the message with it. -/
def ordersSent : List VaultRequest :=
  [.service (.chat (.getOrCreateThread 2 .cfo 1) 100) nofun,
    .upload { ordersFile with storageKey := "k0" } .commit,
    .upload ordersFile .none,
    .service (.chat (.sendMessage 1 ⟨7, .analyst, "see the file", 4, some 20, fun _ => none, 10, 210⟩) 200) nofun]

/-- Another upload. -/
def anotherUpload : List VaultRequest :=
  [.upload { ordersFile with id := 21, isUuid := by decide, storageKey := "k2" } .none]

/-- The file that was sent is downloaded as it was uploaded. -/
theorem downloads_are_uploads_ordersSent :
    (let vault := performRequests 100 ordersSent (.quiet [lateDelivery])
    let vault' := performRequests 100 (ordersSent ++ anotherUpload) (.quiet [lateDelivery])
    DownloadLaw 100 ordersSent vault ∧ vault.chat.messages <+: vault'.chat.messages ∧
      ∀ m ∈ vault.chat.messages, getMessageAttachmentRoute vault' m.id = getMessageAttachmentRoute vault m.id) ∧
      getMessageAttachmentRoute (performRequests 100 ordersSent (.quiet [lateDelivery])) 10 =
        .served (ordersFile.download "text/csv") :=
  ⟨downloads_are_uploads [lateDelivery] 100 ordersSent anotherUpload (by decide), by decide +kernel⟩

end MeadowOps.Chat
