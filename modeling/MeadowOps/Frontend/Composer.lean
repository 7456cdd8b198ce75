import MeadowOps.Frontend.ThreadView

/-!
# The composer belongs to the selected thread

What a request writes when it returns belongs to the thread for which it was started. As long as that thread is
still open, and nothing was typed or accepted for it meanwhile, the composer, the attachment and the verdict are
those of the open thread, and no text is lost.
-/

namespace MeadowOps.Frontend

open Lib Db

namespace ThreadViewRun

/-- The thread of a request is open, or none is, and its text is the one the request was started with. -/
def StillOpen (s : ThreadViewRun) (threadId : Uuid) (version : ℕ) : Prop :=
  (∀ t ∈ s.ui.thread, t = threadId) ∧ (s.texts threadId).version = version

/-- A request that succeeds finds its thread as it was started, and no thread is opened under the verdict of
another. -/
def InPlace (s : ThreadViewRun) : ThreadViewEvent → Prop
  | .render (some (t, _)) => ∀ v ∈ s.panel.verdict, v.threadId = t
  | .sent i (.ok _) => ∀ r ∈ s.sends[i]?, s.StillOpen r.threadId r.version
  | .suggested i (.ok _) => ∀ r ∈ s.suggestions[i]?, s.StillOpen r.threadId r.version
  | .uploaded i (.ok _) => ∀ threadId ∈ s.uploads[i]?, ∀ t ∈ s.ui.thread, t = threadId
  | .checked i (.ok _) => ∀ r ∈ s.checks[i]?, s.panel.mount = r.mount → s.ui.thread = some r.threadId
  | _ => True

end ThreadViewRun

/-- The composer is that of the selected thread, and its texts are kept until they are sent. -/
structure ComposerLaw (s : ThreadViewRun) : Prop where
  composer : ∀ t, s.ui.thread = some t → s.ui.draft = (s.texts t).shown
  kept : ∀ t text, (s.texts t).last = some text → s.buffers t = some text
  message : ∀ r ∈ s.sends, (s.texts r.threadId).version = r.version →
    ∀ text, (s.texts r.threadId).last = some text → r.body = trim text
  attachment : ∀ a, s.ui.pendingAttachment = some a → ∀ t, s.ui.thread = some t → a.threadId = t
  verdict : ∀ v, s.panel.verdict = some v → s.ui.thread = some v.threadId

/-! ## The invariant -/

open ThreadViewRun

structure ComposerInv (s : ThreadViewRun) : Prop extends ComposerLaw s where
  versions : ∀ r ∈ s.sends, r.version ≤ (s.texts r.threadId).version

variable {component : ThreadViewComponent} {s s' : ThreadViewRun}

namespace ComposerInv

/-- An event that touches neither the composer nor the texts. -/
theorem frame (h : ComposerInv s) (thread : s'.ui.thread = s.ui.thread) (draft : s'.ui.draft = s.ui.draft)
    (buffers : s'.buffers = s.buffers) (texts : s'.texts = s.texts) (sends : s'.sends ⊆ s.sends)
    (attachment : ∀ a, s'.ui.pendingAttachment = some a → ∀ t, s.ui.thread = some t → a.threadId = t)
    (verdict : ∀ v, s'.panel.verdict = some v → s.ui.thread = some v.threadId) : ComposerInv s' := by
  constructor
  · constructor
    case composer =>
      rw [thread, draft, texts]
      exact h.composer
    case kept =>
      rw [buffers, texts]
      exact h.kept
    case message =>
      rw [texts]
      exact fun r mem => h.message r (sends mem)
    case attachment =>
      rw [thread]
      exact attachment
    case verdict =>
      rw [thread]
      exact verdict
  · rw [texts]
    exact fun r mem => h.versions r (sends mem)

/-- The panel alone is changed, and shows no other verdict. -/
theorem setPanel (h : ComposerInv s) (mount : ℕ) (f : AiAssistPanel → AiAssistPanel)
    (verdict : s.panel.mount = mount → ∀ v, (f s.panel).verdict = some v → s.ui.thread = some v.threadId) :
    ComposerInv (s.setPanel mount f) := by
  unfold ThreadViewRun.setPanel
  split
  · rename_i here
    exact h.frame rfl rfl rfl rfl (List.Subset.refl _) h.attachment (verdict here)
  · exact h

/-- A text for the open thread, or for any while none is open. -/
theorem handleDraftChange (h : ComposerInv s) {threadId : Uuid} (opened : ∀ t ∈ s.ui.thread, t = threadId)
    (value : List Char) : ComposerInv (s.handleDraftChange threadId value) := by
  have others : ∀ t, t ≠ threadId → (s.handleDraftChange threadId value).texts t = s.texts t :=
    fun t other => Function.update_of_ne other _ _
  have here : (s.handleDraftChange threadId value).texts threadId = (s.texts threadId).put value :=
    Function.update_self _ _ _
  constructor
  · constructor
    case composer =>
      intro t opened'
      obtain rfl := opened t opened'
      rw [here]
      rfl
    case kept =>
      intro t text last
      show Function.update s.buffers threadId (some value) t = some text
      by_cases same : t = threadId
      · subst same
        rw [here] at last
        rw [Function.update_self]
        exact last
      · rw [others t same] at last
        rw [Function.update_of_ne same]
        exact h.kept t text last
    case message =>
      intro r mem version text last
      by_cases same : r.threadId = threadId
      · -- The request is older than the text.
        have older := h.versions r mem
        rw [same, here] at version
        rw [same] at older
        simp only [ThreadText.put] at version
        omega
      · rw [others _ same] at version last
        exact h.message r mem version text last
    case attachment => exact h.attachment
    case verdict => exact h.verdict
  · intro r mem
    by_cases same : r.threadId = threadId
    · rw [same, here]
      have older := h.versions r mem
      rw [same] at older
      exact Nat.le_succ_of_le older
    · rw [others _ same]
      exact h.versions r mem

theorem renderThread (h : ComposerInv s) (thread : Option (Uuid × List Char))
    (place : InPlace s (.render thread)) : ComposerInv (s.renderThread thread) := by
  unfold ThreadViewRun.renderThread
  split
  · exact h
  · cases thread with
    | none =>
      exact ⟨⟨(fun _ none => nomatch none), h.kept, h.message, (fun _ _ _ none => nomatch none),
        (fun _ none => nomatch none)⟩, h.versions⟩
    | some opened =>
      obtain ⟨id, draftBody⟩ := opened
      dsimp only
      have same : ∀ t, (Function.update s.texts id ((s.texts id).restore ((s.buffers id).getD draftBody)) t).last =
          (s.texts t).last ∧
          (Function.update s.texts id ((s.texts id).restore ((s.buffers id).getD draftBody)) t).version =
            (s.texts t).version := by
        intro t
        by_cases here : t = id
        · subst here
          rw [Function.update_self, ThreadText.restore]
          split <;> exact ⟨rfl, rfl⟩
        · rw [Function.update_of_ne here]
          exact ⟨rfl, rfl⟩
      constructor
      · constructor
        case composer =>
          intro t opened
          obtain rfl : id = t := Option.some.inj opened
          show (s.buffers id).getD draftBody = ThreadText.shown (Function.update s.texts id _ id)
          rw [Function.update_self, ThreadText.restore, ThreadText.shown]
          cases last : (s.texts id).last with
          | none => simp
          | some text => simp [last, h.kept id text last]
        case kept =>
          intro t text last
          rw [(same t).1] at last
          exact h.kept t text last
        case message =>
          intro r mem version text last
          rw [(same _).2] at version
          rw [(same _).1] at last
          exact h.message r mem version text last
        case attachment => exact fun a none => nomatch none
        case verdict =>
          intro v here
          rw [← place v here]
      · intro r mem
        rw [(same _).2]
        exact h.versions r mem

theorem handleSend (h : ComposerInv s) {t : Uuid} (opened : s.ui.thread = some t) : ComposerInv (s.handleSend t) := by
  unfold ThreadViewRun.handleSend
  split
  · exact h
  · constructor
    · refine ⟨h.composer, h.kept, fun r mem version text last => ?_, h.attachment, h.verdict⟩
      rcases List.mem_append.1 mem with old | new
      · exact h.message r old version text last
      · rw [List.mem_singleton.1 new] at last ⊢
        show trim s.ui.draft = trim text
        rw [h.composer t opened, ThreadText.shown, last]
        rfl
    · intro r mem
      rcases List.mem_append.1 mem with old | new
      · exact h.versions r old
      · rw [List.mem_singleton.1 new]

theorem finishSend (h : ComposerInv s) {r : SendRequest} (reply : AsyncReply Unit)
    (place : ∀ u, reply = .ok u → s.StillOpen r.threadId r.version) : ComposerInv (s.finishSend r reply) := by
  cases reply with
  | error detail => exact h.frame rfl rfl rfl rfl (List.Subset.refl _) h.attachment h.verdict
  | lost => exact h.frame rfl rfl rfl rfl (List.Subset.refl _) h.attachment h.verdict
  | ok u =>
    obtain ⟨opened, version⟩ := place u rfl
    have others : ∀ t, t ≠ r.threadId → (s.finishSend r (.ok u)).texts t = s.texts t :=
      fun t other => Function.update_of_ne other _ _
    have here : (s.finishSend r (.ok u)).texts r.threadId = ⟨none, [], r.version⟩ := by
      show Function.update s.texts r.threadId _ r.threadId = _
      rw [Function.update_self, ThreadText.sent, if_pos version, ← version]
    constructor
    · constructor
      case composer =>
        intro t opened'
        obtain rfl := opened t opened'
        rw [here]
        rfl
      case kept =>
        intro t text last
        by_cases same : t = r.threadId
        · rw [same, here] at last
          cases last
        · rw [others t same] at last
          show Function.update s.buffers r.threadId none t = some text
          rw [Function.update_of_ne same]
          exact h.kept t text last
      case message =>
        intro r' mem version' text last
        by_cases same : r'.threadId = r.threadId
        · rw [same, here] at last
          cases last
        · rw [others _ same] at version' last
          exact h.message r' mem version' text last
      case attachment => exact fun a none => nomatch none
      case verdict => exact h.verdict
    · intro r' mem
      have before := h.versions r' mem
      by_cases same : r'.threadId = r.threadId
      · rw [same, version] at before
        rw [same, here]
        exact before
      · rw [others _ same]
        exact before

/-- A request is taken off its list. -/
theorem sends_erased (h : ComposerInv s) (i : ℕ) : ComposerInv { s with sends := s.sends.eraseIdx i } :=
  h.frame rfl rfl rfl rfl List.eraseIdx_subset h.attachment h.verdict

/-- The panel asks, and shows nothing meanwhile. -/
theorem asks (h : ComposerInv s) (suggestions checks : List AssistRequest) :
    ComposerInv { s with
      panel := { s.panel with pending := true, error := none, verdict := none }
      suggestions := suggestions
      checks := checks } :=
  h.frame rfl rfl rfl rfl (List.Subset.refl _) h.attachment fun _ none => nomatch none

theorem finishSuggest (h : ComposerInv s) {r : AssistRequest} (reply : AsyncReply (List Char))
    (place : ∀ m, reply = .ok m → s.StillOpen r.threadId r.version) : ComposerInv (s.finishSuggest r reply) := by
  cases reply with
  | error detail => exact h.setPanel r.mount (fun p => { p with pending := false, error := some detail }) fun _ => h.verdict
  | lost => exact h.setPanel r.mount (fun p => { p with pending := false }) fun _ => h.verdict
  | ok message =>
    have accepted := h.handleDraftChange (place message rfl).1 message
    exact accepted.setPanel r.mount (fun p => { p with pending := false }) fun _ => accepted.verdict

theorem finishCheck (h : ComposerInv s) {r : AssistRequest} (reply : AsyncReply (Bool × Option (List Char)))
    (place : ∀ x, reply = .ok x → s.panel.mount = r.mount → s.ui.thread = some r.threadId) :
    ComposerInv (s.finishCheck r reply) := by
  cases reply with
  | error detail => exact h.setPanel r.mount (fun p => { p with pending := false, error := some detail }) fun _ => h.verdict
  | lost => exact h.setPanel r.mount (fun p => { p with pending := false }) fun _ => h.verdict
  | ok x =>
    obtain ⟨sufficient, pushback⟩ := x
    have shown : ∀ v : Verdict, some ⟨verdictText sufficient, pushback, r.threadId⟩ = some v →
        s.panel.mount = r.mount → s.ui.thread = some v.threadId := by
      rintro v ⟨⟩
      exact place _ rfl
    exact h.setPanel r.mount (fun p =>
      { p with pending := false, verdict := some ⟨verdictText sufficient, pushback, r.threadId⟩ })
      fun mounted v here => shown v here mounted

theorem acceptSuggestedPushback (h : ComposerInv s) {t : Uuid} (opened : s.ui.thread = some t) (verdict : Verdict) :
    ComposerInv (s.acceptSuggestedPushback t verdict) := by
  have cleared : ComposerInv { s with panel := { s.panel with verdict := none } } :=
    h.frame rfl rfl rfl rfl (List.Subset.refl _) h.attachment fun _ none => nomatch none
  unfold ThreadViewRun.acceptSuggestedPushback
  dsimp only
  split
  · exact cleared
  · exact cleared
  · refine cleared.handleDraftChange (fun t' here => ?_) _
    exact Option.some.inj (here.symm.trans opened)

theorem step {e : ThreadViewEvent} (h : ComposerInv s) (place : InPlace s e)
    (step : s.handle component e = some s') : ComposerInv s' := by
  cases e with
  | render thread =>
    cases step
    exact h.renderThread thread place
  | type value =>
    obtain ⟨t, opened, rfl⟩ := Option.map_eq_some_iff.1 step
    exact h.handleDraftChange (fun t' here => Option.some.inj (here.symm.trans opened)) value
  | send =>
    obtain ⟨t, opened, rfl⟩ := Option.map_eq_some_iff.1 step
    exact h.handleSend opened
  | sent i reply =>
    obtain ⟨r, here, rfl⟩ := Option.map_eq_some_iff.1 step
    refine (h.sends_erased i).finishSend reply fun u ok => ?_
    subst ok
    exact place r here
  | upload =>
    obtain ⟨⟨-, -, none⟩, mapped⟩ := Option.ite_none_right_eq_some.1 step
    obtain ⟨t, opened, rfl⟩ := Option.map_eq_some_iff.1 mapped
    exact h.frame rfl rfl rfl rfl (List.Subset.refl _) h.attachment h.verdict
  | uploaded i reply =>
    obtain ⟨t, here, rfl⟩ := Option.map_eq_some_iff.1 step
    cases reply with
    | ok upload =>
      refine h.frame rfl rfl rfl rfl (List.Subset.refl _) (fun a new t' opened => ?_) h.verdict
      cases new
      exact (place t here t' opened).symm
    | error detail => exact h.frame rfl rfl rfl rfl (List.Subset.refl _) h.attachment h.verdict
    | lost => exact h.frame rfl rfl rfl rfl (List.Subset.refl _) h.attachment h.verdict
  | removeAttachment =>
    cases step
    exact h.frame rfl rfl rfl rfl (List.Subset.refl _) (fun _ none => nomatch none) h.verdict
  | suggestOpening =>
    obtain ⟨-, mapped⟩ := Option.ite_none_right_eq_some.1 step
    obtain ⟨t, opened, rfl⟩ := Option.map_eq_some_iff.1 mapped
    exact h.asks _ _
  | suggestPushback =>
    obtain ⟨-, mapped⟩ := Option.ite_none_right_eq_some.1 step
    obtain ⟨t, opened, rfl⟩ := Option.map_eq_some_iff.1 mapped
    exact h.asks _ _
  | suggested i reply =>
    obtain ⟨r, here, rfl⟩ := Option.map_eq_some_iff.1 step
    have inv : ComposerInv { s with suggestions := s.suggestions.eraseIdx i } :=
      h.frame rfl rfl rfl rfl (List.Subset.refl _) h.attachment h.verdict
    refine inv.finishSuggest reply fun m ok => ?_
    subst ok
    exact place r here
  | checkSufficiency =>
    obtain ⟨-, mapped⟩ := Option.ite_none_right_eq_some.1 step
    obtain ⟨t, opened, rfl⟩ := Option.map_eq_some_iff.1 mapped
    exact h.asks _ _
  | checked i reply =>
    obtain ⟨r, here, rfl⟩ := Option.map_eq_some_iff.1 step
    have inv : ComposerInv { s with checks := s.checks.eraseIdx i } :=
      h.frame rfl rfl rfl rfl (List.Subset.refl _) h.attachment h.verdict
    refine inv.finishCheck reply fun x ok => ?_
    subst ok
    exact place r here
  | acceptSuggestedPushback =>
    simp only [ThreadViewRun.handle] at step
    split at step
    · rename_i opened here
      cases step
      exact h.acceptSuggestedPushback opened _
    · cases step
  | messages hasMessages hasAnalystMessage =>
    cases step
    unfold ThreadViewRun.renderMessages
    split
    · exact h
    · exact h.frame rfl rfl rfl rfl (List.Subset.refl _) h.attachment fun _ none => nomatch none

end ComposerInv

/-- In every run of either component whose requests find their threads as they left them, the composer is that of
the selected thread. -/
theorem composer_of_selected_thread (h : (threadViewRuns component).Reach InPlace s) : ComposerLaw s := by
  have inv : ComposerInv s := by
    refine h.invariant (I := ComposerInv) (fun s start => ?_) fun s e s' _ inv place step => inv.step place step
    obtain ⟨buffers, rfl⟩ := start
    exact ⟨⟨(fun _ none => nomatch none), (fun _ _ none => nomatch none), (fun _ mem => nomatch mem),
      (fun _ none => nomatch none), (fun _ none => nomatch none)⟩, fun _ mem => nomatch mem⟩
  exact inv.toComposerLaw

/-! ## Runs -/

instance (s : ThreadViewRun) (threadId : Uuid) (version : ℕ) : Decidable (s.StillOpen threadId version) :=
  instDecidableAnd

instance (s : ThreadViewRun) : (e : ThreadViewEvent) → Decidable (InPlace s e)
  | .render (some (t, _)) => inferInstanceAs (Decidable (∀ v ∈ s.panel.verdict, v.threadId = t))
  | .sent i (.ok _) => inferInstanceAs (Decidable (∀ r ∈ s.sends[i]?, s.StillOpen r.threadId r.version))
  | .suggested i (.ok _) => inferInstanceAs (Decidable (∀ r ∈ s.suggestions[i]?, s.StillOpen r.threadId r.version))
  | .uploaded i (.ok _) => inferInstanceAs (Decidable (∀ threadId ∈ s.uploads[i]?, ∀ t ∈ s.ui.thread, t = threadId))
  | .checked i (.ok _) => inferInstanceAs (Decidable
      (∀ r ∈ s.checks[i]?, s.panel.mount = r.mount → s.ui.thread = some r.threadId))
  | .render none | .sent _ (.error _) | .sent _ .lost | .suggested _ (.error _) | .suggested _ .lost
  | .uploaded _ (.error _) | .uploaded _ .lost | .checked _ (.error _) | .checked _ .lost | .type _ | .send | .upload
  | .removeAttachment | .suggestOpening | .suggestPushback | .checkSufficiency | .acceptSuggestedPushback
  | .messages .. => instDecidableTrue

/-- A run without buffers of earlier visits. -/
def typedIn (component : ThreadViewComponent) (ok : ThreadViewRun → ThreadViewEvent → Prop)
    [∀ s e, Decidable (ok s e)] (events : List ThreadViewEvent) : Option ThreadViewRun :=
  events.foldlM (fun s e => if ok s e then s.handle component e else none) (mounted fun _ => none)

theorem reach_of_typedIn {component : ThreadViewComponent} {ok : ThreadViewRun → ThreadViewEvent → Prop}
    [∀ s e, Decidable (ok s e)] {events : List ThreadViewEvent} {s : ThreadViewRun}
    (h : typedIn component ok events = some s) : (threadViewRuns component).Reach ok s :=
  System.Reach.checked (fun _ _ _ step => step) (.start ⟨_, rfl⟩) h

/-- While a message of the first thread is sent, a draft is typed for the second. -/
def sentElsewhere : List ThreadViewEvent :=
  [.render (some (1, [])), .type "Hello".toList, .send, .render (some (2, [])), .type "Draft".toList, .sent 0 (.ok ())]

/-- A run after which the composer of the second thread is empty, where a draft was typed last. -/
def ClearsOther (component : ThreadViewComponent) : Prop :=
  ∃ s, (threadViewRuns component).Reachable s ∧ s.ui.thread = some 2 ∧ s.ui.draft = [] ∧
    (s.texts 2).last = some "Draft".toList ∧ ¬ ComposerLaw s

theorem clearsOther_sentElsewhere (component : ThreadViewComponent) : ClearsOther component := by
  have run : ∃ s, typedIn component (fun _ _ => True) sentElsewhere = some s ∧ s.ui.thread = some 2 ∧
      s.ui.draft = [] ∧ (s.texts 2).last = some "Draft".toList := ⟨_, rfl, rfl, rfl, rfl⟩
  obtain ⟨s, played, thread, draft, last⟩ := run
  refine ⟨s, reach_of_typedIn played, thread, draft, last, fun law => ?_⟩
  have composer := law.composer 2 thread
  rw [draft, ThreadText.shown, last, Option.getD_some] at composer
  exact absurd composer (by decide)

/-- The answer empties the composer of the second thread. -/
theorem draft_of_other_thread_cleared : ClearsOther chatThreadView ∧ ClearsOther mailThreadView :=
  ⟨clearsOther_sentElsewhere _, clearsOther_sentElsewhere _⟩

/-- A suggestion is accepted, sent, and the thread left with a draft and opened again. -/
def suggestedAndSent : List ThreadViewEvent :=
  [.render (some (1, [])), .suggestOpening, .suggested 0 (.ok "Good morning".toList), .send, .sent 0 (.ok ()),
    .type "More".toList, .render (some (2, "Restored".toList)), .render (some (1, []))]

/-- The draft of the first thread is there again. -/
theorem composer_of_selected_thread_reopened : ∃ s, ComposerLaw s ∧ s.ui.thread = some 1 ∧
    s.ui.draft = "More".toList := by
  have run : ∃ s, typedIn mailThreadView InPlace suggestedAndSent = some s ∧ s.ui.thread = some 1 ∧
      s.ui.draft = "More".toList := ⟨_, rfl, rfl, rfl⟩
  obtain ⟨s, played, thread, draft⟩ := run
  exact ⟨s, composer_of_selected_thread (reach_of_typedIn played), thread, draft⟩

end MeadowOps.Frontend
