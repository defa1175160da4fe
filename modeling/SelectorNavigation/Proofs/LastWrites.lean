import SelectorNavigation.Proofs.Buffers
import Mathlib.Data.List.DropRight
import Mathlib.Data.List.Induction

/-!
# The last write to a document

What a session holds of a document is decided by the messages about that document and by
the shutdowns.  A close and a shutdown forget it, and among the messages behind the last
of these the last one that brings a text counts.  If there is none, the document is read
from the disk.  So messages about different documents can change places, and a document
that is closed leaves no trace.
-/

namespace SelectorNavigation

theorem Buffers.revise_apply (buffers : Buffers) (spelling : Text)
    (change : Option Text → Option Text) (uri : Uri) :
    buffers.revise spelling change uri =
      if Uri.read? spelling = some uri then change (buffers uri) else buffers uri := by
  unfold revise
  cases Uri.read? spelling with
  | none => simp
  | some other =>
      by_cases same : other = uri
      · subst same
        simp
      · simp [same, Function.update_of_ne (Ne.symm same)]

namespace Session

namespace Message

/-- The document that a message is about. -/
def uri? : Message → Option Uri
  | .notification (.opened spelling _) | .notification (.changed spelling _)
  | .notification (.saved spelling _) | .notification (.closed spelling) => Uri.read? spelling
  | _ => none

/-- The text that a message brings.  Of several changes it is the first. -/
def text? : Message → Option Text
  | .notification (.opened _ text) => some text
  | .notification (.changed _ texts) => texts.head?
  | .notification (.saved _ text) => text
  | _ => none

def isClose : Message → Bool
  | .notification (.closed _) => true
  | _ => false

def isShutdown : Message → Bool
  | .request .shutdown => true
  | _ => false

def isOn (uri : Uri) (message : Message) : Bool :=
  message.uri? == some uri

/-- The text that a message writes to a document. -/
def writes? (uri : Uri) (message : Message) : Option Text :=
  if message.uri? = some uri then message.text? else none

/-- A message after which a document is not open: the document is closed or the session is
shut down. -/
def forgets (uri : Uri) (message : Message) : Bool :=
  (message.isClose && message.isOn uri) || message.isShutdown

/-- A message is about a document or about all of them. -/
def concerns (uri : Uri) (message : Message) : Bool :=
  message.isOn uri || message.isShutdown

variable {message : Message} {uri other : Uri}

theorem isOn_iff : message.isOn uri ↔ message.uri? = some uri := by
  simp [isOn]

theorem isShutdown_eq_false_of_isOn (on : message.isOn uri) : message.isShutdown = false := by
  unfold isShutdown
  split
  · simp [isOn, uri?] at on
  · rfl

theorem concerns_of_forgets (forgetting : message.forgets uri) : message.concerns uri := by
  simp only [forgets, Bool.or_eq_true, Bool.and_eq_true] at forgetting
  rcases forgetting with ⟨-, on⟩ | shutdown
  · simp [concerns, on]
  · simp [concerns, shutdown]

theorem writes?_eq_none_of_not_concerns (apart : message.concerns uri = false) :
    message.writes? uri = none := by
  simp only [concerns, Bool.or_eq_false_iff] at apart
  rw [writes?, if_neg]
  exact fun on => by simp [isOn, on] at apart

theorem concerns_eq_false_of_isOn (on : message.isOn uri) (different : other ≠ uri) :
    message.concerns other = false := by
  have away : message.isOn other = false := by
    rw [Bool.eq_false_iff, ne_eq, isOn_iff, isOn_iff.mp on, Option.some.injEq]
    exact Ne.symm different
  simp [concerns, away, isShutdown_eq_false_of_isOn on]

end Message

/-- The text that the last message to write to a document writes, among the messages behind
the last close of the document and the last shutdown. -/
def lastWritten? (uri : Uri) (messages : List Message) : Option Text :=
  ((messages.rtakeWhile (!·.forgets uri)).filterMap (·.writes? uri)).getLast?

theorem lastWritten?_append_singleton (uri : Uri) (messages : List Message) (message : Message) :
    lastWritten? uri (messages ++ [message]) =
      if message.forgets uri then none
      else (message.writes? uri).or (lastWritten? uri messages) := by
  by_cases forgetting : message.forgets uri
  · simp [lastWritten?, forgetting]
  · have single : ([message].filterMap (·.writes? uri)).getLast? = message.writes? uri := by
      cases written : message.writes? uri with
      | none => simp [written]
      | some text => simp [written]
    rw [lastWritten?, List.rtakeWhile_concat_pos _ _ _ (by simp [forgetting]),
      List.filterMap_append, List.getLast?_append, single, if_neg forgetting, lastWritten?]

/-- A session that is told of a text takes it for the document of the message. -/
theorem get?_note_saved_apply (session : Session) (spelling : Text) (text : Option Text)
    (uri : Uri) :
    (session.note (.saved spelling text)).session.documents.get? uri =
      (if Uri.read? spelling = some uri then text else none).or (session.documents.get? uri) := by
  rw [get?_note_saved, Buffers.revise_apply]
  split
  · rfl
  · rfl

/-- A session that reacts to a message forgets a document, takes a text for it or keeps what
it had. -/
theorem get?_react (session : Session) (disk : Disk) (replies : EditorReplies)
    (message : Message) (uri : Uri) :
    (session.react disk replies message).session.documents.get? uri =
      if message.forgets uri then none
      else (message.writes? uri).or (session.documents.get? uri) := by
  cases message with
  | request request =>
      by_cases ending : request = .shutdown
      · subst ending
        rfl
      · have kept : (Message.request request).forgets uri = false := by
          cases request <;> trivial
        rw [react, session_handle ending, kept]
        rfl
  | notification notification =>
      cases notification with
      | started | exit => rfl
      | opened spelling text => exact session.get?_note_saved_apply spelling (some text) uri
      | changed spelling texts =>
          rw [react, note_changed]
          exact session.get?_note_saved_apply spelling texts.head? uri
      | saved spelling text => exact session.get?_note_saved_apply spelling text uri
      | closed spelling =>
          have erased := session.get?_withDocument spelling fun documents uri =>
            documents.get?_erase uri
          refine (congrFun erased uri).trans ?_
          rw [Buffers.revise_apply]
          by_cases on : Uri.read? spelling = some uri
          · simp [Message.forgets, Message.isClose, Message.isOn, Message.uri?, on]
          · simp [Message.forgets, Message.isClose, Message.isShutdown, Message.isOn,
              Message.writes?, Message.uri?, on]

theorem get?_reactAll {session : Session} (unopened : session.documents = .empty) (disk : Disk)
    (replies : EditorReplies) (messages : List Message) (uri : Uri) :
    (session.reactAll disk replies messages).documents.get? uri = lastWritten? uri messages := by
  induction messages using List.reverseRecOn with
  | nil =>
      rw [reactAll, List.foldl_nil, unopened]
      rfl
  | append_singleton messages message ih =>
      have reacted := (session.reactAll disk replies messages).get?_react disk replies message uri
      rw [ih, ← lastWritten?_append_singleton] at reacted
      rw [← reacted, reactAll, List.foldl_append]
      rfl

theorem lastWritten?_filter_concerns (uri : Uri) (messages : List Message) :
    lastWritten? uri (messages.filter (·.concerns uri)) = lastWritten? uri messages := by
  induction messages using List.reverseRecOn with
  | nil => rfl
  | append_singleton messages message ih =>
      rw [List.filter_append]
      by_cases concerned : message.concerns uri
      · rw [List.filter_cons_of_pos concerned, List.filter_nil, lastWritten?_append_singleton,
          lastWritten?_append_singleton, ih]
      · have kept : ¬ message.forgets uri := fun forgetting =>
          concerned (Message.concerns_of_forgets forgetting)
        have unwritten := Message.writes?_eq_none_of_not_concerns (by simpa using concerned)
        rw [List.filter_cons_of_neg concerned, List.filter_nil, List.append_nil, ih,
          lastWritten?_append_singleton, if_neg kept, unwritten, Option.none_or]

/-- What is written later makes the same difference to runs that have written the same. -/
theorem lastWritten?_append_congr {uri : Uri} {first second : List Message}
    (same : lastWritten? uri first = lastWritten? uri second) (rest : List Message) :
    lastWritten? uri (first ++ rest) = lastWritten? uri (second ++ rest) := by
  induction rest using List.reverseRecOn with
  | nil => simpa using same
  | append_singleton rest message ih =>
      rw [← List.append_assoc, ← List.append_assoc, lastWritten?_append_singleton,
        lastWritten?_append_singleton, ih]

theorem lastWritten?_filter_not_isOn (uri : Uri) (messages : List Message) :
    lastWritten? uri (messages.filter (!·.isOn uri)) = none := by
  rw [lastWritten?, List.getLast?_eq_none_iff, List.filterMap_eq_nil_iff]
  intro message member
  have kept := (List.rtakeWhile_suffix _ _).subset member
  have away : message.isOn uri = false := by simpa using (List.mem_filter.mp kept).2
  rw [Message.writes?, if_neg]
  exact fun on => by simp [Message.isOn, on] at away

/-- Runs in which the messages that concern a document are the same hold the same text of it. -/
theorem lastWritten?_congr {uri : Uri} {messages others : List Message}
    (same : messages.filter (·.concerns uri) = others.filter (·.concerns uri)) :
    lastWritten? uri messages = lastWritten? uri others := by
  rw [← lastWritten?_filter_concerns, same, lastWritten?_filter_concerns]

theorem filter_concerns_swap {first second : Message} {uri other : Uri} (firstOn : first.isOn uri)
    (secondOn : second.isOn other) (different : uri ≠ other) (front back : List Message)
    (third : Uri) :
    (front ++ first :: second :: back).filter (·.concerns third) =
      (front ++ second :: first :: back).filter (·.concerns third) := by
  by_cases same : third = uri
  · have apart := Message.concerns_eq_false_of_isOn secondOn (same ▸ different)
    simp [List.filter_cons, apart]
  · have apart := Message.concerns_eq_false_of_isOn firstOn same
    simp [List.filter_cons, apart]

/-- Taking the messages about one document out of a run leaves those that concern another. -/
theorem filter_concerns_filter_not_isOn {uri other : Uri} (different : other ≠ uri)
    (messages : List Message) :
    (messages.filter (!·.isOn uri)).filter (·.concerns other) =
      messages.filter (·.concerns other) := by
  rw [List.filter_filter]
  apply List.filter_congr
  intro message _
  by_cases on : message.isOn uri
  · simp [Message.concerns_eq_false_of_isOn on different]
  · simp [on]

theorem lastWritten?_append_close {closing : Message} {uri : Uri} (closes : closing.isClose)
    (on : closing.isOn uri) (front back : List Message) (other : Uri) :
    lastWritten? other (front ++ closing :: back) =
      lastWritten? other (front.filter (!·.isOn uri) ++ back) := by
  by_cases same : other = uri
  · subst same
    have forgotten : lastWritten? other (front ++ [closing]) = none := by
      rw [lastWritten?_append_singleton, if_pos (by simp [Message.forgets, closes, on])]
    have absent := lastWritten?_filter_not_isOn other front
    have continued := lastWritten?_append_congr (forgotten.trans absent.symm) back
    rwa [List.append_assoc, List.singleton_append] at continued
  · apply lastWritten?_congr
    have apart := Message.concerns_eq_false_of_isOn on same
    rw [List.filter_append, List.filter_append, filter_concerns_filter_not_isOn same,
      List.filter_cons_of_neg (by simp [apart])]

/-- After any run of messages from a session without open documents, a document loads with the
last text written to it since it was last closed and the session last shut down, and is read
from the disk if there is no such text.  Only the messages that concern the document matter for
that, so runs that agree on these for each document end with the same documents.  In particular
messages about different documents can change places, and the messages about a document up to
its close can be left out. -/
theorem documents_hold_last_writes (phase : Phase) (root : Option Uri) (disk : Disk)
    (replies : EditorReplies) :
    let run (messages : List Message) : Documents :=
      (reactAll ⟨phase, root, .empty⟩ disk replies messages).documents
    let load (messages : List Message) (later : Disk) : Uri → Except DocumentError Text :=
      (DocumentSource.ofDisk later (run messages)).load
    (∀ messages later uri,
      load messages later uri =
        (lastWritten? uri messages).elim (later.readDocument uri) .ok) ∧
    (∀ messages later uri,
      load (messages.filter (·.concerns uri)) later uri = load messages later uri) ∧
    (∀ messages others,
      (∀ uri, messages.filter (·.concerns uri) = others.filter (·.concerns uri)) →
        (run messages).get? = (run others).get?) ∧
    (∀ front first second back uri other, first.isOn uri → second.isOn other → uri ≠ other →
      (run (front ++ first :: second :: back)).get? =
        (run (front ++ second :: first :: back)).get?) ∧
    ∀ front closing back uri, closing.isClose → closing.isOn uri →
      (run (front ++ closing :: back)).get? =
        (run (front.filter (!·.isOn uri) ++ back)).get? := by
  intro run load
  have holds : ∀ messages, (run messages).get? = (lastWritten? · messages) := by
    intro messages
    funext uri
    exact get?_reactAll rfl disk replies messages uri
  have loads : ∀ messages later uri, load messages later uri =
      (lastWritten? uri messages).elim (later.readDocument uri) .ok := by
    intro messages later uri
    have held := congrFun (holds messages) uri
    simp only [load, DocumentSource.load, DocumentSource.fetch, DocumentSource.ofDisk, held]
    cases lastWritten? uri messages <;> rfl
  have agree : ∀ messages others,
      (∀ uri, messages.filter (·.concerns uri) = others.filter (·.concerns uri)) →
        (run messages).get? = (run others).get? := by
    intro messages others same
    rw [holds, holds]
    funext uri
    exact lastWritten?_congr (same uri)
  refine ⟨loads, ?_, agree, ?_, ?_⟩
  · intro messages later uri
    rw [loads, loads, lastWritten?_filter_concerns]
  · intro front first second back uri other firstOn secondOn different
    exact agree _ _ (filter_concerns_swap firstOn secondOn different front back)
  · intro front closing back uri closes on
    rw [holds, holds]
    funext other
    exact lastWritten?_append_close closes on front back other

/-- A document keeps the first of its changes while another one is saved in between, and the
other one, closed at the end, is looked for on the disk as if it had never been saved. -/
theorem documents_hold_first_change :
    let page : Text := "file:///r/a.html".toList
    let draft : Text := "untitled:b".toList
    let pageUri : Uri := ⟨"file".toList, some .empty, .segments ["r".toList, "a.html".toList],
      none, none⟩
    let draftUri : Uri := ⟨"untitled".toList, none, .plain "b".toList, none, none⟩
    let opening := Message.notification (.opened page "1".toList)
    let change := Message.notification (.changed page ["2".toList, "3".toList])
    let save := Message.notification (.saved draft (some "4".toList))
    let closing := Message.notification (.closed draft)
    let run (messages : List Message) : Documents :=
      (reactAll ⟨.running, none, .empty⟩ .empty ⟨none, true⟩ messages).documents
    change.isOn pageUri ∧ save.isOn draftUri ∧ pageUri ≠ draftUri ∧ closing.isClose ∧
      closing.isOn draftUri ∧
      (run [opening, change, save, closing]).get? = (run [opening, save, change, closing]).get? ∧
      (run [opening, change, save, closing]).get? = (run [opening, change]).get? ∧
      (DocumentSource.ofDisk .empty (run [opening, change, save, closing])).load pageUri =
        .ok "2".toList ∧
      (DocumentSource.ofDisk .empty (run [opening, change, save, closing])).load draftUri =
        .error (.notAFile draftUri) := by
  intro page draft pageUri draftUri opening change save closing run
  have changeOn : change.isOn pageUri := by decide +kernel
  have saveOn : save.isOn draftUri := by decide +kernel
  have closingOn : closing.isOn draftUri := by decide +kernel
  have different : pageUri ≠ draftUri := by decide
  obtain ⟨loads, -, -, swap, cancel⟩ :=
    documents_hold_last_writes .running none .empty ⟨none, true⟩
  refine ⟨changeOn, saveOn, different, rfl, closingOn, ?_, ?_, ?_, ?_⟩
  · exact swap [opening] change save [closing] pageUri draftUri changeOn saveOn different
  · have left : [opening, change, save].filter (!·.isOn draftUri) = [opening, change] := by
      have openingAway : opening.isOn draftUri = false := by decide +kernel
      have changeAway : change.isOn draftUri = false := by decide +kernel
      simp [openingAway, changeAway, saveOn]
    have cancelled := cancel [opening, change, save] closing [] draftUri rfl closingOn
    rwa [left] at cancelled
  · exact (loads _ _ _).trans (by decide +kernel)
  · exact (loads _ _ _).trans (by decide +kernel)

end Session

end SelectorNavigation
