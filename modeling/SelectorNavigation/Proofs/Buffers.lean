import SelectorNavigation.Session.Step
import Mathlib.Data.List.Infix
import Mathlib.Logic.Function.Basic

/-!
# The documents of a session and the buffers of its editor

An editor keeps a buffer for each open document and tells the session what happens to it.
The session is meant to hold the same texts.  It does as long as no document is changed to
several texts at once: the editor applies them all, in order, and ends with the last one,
while the session keeps the first.
-/

namespace SelectorNavigation

/-- The texts of the documents that an editor has open. -/
abbrev Buffers := Uri → Option Text

namespace Documents

theorem get?_insert (documents : Documents) (uri : Uri) (text : Text) :
    (documents.insert uri text).get? = Function.update documents.get? uri (some text) := by
  funext other
  by_cases same : other = uri
  · subst same
    simp
  · rw [get?_insert_of_ne documents text same, Function.update_of_ne same]

theorem get?_erase (documents : Documents) (uri : Uri) :
    (documents.erase uri).get? = Function.update documents.get? uri none := by
  funext other
  by_cases same : other = uri
  · subst same
    simp
  · rw [get?_erase_of_ne documents same, Function.update_of_ne same]

end Documents

namespace Buffers

open Session

/-- Change the buffer of a document, if its URI can be read. -/
def revise (buffers : Buffers) (spelling : Text) (change : Option Text → Option Text) : Buffers :=
  match Uri.read? spelling with
  | some uri => Function.update buffers uri (change (buffers uri))
  | none => buffers

/-- The buffers of an editor once it has sent a message.  A list of changes holds whole
texts, which are applied to the buffer one after the other. -/
def after (buffers : Buffers) : Message → Buffers
  | .notification (.opened spelling text) => buffers.revise spelling fun _ => some text
  | .notification (.changed spelling texts) =>
      buffers.revise spelling (·.map fun text => texts.foldl (fun _ changed => changed) text)
  | .notification (.saved spelling text) => buffers.revise spelling (·.map text.getD)
  | .notification (.closed spelling) => buffers.revise spelling fun _ => none
  | .request .shutdown => fun _ => none
  | _ => buffers

def afterAll (buffers : Buffers) (messages : List Message) : Buffers :=
  messages.foldl after buffers

/-- A message that reports a change or a save does so of an open document. -/
def permits (buffers : Buffers) : Message → Bool
  | .notification (.changed spelling _) | .notification (.saved spelling _) =>
      (Uri.read? spelling).all fun uri => (buffers uri).isSome
  | _ => true

/-- Only open documents are reported as changed or saved in the course of the messages. -/
def permitsAll : Buffers → List Message → Bool
  | _, [] => true
  | buffers, message :: messages =>
      buffers.permits message && permitsAll (buffers.after message) messages

theorem revise_eq_iff {buffers : Buffers} {spelling : Text}
    {first second : Option Text → Option Text} :
    buffers.revise spelling first = buffers.revise spelling second ↔
      ∀ uri ∈ Uri.read? spelling, first (buffers uri) = second (buffers uri) := by
  unfold revise
  cases Uri.read? spelling with
  | none => simp
  | some uri => simp [(Function.update_injective buffers uri).eq_iff]

theorem revise_id (buffers : Buffers) (spelling : Text) : buffers.revise spelling id = buffers := by
  unfold revise
  cases Uri.read? spelling with
  | none => rfl
  | some uri => exact Function.update_eq_self uri buffers

end Buffers

namespace Session

variable {session : Session} {disk : Disk} {replies : EditorReplies} {message : Message}

/-- How a session reacts to a message while it is running. -/
def react (session : Session) (disk : Disk) (replies : EditorReplies) : Message → Outcome
  | .request request => session.handle disk replies request
  | .notification notification => session.note notification

/-- From its start to its shutdown a session takes its steps by reacting. -/
theorem step_of_running (running : session.phase = .running) :
    session.step disk replies message = session.react disk replies message := by
  unfold step
  rw [running]
  cases message with
  | request request => rfl
  | notification notification => cases notification <;> rfl

/-- The session after it has reacted to messages in order. -/
def reactAll (session : Session) (disk : Disk) (replies : EditorReplies)
    (messages : List Message) : Session :=
  messages.foldl (fun session message => (session.react disk replies message).session) session

theorem get?_withDocument (session : Session) (spelling : Text)
    {change : Documents → Uri → Documents} {text : Option Text}
    (changes : ∀ documents uri,
      (change documents uri).get? = Function.update documents.get? uri text) :
    (session.withDocument spelling change).documents.get? =
      Buffers.revise session.documents.get? spelling fun _ => text := by
  unfold withDocument Buffers.revise
  cases Uri.read? spelling with
  | none => rfl
  | some uri => exact changes session.documents uri

theorem get?_note_saved (session : Session) (spelling : Text) (text : Option Text) :
    (session.note (.saved spelling text)).session.documents.get? =
      Buffers.revise session.documents.get? spelling text.or := by
  cases text with
  | none =>
      have unchanged : (none : Option Text).or = id := by
        funext old
        exact Option.none_or
      rw [unchanged, Buffers.revise_id]
      rfl
  | some text =>
      exact session.get?_withDocument spelling fun documents uri => documents.get?_insert uri text

/-- Of several changes a session takes the first, as if the document were saved with it. -/
theorem note_changed (session : Session) (spelling : Text) (texts : List Text) :
    session.note (.changed spelling texts) = session.note (.saved spelling texts.head?) := by
  cases texts <;> rfl

theorem session_references (session : Session) (disk : Disk) (replies : EditorReplies)
    (uri : Uri) (line : Nat) : (session.references disk replies uri line).session = session := by
  unfold references
  split
  · rfl
  · split <;> rfl

theorem session_definition (session : Session) (disk : Disk) (uri : Uri) (position : Position) :
    (session.definition disk uri position).session = session := by
  unfold definition
  dsimp only
  split <;> rfl

/-- Only a shutdown changes the documents among the requests. -/
theorem session_handle {request : Request} (lasting : request ≠ .shutdown) :
    (session.handle disk replies request).session = session := by
  cases request with
  | start root folders => rfl
  | references spelling line =>
      unfold handle
      dsimp only
      split
      · exact session.session_references disk replies _ line
      · rfl
  | definition spelling position =>
      unfold handle
      dsimp only
      split
      · exact session.session_definition disk _ position
      · rfl
  | shutdown => contradiction

/-- The message does not change a document to several texts of which the first differs from
the last. -/
def Message.settles : Message → Prop
  | .notification (.changed spelling texts) =>
      (Uri.read? spelling).isSome → texts.head? = texts.getLast?
  | _ => True

theorem foldl_changed (text : Text) (texts : List Text) :
    texts.foldl (fun _ changed => changed) text = texts.getLast?.getD text := by
  induction texts generalizing text with
  | nil => rfl
  | cons next texts ih =>
      rw [List.foldl_cons, ih, List.getLast?_cons, Option.getD_some]

/-- Applying all changes to an open document leaves what taking the first leaves exactly if
the first is also the last. -/
theorem or_eq_map_foldl_iff {texts : List Text} {buffer : Option Text} (isOpen : buffer.isSome) :
    texts.head?.or buffer = buffer.map (fun text => texts.foldl (fun _ changed => changed) text) ↔
      texts.head? = texts.getLast? := by
  obtain ⟨text, rfl⟩ := Option.isSome_iff_exists.mp isOpen
  cases texts with
  | nil => simp
  | cons first rest =>
      rw [Option.map_some, foldl_changed, List.getLast?_cons, List.head?_cons, Option.some_or,
        Option.getD_some]

/-- While the session agrees with the editor, it agrees after one more message exactly if the
message does not change a document to several different texts. -/
theorem get?_react_eq_iff (disk : Disk) (replies : EditorReplies)
    (permitted : Buffers.permits session.documents.get? message) :
    (session.react disk replies message).session.documents.get? =
        Buffers.after session.documents.get? message ↔ message.settles := by
  cases message with
  | request request =>
      refine iff_of_true ?_ trivial
      by_cases ending : request = .shutdown
      · subst ending
        rfl
      · have unaffected : Buffers.after session.documents.get? (.request request) =
            session.documents.get? := by
          cases request <;> trivial
        rw [unaffected, react, session_handle ending]
  | notification notification =>
      cases notification with
      | started | exit => exact iff_of_true rfl trivial
      | opened spelling text =>
          refine iff_of_true ?_ trivial
          exact session.get?_withDocument spelling fun documents uri =>
            documents.get?_insert uri text
      | closed spelling =>
          refine iff_of_true ?_ trivial
          exact session.get?_withDocument spelling fun documents uri => documents.get?_erase uri
      | saved spelling text =>
          refine iff_of_true ?_ trivial
          rw [react, get?_note_saved, Buffers.after, Buffers.revise_eq_iff]
          intro uri isUri
          simp only [Buffers.permits, Option.mem_def.mp isUri, Option.all_some] at permitted
          obtain ⟨old, opened⟩ := Option.isSome_iff_exists.mp permitted
          cases text <;> simp [opened]
      | changed spelling texts =>
          rw [react, note_changed, get?_note_saved, Buffers.after, Buffers.revise_eq_iff,
            Message.settles]
          cases read : Uri.read? spelling with
          | none => simp
          | some uri =>
              simp only [Buffers.permits, read, Option.all_some] at permitted
              simp [or_eq_map_foldl_iff permitted]

/-- Let an editor report changes and saves of open documents only.  A session that holds the
texts of its buffers holds them after every one of its messages exactly if no document is
changed to several texts at once of which the first differs from the last. -/
theorem documents_follow_buffers_iff (session : Session) (disk : Disk) (replies : EditorReplies)
    (messages : List Message)
    (permitted : Buffers.permitsAll session.documents.get? messages) :
    (∀ front, front <+: messages →
        (session.reactAll disk replies front).documents.get? =
          Buffers.afterAll session.documents.get? front) ↔
      ∀ message ∈ messages, message.settles := by
  induction messages generalizing session with
  | nil =>
      refine iff_of_true ?_ (by simp)
      intro front isPrefix
      rw [List.prefix_nil.mp isPrefix]
      rfl
  | cons message messages ih =>
      -- Once the session agrees after this message, its documents are the buffers from which
      -- the editor goes on, so the induction hypothesis applies to the rest.
      simp only [Buffers.permitsAll, Bool.and_eq_true] at permitted
      have single := get?_react_eq_iff disk replies permitted.1
      constructor
      · intro agrees
        have settled := single.mp (agrees [message] (by simp))
        have reacted := single.mpr settled
        refine List.forall_mem_cons.mpr ⟨settled, ?_⟩
        refine (ih _ (by rw [reacted]; exact permitted.2)).mp fun front isPrefix => ?_
        rw [reacted]
        exact agrees (message :: front) (by simpa using isPrefix)
      · intro settled front isPrefix
        obtain ⟨settles, others⟩ := List.forall_mem_cons.mp settled
        have reacted := single.mpr settles
        rcases List.prefix_cons_iff.mp isPrefix with rfl | ⟨later, rfl, isLater⟩
        · rfl
        · have agrees := (ih _ (by rw [reacted]; exact permitted.2)).mpr others later isLater
          rw [reacted] at agrees
          exact agrees

/-- Reporting at most one text at a time keeps the session and the editor together, also
over a shutdown. -/
theorem documents_follow_single_changes :
    let first : Text := "file:///r/a.html".toList
    let second : Text := "untitled:b".toList
    let messages : List Message :=
      [.notification (.opened first "1".toList), .notification (.changed first ["2".toList]),
        .notification (.opened second []), .notification (.changed first []),
        .notification (.saved first none), .notification (.saved second (some "3".toList)),
        .notification (.closed first), .request .shutdown]
    Buffers.permitsAll fresh.documents.get? messages ∧
      ∀ front, front <+: messages →
        (fresh.reactAll .empty ⟨none, true⟩ front).documents.get? =
          Buffers.afterAll fresh.documents.get? front := by
  intro first second messages
  have permitted : Buffers.permitsAll fresh.documents.get? messages := by decide +kernel
  refine ⟨permitted, (documents_follow_buffers_iff fresh _ _ messages permitted).mpr ?_⟩
  simp [messages, Message.settles]

/-- Of two changes that are reported at once a running session keeps the first and the editor
the last. -/
theorem documents_miss_last_change :
    let spelling : Text := "file:///r/a.html".toList
    let uri : Uri := ⟨"file".toList, some .empty, .segments ["r".toList, "a.html".toList],
      none, none⟩
    let messages : List Message :=
      [.notification (.opened spelling "1".toList),
        .notification (.changed spelling ["2".toList, "3".toList])]
    let session : Session := ⟨.running, none, .empty⟩
    let steps : Session := messages.foldl
      (fun session message => (session.step .empty ⟨none, true⟩ message).session) session
    Buffers.permitsAll session.documents.get? messages ∧
      steps.documents.get? uri = some "2".toList ∧
      Buffers.afterAll session.documents.get? messages uri = some "3".toList := by
  decide +kernel

end Session

end SelectorNavigation
