import MathGrammar.Session

/-! # Histories of sessions

A session remembers nothing but the text last given for each document and the marker last chosen.
What an event publishes follows from these two, so that what happens to one document has no
influence on what is published about another. Of the workspace only one thing is asked: that it
gives back the text that was stored last. -/

namespace MathGrammar

/-! ### Workspaces -/

namespace Workspace

/-- The workspace gives back what was stored last. -/
structure ReturnsLast (workspace : Workspace) : Prop where
  /-- A document has the text that has just been stored for it. -/
  text_store : ∀ (state : workspace.State) (uri : String) (text : Text),
    workspace.text (workspace.store state uri text) uri = text
  /-- The other documents keep their texts. -/
  text_store_of_ne : ∀ (state : workspace.State) {uri other : String} (text : Text), other ≠ uri →
    workspace.text (workspace.store state uri text) other = workspace.text state other

/-- A document has the text that is listed first for it. -/
theorem getD_lookup_cons (texts : List (String × Text)) (uri other : String) (text : Text) :
    (((uri, text) :: texts).lookup other).getD []
      = if other = uri then text else (texts.lookup other).getD [] := by
  rw [List.lookup_cons]
  by_cases same : other = uri
  · rw [if_pos same, beq_iff_eq.2 same]
    rfl
  · rw [if_neg same, beq_eq_false_iff_ne.2 same]

/-- A list of texts gives back the last one, as it stands in front of the others. -/
theorem returnsLast_latestFirst : latestFirst.ReturnsLast where
  text_store texts uri text := (getD_lookup_cons texts uri uri text).trans (if_pos rfl)
  text_store_of_ne texts {uri other} text ne :=
    (getD_lookup_cons texts uri other text).trans (if_neg ne)

end Workspace

/-! ### Histories -/

namespace Event

/-- The choice of a marker that the event is, if it is one. -/
def choice? : Event → Option (Option Text)
  | .marker value => some value
  | .touched _ _ => none

/-- The text that the event gives for a document. -/
def textFor? (uri : String) : Event → Option Text
  | .marker _ => none
  | .touched other text => if other = uri then text else none

/-- Whether the event is about the document or about all documents. -/
def concerns (uri : String) : Event → Bool
  | .marker _ => true
  | .touched other _ => other = uri

/-- The marker in force after the events: the latest choice, or the default. -/
def markerAfter (events : List Event) : Text :=
  (events.reverse.findSome? choice?).join.getD defaultMarker

/-- The text last given for a document. -/
def lastText? (uri : String) (events : List Event) : Option Text :=
  events.reverse.findSome? (textFor? uri)

/-- No document is touched without a text before it was given one. -/
def Given (events : List Event) : Prop :=
  ∀ before uri after, events = before ++ .touched uri none :: after →
    ∃ text, .touched uri (some text) ∈ before

/-- Touching a document does not change the marker. -/
theorem markerAfter_append_touched (events : List Event) (uri : String) (text : Option Text) :
    markerAfter (events ++ [.touched uri text]) = markerAfter events := by
  rw [markerAfter, List.reverse_append]
  rfl

/-- Of a single event the last text is the one that it gives, if any. -/
theorem lastText?_singleton (uri : String) (event : Event) :
    lastText? uri [event] = event.textFor? uri := List.findSome?_singleton

/-- A later text stands in for an earlier one. -/
theorem lastText?_append (uri : String) (before behind : List Event) :
    lastText? uri (before ++ behind) = (lastText? uri behind).or (lastText? uri before) := by
  rw [lastText?, List.reverse_append, List.findSome?_append]
  rfl

/-- A document that is touched last has the text given there, or the one that it had before. -/
theorem lastText?_append_touched (events : List Event) (uri : String) (text : Option Text) :
    lastText? uri (events ++ [.touched uri text]) = text.or (lastText? uri events) := by
  rw [lastText?_append, lastText?_singleton, textFor?, if_pos rfl]

/-- A document that was given a text has a text. -/
theorem exists_lastText?_of_mem {uri : String} {text : Text} {events : List Event}
    (mem : .touched uri (some text) ∈ events) : ∃ last, lastText? uri events = some last := by
  refine Option.isSome_iff_exists.1 (List.findSome?_isSome_iff.2 ⟨_, List.mem_reverse.2 mem, ?_⟩)
  rw [textFor?, if_pos rfl]
  rfl

end Event

namespace Session

open Event

/-! ### Steps -/

variable {workspace : Workspace}

/-- Only the choice of a marker changes the marker. -/
theorem marker_step (session : Session workspace) (event : Event) :
    (session.step event).1.marker = event.choice?.getD session.marker := by
  rcases event with value | ⟨uri, _ | text⟩ <;> rfl

/-- A document has the text that the event gives for it, or the one that it had. -/
theorem text_step (returnsLast : workspace.ReturnsLast) (session : Session workspace)
    (event : Event)
    (uri : String) :
    (session.step event).1.text uri = (event.textFor? uri).getD (session.text uri) := by
  rcases event with value | ⟨other, _ | text⟩
  · rfl
  · rw [textFor?, ite_self]
    rfl
  · show workspace.text (workspace.store session.texts other text) uri = _
    by_cases same : other = uri
    · rw [textFor?, if_pos same, same, returnsLast.text_store]
      rfl
    · rw [textFor?, if_neg same, returnsLast.text_store_of_ne _ _ (Ne.symm same)]
      rfl

/-- What is published when a document is touched. -/
theorem published_touched (session : Session workspace) (uri : String) (text : Option Text) :
    (session.step (.touched uri text)).2
      = [⟨uri, (session.step (.touched uri text)).1.diagnose uri⟩] := rfl

/-- Nothing is published about a document when another one is touched. -/
theorem published_other (session : Session workspace) {uri : String} {event : Event}
    (other : event.concerns uri = false) :
    (session.step event).2.filter (fun n => n.uri = uri) = [] := by
  cases event with
  | marker value => rfl
  | touched name text =>
      have ne : name ≠ uri := by simpa [concerns] using other
      refine List.filter_eq_nil_iff.2 fun notification mem => ?_
      obtain rfl := List.mem_singleton.1 mem
      simpa using ne

/-! ### Runs -/

/-- The session after the events. -/
def after (session : Session workspace) (events : List Event) : Session workspace :=
  events.foldl (fun session event => (session.step event).1) session

/-- A session after one more event is one step further. -/
theorem after_append_singleton (session : Session workspace) (events : List Event) (event : Event) :
    session.after (events ++ [event]) = ((session.after events).step event).1 := by
  rw [after, List.foldl_append]
  rfl

/-- The marker is that of the last choice. -/
theorem marker_after (session : Session workspace) (events : List Event) :
    (session.after events).marker = (events.reverse.findSome? choice?).getD session.marker := by
  induction events generalizing session with
  | nil => rfl
  | cons event events ih =>
      show ((session.step event).1.after events).marker = _
      rw [ih, marker_step, List.reverse_cons, List.findSome?_append, List.findSome?_singleton]
      cases events.reverse.findSome? choice? <;> rfl

/-- The text of a document is the one last given for it. -/
theorem text_after (returnsLast : workspace.ReturnsLast) (session : Session workspace)
    (events : List Event) (uri : String) :
    (session.after events).text uri = (lastText? uri events).getD (session.text uri) := by
  induction events generalizing session with
  | nil => rfl
  | cons event events ih =>
      show ((session.step event).1.after events).text uri = _
      rw [ih, text_step returnsLast, ← List.singleton_append, lastText?_append, lastText?_singleton]
      cases lastText? uri events <;> rfl

/-- A run goes on from the session that the first events lead to. -/
theorem run_append (session : Session workspace) (before behind : List Event) :
    session.run (before ++ behind) = session.run before ++ (session.after before).run behind := by
  induction before generalizing session with
  | nil => rfl
  | cons event before ih => exact congrArg (_ :: ·) (ih _)

/-- Every event is answered, if only by nothing. -/
theorem length_run (session : Session workspace) (events : List Event) :
    (session.run events).length = events.length := by
  induction events generalizing session with
  | nil => rfl
  | cons event events ih => exact congrArg (· + 1) (ih _)

/-- An event publishes what it publishes behind the events before it. -/
theorem getElem?_run (session : Session workspace) (before behind : List Event) (event : Event) :
    (session.run (before ++ event :: behind))[before.length]?
      = some ((session.after before).step event).2 := by
  rw [run_append, List.getElem?_append_right (Nat.le_of_eq (length_run session before)), length_run,
    Nat.sub_self]
  rfl

/-- The problems of a document are those of the text last given for it, with the marker in force. -/
theorem diagnose_after (returnsLast : workspace.ReturnsLast) {events : List Event} {uri : String}
    {text : Text} (last : lastText? uri events = some text) :
    ((fresh workspace).after events).diagnose uri = diagnostics (markerAfter events) text := by
  have text_eq : ((fresh workspace).after events).text uri = text := by
    rw [text_after returnsLast, last]
    rfl
  have marker_eq :
      ((fresh workspace).after events).marker.getD defaultMarker = markerAfter events := by
    rw [marker_after, markerAfter]
    cases events.reverse.findSome? choice? <;> rfl
  rw [diagnose, text_eq, marker_eq]

/-! ### Other documents -/

/-- The sessions are the same as far as the document is concerned. -/
structure Agrees (uri : String) (first second : Session workspace) : Prop where
  /-- The same marker is in force. -/
  marker_eq : first.marker = second.marker
  /-- The document has the same text. -/
  text_eq : first.text uri = second.text uri

namespace Agrees

variable {uri : String} {first second : Session workspace} {event : Event}

/-- The same event leads to sessions that agree again. -/
theorem step (returnsLast : workspace.ReturnsLast) (agrees : Agrees uri first second)
    (event : Event) : Agrees uri (first.step event).1 (second.step event).1 where
  marker_eq := by rw [marker_step, marker_step, agrees.marker_eq]
  text_eq := by rw [text_step returnsLast, text_step returnsLast, agrees.text_eq]

/-- Sessions that agree on a document find the same problems in it. -/
theorem diagnose_eq (agrees : Agrees uri first second) :
    first.diagnose uri = second.diagnose uri := by
  rw [diagnose, diagnose, agrees.marker_eq, agrees.text_eq]

/-- What happens to another document changes nothing. -/
theorem step_left (returnsLast : workspace.ReturnsLast) (agrees : Agrees uri first second)
    (other : event.concerns uri = false) : Agrees uri (first.step event).1 second := by
  cases event with
  | marker value => exact absurd other (by simp [concerns])
  | touched name text =>
      have ne : name ≠ uri := by simpa [concerns] using other
      refine ⟨?_, ?_⟩
      · rw [marker_step, ← agrees.marker_eq]
        rfl
      · rw [text_step returnsLast, textFor?, if_neg ne, ← agrees.text_eq]
        rfl

/-- The same is published about the document. -/
theorem published_eq (returnsLast : workspace.ReturnsLast) (agrees : Agrees uri first second)
    (mine : event.concerns uri = true) :
    (first.step event).2.filter (fun n => n.uri = uri) = (second.step event).2 := by
  cases event with
  | marker value => rfl
  | touched name text =>
      obtain rfl : name = uri := by simpa [concerns] using mine
      rw [published_touched, published_touched,
        (agrees.step returnsLast (.touched name text)).diagnose_eq]
      exact List.filter_cons_of_pos (by simp)

/-- The same is published about the document when the events of other documents are left out. -/
theorem run (returnsLast : workspace.ReturnsLast) (agrees : Agrees uri first second)
    (events : List Event) :
    (first.run events).flatten.filter (fun n => n.uri = uri)
      = (second.run (events.filter (concerns uri))).flatten := by
  induction events generalizing first second with
  | nil => rfl
  | cons event events ih =>
      show ((first.step event).2 ++ ((first.step event).1.run events).flatten).filter _ = _
      rw [List.filter_append]
      cases mine : event.concerns uri with
      | true =>
          rw [agrees.published_eq returnsLast mine, ih (agrees.step returnsLast event),
            List.filter_cons_of_pos mine]
          rfl
      | false =>
          rw [published_other first mine, ih (agrees.step_left returnsLast mine),
            List.filter_cons_of_neg (by simp [mine]), List.nil_append]

end Agrees

/-- **A session has no memory beyond the current texts and the marker.** There is one entry for each
event. The choice of a marker publishes nothing; whenever a document is touched, the problems of the
text last given for it are published once, under the marker in force; and without the events of the
other documents the same is published about a document. This holds over every workspace that gives
back the text that was stored last. -/
theorem run_has_no_memory (workspace : Workspace) (returnsLast : workspace.ReturnsLast)
    (events : List Event) (given : Given events) :
    ((fresh workspace).run events).length = events.length ∧
    (∀ before value behind, events = before ++ .marker value :: behind →
      ((fresh workspace).run events)[before.length]? = some []) ∧
    (∀ before uri text behind, events = before ++ .touched uri text :: behind →
      ∃ last, lastText? uri (before ++ [.touched uri text]) = some last ∧
        ((fresh workspace).run events)[before.length]?
          = some [⟨uri, diagnostics (markerAfter before) last⟩]) ∧
    ∀ uri, ((fresh workspace).run events).flatten.filter (fun n => n.uri = uri)
      = ((fresh workspace).run (events.filter (concerns uri))).flatten := by
  refine ⟨length_run _ _, ?_, ?_, fun uri => Agrees.run returnsLast ⟨rfl, rfl⟩ events⟩
  · rintro before value behind rfl
    exact getElem?_run _ _ _ _
  · rintro before uri text behind rfl
    have known : ∃ last, lastText? uri (before ++ [.touched uri text]) = some last := by
      rw [lastText?_append_touched]
      cases text with
      | none =>
          obtain ⟨text, mem⟩ := given before uri behind rfl
          exact exists_lastText?_of_mem mem
      | some text => exact ⟨text, rfl⟩
    obtain ⟨last, last_eq⟩ := known
    refine ⟨last, last_eq, ?_⟩
    rw [getElem?_run, published_touched, ← after_append_singleton,
      diagnose_after returnsLast last_eq, markerAfter_append_touched]

/-- Over a list of texts, a document is saved twice without a new text, under a marker that is found
in it and then under one that is not. -/
theorem run_has_no_memory_of_saved_document :
    let text := ['%', '\n', 'x']
    let events := [.touched "a" (some text), .marker (some ['%']), .touched "b" (some ['y']),
      .touched "a" none, .marker none, .touched "a" none]
    Workspace.latestFirst.ReturnsLast ∧ Given events ∧
      (initial.run events)[3]? = some [⟨"a", diagnostics ['%'] text⟩] ∧
      (diagnostics ['%'] text).map Diagnostic.start = [⟨1, 0⟩] ∧
      (initial.run events)[5]? = some [⟨"a", []⟩] := by
  intro text events
  have given : Given events := by
    intro before uri after split
    cases before with
    | nil => exact absurd split (by simp [events])
    | cons first before =>
        obtain ⟨rfl, rest_eq⟩ := List.cons.inj split
        have mem : .touched uri none ∈ events.tail := by simp [events, rest_eq]
        have uri_eq : uri = "a" := by simpa [events] using mem
        exact ⟨text, uri_eq ▸ List.mem_cons_self⟩
  obtain ⟨-, -, published, -⟩ :=
    run_has_no_memory .latestFirst Workspace.returnsLast_latestFirst events given
  obtain ⟨first, first_last, first_eq⟩ := published (events.take 3) "a" none _ rfl
  obtain ⟨second, second_last, second_eq⟩ := published (events.take 5) "a" none _ rfl
  obtain rfl : text = first := Option.some.inj first_last
  obtain rfl : text = second := Option.some.inj second_last
  refine ⟨Workspace.returnsLast_latestFirst, given, first_eq, by decide +kernel,
    second_eq.trans ?_⟩
  have silent : diagnostics defaultMarker text = [] := by decide +kernel
  exact congrArg (fun found => some [(⟨"a", found⟩ : Notification)]) silent

end Session

end MathGrammar
